import RemoteFiles.Proofs.Client.Provenance
import RemoteFiles.Proofs.Client.Schedule

/-!
# What goes over the clipboard

Nothing that is copied or cut is lost, doubled or overtaken on its way over the clipboard.  The
`ledger` of a run has a line for everything that has left the clipboard, in the order in which
it left, and then one for everything that still waits; each line says what became of the content.
Its lines are what was queued, in the order in which it was queued (`clipboard_conserves`).

What a run has queued and pasted is read off what was asked for and what the service answered;
the clipboard itself is looked at for the content that stood first when a paste began, and for
what was there when it was cleared.  One operation keeps the balance between the two sides
(`plan_balances`), and so does everything that occurs (`Occurs.balances`).
-/

namespace RemoteFiles

/-- What becomes of content that was put on the clipboard. -/
inductive Fate
  | pasted
  | dropped
  | waiting
  deriving DecidableEq, Repr

/-- A write that was sent to the service; it is done when the service carried it out. -/
structure Write where
  target : String
  content : Option Payload
  isDone : Bool
  deriving DecidableEq

/-- The write that passed. -/
def Interaction.write? : Interaction → Option Write
  | submitted (.write target content) _ outcome => some ⟨target, content, outcome.isOk⟩
  | _ => none

/-- The writes that were sent, in order. -/
def writes (log : List Interaction) : List Write := log.filterMap Interaction.write?

namespace Operation

/-- What an operation begun in the workspace `w` has queued: a copy without a new name queues
what it read. -/
def queued (w : Workspace) (log : List Interaction) :
    (op : Operation) → Except OperationError op.Result → List Clipping
  | copy name none isCut, .ok _ =>
    [⟨lastSegment name, some (Path.join w.directory name), answered log, isCut⟩]
  | _, _ => []

/-- What an operation begun in the workspace `w` has pasted: a paste whose write is done has
pasted what waited longest. -/
def pasted (w : Workspace) (log : List Interaction) : Operation → List Clipping
  | paste => if (writes log).any Write.isDone then w.clipboard.toList.take 1 else []
  | _ => []

end Operation

/-- Whatever is written between the workspaces `w` and `w'` is the content that waited longest,
under its own name; it has left the clipboard if the write is done, and otherwise the clipboard
is as it was. -/
def WritesOldest (w : Workspace) (log : List Interaction) (w' : Workspace) : Prop :=
  ∀ write ∈ writes log, ∃ clipping rest, w.clipboard.dequeue? = some (clipping, rest) ∧
    write.target = Path.join w.directory clipping.name ∧
    write.content = some clipping.content ∧
    w'.clipboard = if write.isDone then rest else w.clipboard

namespace Episode

/-- What an episode has queued. -/
def queued : Episode → List Clipping
  | ⟨.perform op, before, log, reply, _⟩ => op.queued before.workspace log reply
  | _ => []

/-- What an episode has pasted. -/
def pasted : Episode → List Clipping
  | ⟨.perform op, before, log, _, _⟩ => op.pasted before.workspace log
  | _ => []

/-- What an episode has dropped from the clipboard. -/
def dropped : Episode → List Clipping
  | ⟨.clearClipboard, before, _, _, _⟩ => before.clipboard.toList
  | _ => []

/-- What has left the clipboard in an episode, and how. -/
def departures (e : Episode) : List (Clipping × Fate) :=
  e.pasted.map (·, .pasted) ++ e.dropped.map (·, .dropped)

end Episode

/-- Everything that was on the clipboard in some episodes, which left `b` behind: first what left
it, in that order, then what waits, oldest first. -/
def ledger (episodes : List Episode) (b : Clipboard) : List (Clipping × Fate) :=
  episodes.flatMap Episode.departures ++ b.toList.map (·, .waiting)

/-! ### The ledger -/

theorem map_fst_ledger (episodes : List Episode) (b : Clipboard) :
    (ledger episodes b).map Prod.fst =
      episodes.flatMap (fun e => e.pasted ++ e.dropped) ++ b.toList := by
  simp [ledger, Episode.departures, List.map_flatMap, Function.comp_def]

/-- The lines of a ledger of some fates. -/
theorem map_fst_filter_ledger (keep : Fate → Bool) (episodes : List Episode) (b : Clipboard) :
    ((ledger episodes b).filter (keep ·.2)).map Prod.fst =
      (episodes.flatMap fun e =>
        (if keep .pasted then e.pasted else []) ++ (if keep .dropped then e.dropped else [])) ++
      if keep .waiting then b.toList else [] := by
  have hfate : ∀ (l : List Clipping) (fate : Fate),
      ((l.map (·, fate)).filter (keep ·.2)).map Prod.fst = if keep fate then l else [] := by
    intro l fate
    cases hkeep : keep fate <;> simp [List.filter_map, Function.comp_def, hkeep]
  rw [ledger, List.filter_append, List.map_append, hfate, List.filter_flatMap, List.map_flatMap]
  simp only [Episode.departures, List.filter_append, List.map_append, hfate]

/-! ### The plans -/

namespace Operation

/-- What waited when an operation began in the workspace `w`, and behind it what it queued, is
what it pasted, and behind it what waits when it ends. -/
structure Balances (op : Operation) (w : Workspace) (log : List Interaction)
    (result : Except OperationError op.Result) (w' : Workspace) (_ : Auth.Session) : Prop where
  balance : w.clipboard.toList ++ op.queued w log result =
    op.pasted w log ++ w'.clipboard.toList
  oldest : op = .paste → WritesOldest w log w'

section
variable {op : Operation} {w w' : Workspace} {log : List Interaction} {b : Event}

/-- An operation that queues nothing, pastes nothing and leaves the clipboard alone. -/
theorem balances_same {result : Except OperationError op.Result} {session : Auth.Session}
    (hqueued : op.queued w log result = []) (hpaste : op ≠ .paste)
    (h : w'.clipboard = w.clipboard) : op.Balances w log result w' session := by
  have hpasted : op.pasted w log = [] := by
    cases op with
    | paste => exact absurd rfl hpaste
    | _ => rfl
  refine ⟨?_, fun hop => absurd hop hpaste⟩
  rw [hqueued, hpasted, h, List.append_nil, List.nil_append]

/-- A plan of one request that is neither a copy nor a paste. -/
theorem single_balances (r : Request) (a : Payload → op.Result)
    (hqueued : ∀ log result, op.queued w log result = []) (hpaste : op ≠ .paste)
    (past : List Interaction) :
    (Plan.submit r id fun body => .done (a body)).Meets (fun _ _ => True) (op.Balances w) past w :=
  .submit (fun _ => trivial) (fun _ _ _ _ => balances_same (hqueued _ _) hpaste rfl)
    fun _ _ _ => .done fun _ => balances_same (hqueued _ _) hpaste rfl

theorem planList_balances (directory : String) (path : Option String) (past : List Interaction) :
    (planList directory).Meets (fun _ _ => True) ((list path).Balances w) past w := by
  refine .submit (fun _ => trivial) (fun _ _ _ _ => balances_same rfl (by simp) rfl)
    fun nonce token body => ?_
  split
  · exact .done fun _ => balances_same rfl (by simp) rfl
  · exact .fail fun _ => balances_same rfl (by simp) rfl

theorem planCopy_balances (name : String) (newName : Option String) (isCut : Bool) :
    (planCopy w.directory name newName isCut).Meets (fun _ _ => True)
      ((copy name newName isCut).Balances w) [.announced b] w := by
  unfold planCopy
  cases newName with
  | none =>
    refine .submit (fun _ => trivial) (fun _ _ _ _ => balances_same rfl (by simp) rfl)
      fun nonce token content => .change (.done fun session => ⟨rfl, by simp⟩)
  | some newName =>
    refine .submit (fun _ => trivial) (fun _ _ _ _ => balances_same rfl (by simp) rfl)
      fun nonce token content => ?_
    refine .submit (fun _ => trivial) (fun _ _ _ _ => balances_same rfl (by simp) rfl)
      fun nonce' token' receipt => ?_
    split_ifs
    · exact single_balances _ _ (fun _ _ => rfl) (by simp) _
    · exact .done fun _ => balances_same rfl (by simp) rfl

theorem balances_unpasted {result : Except OperationError paste.Result} {session : Auth.Session}
    (hlog : writes log = []) (h : w'.clipboard = w.clipboard) :
    paste.Balances w log result w' session := by
  refine ⟨?_, fun _ write hmem => ?_⟩
  · rw [pasted, hlog, h]
    exact List.append_nil _
  · rw [hlog] at hmem
    exact absurd hmem List.not_mem_nil

/-- A paste that has sent its write. -/
theorem balances_pasted {clipping : Clipping} {rest : Clipboard} {isDone : Bool}
    {result : Except OperationError paste.Result} {session : Auth.Session}
    (hdequeue : w.clipboard.dequeue? = some (clipping, rest))
    (hlog : writes log =
      [⟨Path.join w.directory clipping.name, some clipping.content, isDone⟩])
    (h : w'.clipboard = if isDone then rest else w.clipboard) :
    paste.Balances w log result w' session := by
  refine ⟨?_, fun _ write hmem => ?_⟩
  · rw [pasted, hlog, h, toList_of_dequeue? hdequeue]
    cases isDone <;> simp [queued, toList_of_dequeue? hdequeue]
  · rw [hlog, List.mem_singleton] at hmem
    subst hmem
    exact ⟨clipping, rest, hdequeue, rfl, rfl, h⟩

theorem planPaste_balances :
    (planPaste w).Meets (fun _ _ => True) (paste.Balances w) [.announced b] w := by
  unfold planPaste
  split
  · exact .done fun _ => balances_unpasted rfl rfl
  · rename_i clipping rest hdequeue
    refine .change (.submit (fun _ => trivial) (fun nonce token refusal session => ?_)
      fun nonce token receipt => ?_)
    · -- the write was refused, and the clipping is back where it was
      exact balances_pasted hdequeue rfl (Clipboard.restore_of_dequeue? hdequeue)
    · -- the write is done, and no other one follows
      split
      · split_ifs
        · exact .done fun _ => balances_pasted hdequeue rfl rfl
        · exact .submit (fun _ => trivial) (fun _ _ _ _ => balances_pasted hdequeue rfl rfl)
            fun _ _ _ => .done fun _ => balances_pasted hdequeue rfl rfl
      · exact .done fun _ => balances_pasted hdequeue rfl rfl

theorem planMove_balances (source destination oldName newName : String)
    (past : List Interaction) :
    (planMove source destination).Meets (fun _ _ => True) ((move oldName newName).Balances w) past
      w := by
  unfold planMove
  split_ifs
  · exact .done fun _ => balances_same rfl (by simp) rfl
  · refine .submit (fun _ => trivial) (fun _ _ _ _ => balances_same rfl (by simp) rfl)
      fun nonce token content => ?_
    refine .submit (fun _ => trivial) (fun _ _ _ _ => balances_same rfl (by simp) rfl)
      fun nonce' token' receipt => ?_
    exact single_balances _ _ (fun _ _ => rfl) (by simp) _

theorem planUpload_balances (directory : String) (path : Disk.Path) (past : List Interaction) :
    (planUpload directory path).Meets (fun _ _ => True) ((upload path).Balances w) past w := by
  unfold planUpload
  split
  · exact .fail fun _ => balances_same rfl (by simp) rfl
  · refine .readFile (fun _ _ => balances_same rfl (by simp) rfl) fun data => ?_
    exact single_balances _ _ (fun _ _ => rfl) (by simp) _

theorem plan_balances (op : Operation) (w : Workspace) (b : Event) :
    (op.plan w).Meets (fun _ _ => True) (op.Balances w) [.announced b] w := by
  cases op with
  | list path => exact planList_balances _ path _
  | changeDirectory path => exact .change (.done fun _ => balances_same rfl (by simp) rfl)
  | copy name newName isCut => exact planCopy_balances name newName isCut
  | paste => exact planPaste_balances
  | move oldName newName => exact planMove_balances _ _ oldName newName _
  | upload path => exact planUpload_balances _ path _
  | remove name | makeDirectory name | uploadBytes name data | download name
  | update name content => exact single_balances _ _ (fun _ _ => rfl) (by simp) _

end

end Operation

/-! ### The runs -/

section
variable {σ : Type} {h : Host (StateM σ)} {x y : Scene σ} {e : Episode}

theorem writes_announced (log : List Interaction) (e : Event) :
    writes (log ++ [.announced e]) = writes log := by
  rw [writes, List.filterMap_append]
  exact List.append_nil _

/-- What an operation has queued and pasted does not hang on its last announcement. -/
theorem Operation.Balances.announced {op : Operation} {w w' : Workspace} {log : List Interaction}
    {result : Except OperationError op.Result} {session : Auth.Session}
    (hb : op.Balances w log result w' session) (e : Event) :
    op.Balances w (log ++ [.announced e]) result w' session := by
  have hqueued : op.queued w (log ++ [.announced e]) result = op.queued w log result := by
    unfold queued
    rw [answered_announced]
  have hpasted : op.pasted w (log ++ [.announced e]) = op.pasted w log := by
    unfold pasted
    rw [writes_announced]
  refine ⟨?_, fun hop => ?_⟩
  · rw [hqueued, hpasted]
    exact hb.balance
  · rw [WritesOldest, writes_announced]
    exact hb.oldest hop

theorem Occurs.balances (occurs : Occurs h x e y) :
    x.client.clipboard.toList ++ e.queued =
        (e.pasted ++ e.dropped) ++ y.client.clipboard.toList ∧
      (e.action = .perform .paste →
        WritesOldest e.before.workspace e.log e.after.workspace) := by
  cases occurs with
  | @performed op log result y course =>
    have hend := course.end_of_meets (Operation.plan_balances op x.client.workspace
      (.began x.client.nextId op.kind))
    have hwhole := hend.announced (.settled x.client.nextId op.kind result)
    refine ⟨?_, fun hop => hwhole.oldest (by injection hop)⟩
    show _ = (_ ++ []) ++ _
    rw [List.append_nil]
    exact hwhole.balance
  | cleared => exact ⟨rfl, fun hop => by cases hop⟩
  | inquired asked | inquiredQuietly asked =>
    refine ⟨?_, fun hop => by cases hop⟩
    have hboard := congrArg Workspace.clipboard asked.workspace_eq
    exact (List.append_nil _).trans (congrArg Clipboard.toList hboard.symm)
  | challenged | tokenMade => exact ⟨List.append_nil _, fun hop => by cases hop⟩

/-- What was queued so far is what has left the clipboard and, behind it, what waits. -/
def Balanced (past : List Episode) (c : Client) : Prop :=
  past.flatMap Episode.queued =
    (past.flatMap fun e => e.pasted ++ e.dropped) ++ c.clipboard.toList

theorem Balanced.step {past : List Episode} (hb : Balanced past x.client)
    (occurs : Occurs h x e y) : Balanced (past ++ [e]) y.client := by
  unfold Balanced at hb ⊢
  have hstep := occurs.balances.1
  calc (past ++ [e]).flatMap Episode.queued
      = (past.flatMap fun e => e.pasted ++ e.dropped) ++
          (x.client.clipboard.toList ++ e.queued) := by
        rw [List.flatMap_append, hb, List.flatMap_singleton, List.append_assoc]
    _ = ((past ++ [e]).flatMap fun e => e.pasted ++ e.dropped) ++ y.client.clipboard.toList := by
        rw [hstep, List.flatMap_append, List.flatMap_singleton]
        exact (List.append_assoc _ _ _).symm

/-- **Conservation**: the ledger of a run lists what was queued, in the order of queueing.  Without
what was dropped by clearing, that is what was pasted, in the order of the writes, followed by
what waits; and a paste writes what waited longest, which stays where it is if the write fails. -/
theorem clipboard_conserves (h : Host (StateM σ)) (directory : String) (s : σ)
    (actions : List Action) :
    let episodes := (run h actions ⟨.startingIn directory, s⟩).1
    let clipboard := (run h actions ⟨.startingIn directory, s⟩).2.client.clipboard
    (ledger episodes clipboard).map Prod.fst = episodes.flatMap Episode.queued ∧
      ((ledger episodes clipboard).filter (·.2 = .dropped)).map Prod.fst =
        episodes.flatMap Episode.dropped ∧
      ((ledger episodes clipboard).filter (·.2 ≠ .dropped)).map Prod.fst =
        episodes.flatMap Episode.pasted ++ clipboard.toList ∧
      ∀ e ∈ episodes, e.action = .perform .paste →
        WritesOldest e.before.workspace e.log e.after.workspace := by
  intro episodes clipboard
  have hbalanced := run_invariant_end h (P := Balanced) (fun hb occurs => hb.step occurs) actions
    ⟨.startingIn directory, s⟩ [] rfl
  refine ⟨?_, ?_, ?_, ?_⟩
  · rw [map_fst_ledger]
    exact hbalanced.symm
  · have hdropped := map_fst_filter_ledger (· = .dropped) episodes clipboard
    simpa using hdropped
  · have hkept := map_fst_filter_ledger (· ≠ .dropped) episodes clipboard
    simpa using hkept
  · intro e hmem hpaste
    obtain ⟨earlier, later, hrun⟩ := List.append_of_mem hmem
    obtain ⟨x, y, occurs, -⟩ := run_invariant h (P := fun _ _ => True) (fun _ _ => trivial) actions
      ⟨.startingIn directory, s⟩ [] trivial hrun
    exact occurs.balances.2 hpaste

end

/-- A host that accepts every request alike, but for those to one target. -/
def Host.refusing (target : String) : Host (StateM Unit) :=
  let accepting := Host.constant (.ok .empty) (.ok none)
  { accepting with
    service := { accepting.service with
      submit r _ := pure (if r.target = target then .error (.notFound target) else .ok .empty) } }

/-- Here the first paste is refused, the second one pastes `a`, clearing drops `b`, and `c` still
waits. -/
theorem clipboard_conserves_of_refused :
    ∃ earlier e later x,
      run (.refusing "/d/a")
          [.perform (.copy "a" none true), .perform (.copy "b" none false),
            .perform (.changeDirectory "d"), .perform .paste, .perform (.changeDirectory "/"),
            .perform .paste, .clearClipboard, .perform (.copy "c" none false)]
          ⟨.startingIn "/", ()⟩ = (earlier ++ e :: later, x) ∧
        (ledger (earlier ++ e :: later) x.client.clipboard).map
            (fun line => (line.1.name, line.2)) =
          [("a", .pasted), ("b", .dropped), ("c", .waiting)] ∧
        writes e.log = [⟨"/d/a", some .empty, false⟩] ∧
        WritesOldest e.before.workspace e.log e.after.workspace := by
  refine ⟨[_, _, _], _, [_, _, _, _], _, rfl, by decide +kernel, by decide +kernel, ?_⟩
  have hconserves := clipboard_conserves (.refusing "/d/a") "/" ()
    [.perform (.copy "a" none true), .perform (.copy "b" none false),
      .perform (.changeDirectory "d"), .perform .paste, .perform (.changeDirectory "/"),
      .perform .paste, .clearClipboard, .perform (.copy "c" none false)]
  exact hconserves.2.2.2 _ (List.mem_append_right [_, _, _] List.mem_cons_self) rfl

end RemoteFiles
