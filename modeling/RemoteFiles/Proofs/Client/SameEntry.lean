import RemoteFiles.Proofs.Client.PasteName
import RemoteFiles.Proofs.Client.Schedule

/-!
# Transfers of an entry onto itself

A transfer reads or has read at its source, writes at its destination, and deletes at its source if
this is moved or cut and is another path.  The delete is sent exactly if the write was accepted
(`Occurs.sendsDelete_iff`, which is read off the schedule of the operation).

Paths are compared as texts, with the slash that a directory is written with.  Two names for one
entry, one written as a directory and the other not, are joined to two paths, and so a transfer from
one to the other deletes what it has written, for the service knows one entry by both.  That is the
only way in which it does (`transfer_within_entry_deletes_iff`, `transfer_within_entry_keeps_not`).
-/

namespace RemoteFiles

open Operation (lastSegment)
open RemoteFiles.Path (IsDirectoryName)

/-- A delete was sent to the service. -/
def SendsDelete (log : List Interaction) : Prop :=
  ∃ source outcome, (.delete source, outcome) ∈ exchanges log

/-- A write at the path was sent to the service and accepted. -/
def HasWritten (path : String) (log : List Interaction) : Prop :=
  ∃ content receipt, (.write path content, .ok receipt) ∈ exchanges log

namespace Operation

/-- Begun in the workspace `w`, an operation brings what is read at a source to a destination; what
is moved or cut is to go away at its source. -/
inductive Transfers (w : Workspace) : Operation → String → String → Bool → Prop
  | move (oldName newName : String) :
      Transfers w (.move oldName newName) (Path.join w.directory oldName)
        (Path.join w.directory newName) true
  | copy (name newName : String) (isCut : Bool) :
      Transfers w (.copy name (some newName) isCut) (Path.join w.directory name)
        (Path.join w.directory newName) isCut
  | paste {clipping rest source} (oldest : w.clipboard.dequeue? = some (clipping, rest))
      (origin_eq : clipping.origin = some source) :
      Transfers w .paste source (Path.join w.directory clipping.name) clipping.isCut

/-! ### Schedules of transfers -/

section
variable {op : Operation} {w : Workspace} {source destination : String} {isCut : Bool}

theorem Transfers.isTransfer_eq (t : op.Transfers w source destination isCut) :
    op.isTransfer = true := by
  cases t <;> rfl

/-- What goes away goes away last, after it was written. -/
theorem Transfers.schedule_eq (t : op.Transfers w source destination isCut) (hcut : isCut = true)
    (hne : source ≠ destination) (content : Payload) (data : ByteArray) :
    ∃ start written, op.schedule w content data =
        start ++ [.write destination written] ++ [.delete source] ∧
      ∀ r ∈ start, r = .read source := by
  cases t with
  | move oldName newName =>
    refine ⟨[.read (Path.join w.directory oldName)], some content, ?_, by simp⟩
    simp only [schedule, if_neg hne, List.cons_append, List.nil_append]
  | copy name newName isCut =>
    refine ⟨[.read (Path.join w.directory name)], some content, ?_, by simp⟩
    simp only [schedule, cleanup, if_pos (And.intro hcut hne), List.cons_append, List.nil_append]
  | @paste clipping rest source oldest origin_eq =>
    refine ⟨[], some clipping.content, ?_, by simp⟩
    simp only [schedule, oldest, origin_eq, cleanup, Option.toList_some, List.flatMap_singleton,
      if_pos (And.intro hcut hne), List.cons_append, List.nil_append]

/-- What stays, or would go away where it was written, is not deleted. -/
theorem Transfers.delete_notMem_schedule (t : op.Transfers w source destination isCut)
    (hkept : ¬(isCut = true ∧ source ≠ destination)) (content : Payload) (data : ByteArray)
    (path : String) : .delete path ∉ op.schedule w content data := by
  cases t with
  | move oldName newName =>
    have hsame : Path.join w.directory oldName = Path.join w.directory newName := by
      by_contra hne
      exact hkept ⟨rfl, hne⟩
    simp [schedule, if_pos hsame]
  | copy name newName isCut => simp [schedule, cleanup, if_neg hkept]
  | paste oldest origin_eq => simp [schedule, oldest, origin_eq, cleanup, if_neg hkept]

end

section
variable {op : Operation} {w : Workspace} {log : List Interaction}
  {result : Except OperationError op.Result} {inEffect : Auth.Challenge}

/-- A transfer to which nothing is refused sends all that is scheduled. -/
theorem Conforms.sent_eq_of_accepted (hc : op.Conforms w log result inEffect)
    (htransfer : op.isTransfer = true) (haccepted : AllAccepted log) :
    (exchanges log).map Prod.fst = op.scheduled w log := by
  cases result with
  | ok a => exact (hc.completed_iff.mp rfl).1
  | error cause =>
    -- an error of a transfer tells of a refusal
    cases hc.explained cause rfl with
    | refused last => cases haccepted _ (List.mem_of_getLast? last)
    | undecodable op_eq | unnamed op_eq | unreadable op_eq =>
      rw [op_eq] at htransfer
      cases htransfer

/-- The last exchange is that of the last request. -/
theorem eq_concat_of_map_fst {exchanges : List (Request × Outcome)} {before : List Request}
    {r : Request} (h : exchanges.map Prod.fst = before ++ [r]) :
    ∃ earlier outcome, exchanges = earlier ++ [(r, outcome)] ∧ earlier.map Prod.fst = before := by
  obtain ⟨earlier, last, hsplit, hbefore, hlast⟩ := List.map_eq_append_iff.mp h
  obtain ⟨⟨r', outcome⟩, rfl, rfl⟩ := List.map_eq_singleton_iff.mp hlast
  exact ⟨earlier, outcome, hsplit, hbefore⟩

/-- If the request before the last one was accepted, nothing was refused before the last one. -/
theorem Conforms.allAccepted_of_mem (hc : op.Conforms w log result inEffect)
    {start : List Request} {r : Request} {receipt : Payload}
    (hsent : (exchanges log).map Prod.fst <+: start ++ [r]) (hstart : r ∉ start)
    (hr : (r, .ok receipt) ∈ exchanges log) : AllAccepted log := by
  rcases List.prefix_concat_iff.mp hsent with hall | hbefore
  · obtain ⟨earlier, outcome, hsplit, hbefore⟩ := eq_concat_of_map_fst hall
    have haccepted := hc.accepted
    rw [hsplit, List.dropLast_concat] at haccepted
    rw [hsplit, List.mem_append, List.mem_singleton] at hr
    -- the request is sent only once, and so this is its outcome
    have hlast : (r, .ok receipt) = (r, outcome) := by
      refine hr.resolve_left fun hearlier => hstart ?_
      rw [← hbefore]
      exact List.mem_map_of_mem hearlier
    intro exchange hmem
    rw [hsplit, List.mem_append, List.mem_singleton] at hmem
    rcases hmem with hearlier | rfl
    · exact haccepted exchange hearlier
    · rw [← hlast]
      rfl
  · exact absurd (hbefore.subset (List.mem_map_of_mem hr)) hstart

/-- The request that is scheduled last is sent exactly if the one before it was accepted. -/
theorem Conforms.last_mem_iff (hc : op.Conforms w log result inEffect)
    (htransfer : op.isTransfer = true) {start : List Request} {r last : Request}
    (hscheduled : op.scheduled w log = start ++ [r] ++ [last]) (hstart : r ∉ start)
    (hlast : last ∉ start ++ [r]) :
    last ∈ (exchanges log).map Prod.fst ↔ ∃ receipt, (r, .ok receipt) ∈ exchanges log := by
  have horder := hc.in_order
  rw [hscheduled] at horder
  rcases List.prefix_concat_iff.mp horder with hall | hsome
  · -- all is sent, so the request before the last one is among those that were accepted
    refine iff_of_true (by rw [hall]; exact List.mem_concat_self) ?_
    obtain ⟨earlier, outcome, hsplit, hearlier⟩ := eq_concat_of_map_fst hall
    obtain ⟨before, outcome', rfl, -⟩ := eq_concat_of_map_fst hearlier
    have hmem : (r, outcome') ∈ before ++ [(r, outcome')] := List.mem_concat_self
    have hok := hc.accepted (r, outcome') (by rw [hsplit, List.dropLast_concat]; exact hmem)
    cases outcome' with
    | error refusal => cases hok
    | ok receipt =>
      rw [hsplit]
      exact ⟨receipt, List.mem_append_left _ hmem⟩
  · -- the last one is missing; were the one before it accepted, nothing would be refused
    refine iff_of_false (fun hmem => hlast (hsome.subset hmem)) ?_
    rintro ⟨receipt, hr⟩
    have hsent := hc.sent_eq_of_accepted htransfer (hc.allAccepted_of_mem hsome hstart hr)
    have hlength := hsome.length_le
    rw [hsent, hscheduled] at hlength
    simp at hlength

section
variable {source destination : String} {written : Option Payload}
  (hsent : ∀ {r outcome}, (r, outcome) ∈ exchanges log →
    r = .read source ∨ r = .write destination written ∨ r = .delete source)
include hsent

/-- The only delete is the one at the source. -/
theorem sendsDelete_iff_mem :
    SendsDelete log ↔ .delete source ∈ (exchanges log).map Prod.fst := by
  rw [List.mem_map]
  constructor
  · rintro ⟨path, outcome, hmem⟩
    rcases hsent hmem with heq | heq | heq <;> cases heq
    exact ⟨_, hmem, rfl⟩
  · rintro ⟨⟨_, outcome⟩, hmem, rfl⟩
    exact ⟨source, outcome, hmem⟩

/-- The only write is the one at the destination. -/
theorem hasWritten_iff_mem :
    HasWritten destination log ↔
      ∃ receipt, (.write destination written, .ok receipt) ∈ exchanges log := by
  constructor
  · rintro ⟨content, receipt, hmem⟩
    rcases hsent hmem with heq | heq | heq <;> cases heq
    exact ⟨receipt, hmem⟩
  · rintro ⟨receipt, hmem⟩
    exact ⟨written, receipt, hmem⟩

end

/-- A transfer deletes exactly if what it takes goes away and its write elsewhere was accepted. -/
theorem Conforms.sendsDelete_iff (hc : op.Conforms w log result inEffect)
    {source destination : String} {isCut : Bool} (t : op.Transfers w source destination isCut) :
    SendsDelete log ↔ isCut = true ∧ source ≠ destination ∧ HasWritten destination log := by
  have hsubset := hc.in_order.subset
  by_cases hcut : isCut = true ∧ source ≠ destination
  · obtain ⟨start, written, hscheduled, hstart⟩ :=
      t.schedule_eq hcut.1 hcut.2 (answered log) (localData log)
    have hsent : ∀ {r outcome}, (r, outcome) ∈ exchanges log →
        r = .read source ∨ r = .write destination written ∨ r = .delete source := by
      intro r outcome hmem
      have hr : r ∈ start ++ [.write destination written] ++ [.delete source] :=
        hscheduled ▸ hsubset (List.mem_map_of_mem hmem)
      simp only [List.mem_append, List.mem_singleton, or_assoc] at hr
      exact hr.imp_left (hstart r)
    -- neither the write nor the delete is among the reads at the start
    have hwrite : .write destination written ∉ start := fun hr => by cases hstart _ hr
    have hdelete : .delete source ∉ start ++ [.write destination written] := by
      rw [List.mem_append, List.mem_singleton]
      rintro (hr | hr)
      · cases hstart _ hr
      · cases hr
    have hlast := hc.last_mem_iff t.isTransfer_eq hscheduled hwrite hdelete
    rw [sendsDelete_iff_mem hsent, hlast, hasWritten_iff_mem hsent]
    exact ⟨fun hr => ⟨hcut.1, hcut.2, hr⟩, fun hr => hr.2.2⟩
  · -- no delete is scheduled
    refine iff_of_false ?_ fun hr => hcut ⟨hr.1, hr.2.1⟩
    rintro ⟨path, outcome, hmem⟩
    exact t.delete_notMem_schedule hcut (answered log) (localData log) path
      (hsubset (List.mem_map_of_mem hmem))

end

end Operation

variable {σ : Type}

theorem Occurs.sendsDelete_iff {h : Host (StateM σ)} {x y : Scene σ} {e : Episode} {op : Operation}
    {source destination : String} {isCut : Bool} (occurs : Occurs h x e y)
    (hop : e.action = .perform op)
    (t : op.Transfers e.before.workspace source destination isCut) :
    SendsDelete e.log ↔ isCut = true ∧ source ≠ destination ∧ HasWritten destination e.log := by
  have hbefore := occurs.before_eq
  obtain ⟨action, before, log, reply, after⟩ := e
  obtain rfl : action = .perform op := hop
  obtain rfl : before = x.client := hbefore
  exact occurs.conforms.1.sendsDelete_iff t

/-! ### Names of what is transferred -/

/-- In the episode that follows `earlier`, what a name names in the working directory is transferred
to another name there; `isCut` tells whether it is to go away at its old name.  What is pasted was
copied or cut in the same directory, and goes to the last segment of its name. -/
inductive TransfersName (earlier : List Episode) (e : Episode) : String → String → Bool → Prop
  | moved {oldName newName} (action_eq : e.action = .perform (.move oldName newName)) :
      TransfersName earlier e oldName newName true
  | copied {oldName newName isCut}
      (action_eq : e.action = .perform (.copy oldName (some newName) isCut)) :
      TransfersName earlier e oldName newName isCut
  | pasted {oldName clipping rest copied} (action_eq : e.action = .perform .paste)
      (oldest : e.before.clipboard.dequeue? = some (clipping, rest))
      (copied_mem : copied ∈ earlier) (queued : clipping ∈ copied.queued)
      (copied_action_eq : copied.action = .perform (.copy oldName none clipping.isCut))
      (directory_eq : copied.before.directory = e.before.directory) :
      TransfersName earlier e oldName (lastSegment oldName) clipping.isCut

theorem TransfersName.exists_transfers {earlier : List Episode} {e : Episode}
    {oldName newName : String} {isCut : Bool} (t : TransfersName earlier e oldName newName isCut) :
    ∃ op, e.action = .perform op ∧
      op.Transfers e.before.workspace (Path.join e.before.directory oldName)
        (Path.join e.before.directory newName) isCut := by
  cases t with
  | moved action_eq => exact ⟨_, action_eq, .move _ _⟩
  | copied action_eq => exact ⟨_, action_eq, .copy _ _ _⟩
  | pasted action_eq oldest copied_mem queued copied_action_eq directory_eq =>
    obtain ⟨name, haction, hname, horigin⟩ := Episode.eq_of_mem_queued queued
    obtain rfl : oldName = name := by
      rw [copied_action_eq, Action.perform.injEq, Operation.copy.injEq] at haction
      exact haction.1
    rw [directory_eq] at horigin
    rw [← hname]
    exact ⟨_, action_eq, .paste oldest horigin⟩

/-- **Transfers of an entry onto itself**: what is moved, copied to a new name, or pasted in the
directory in which it was copied or cut, and goes to a name of the same entry, is deleted exactly if
it was to go away, its write was accepted, it is not the root, and one of its two names is written
as a directory and the other not. -/
theorem transfer_within_entry_deletes_iff (h : Host (StateM σ)) (directory : String) (s : σ)
    (actions : List Action) {earlier later : List Episode} {e : Episode}
    {oldName newName : String} {isCut : Bool}
    (hrun : (run h actions ⟨.startingIn directory, s⟩).1 = earlier ++ e :: later)
    (t : TransfersName earlier e oldName newName isCut)
    (hsame : Path.joinDirectory e.before.directory oldName =
      Path.joinDirectory e.before.directory newName) :
    SendsDelete e.log ↔
      isCut = true ∧ HasWritten (Path.join e.before.directory newName) e.log ∧
        Path.joinDirectory e.before.directory oldName ≠ "/" ∧
        ¬(IsDirectoryName oldName ↔ IsDirectoryName newName) := by
  obtain ⟨x, y, occurs, -⟩ := exists_queued h directory s actions hrun
  obtain ⟨op, hop, transfers⟩ := t.exists_transfers
  rw [occurs.sendsDelete_iff hop transfers, ne_eq, Path.join_eq_join_iff hsame, not_or]
  constructor
  · rintro ⟨hcut, ⟨hroot, hnames⟩, hwritten⟩
    exact ⟨hcut, hwritten, hroot, hnames⟩
  · rintro ⟨hcut, hwritten, hroot, hnames⟩
    exact ⟨hcut, ⟨hroot, hnames⟩, hwritten⟩

/-- What was cut by the name of a directory and is pasted where it was is deleted. -/
theorem transfer_within_entry_deletes_iff_of_cut :
    ∃ e₁ e₂,
      (run (.constant (.ok .empty) (.ok none))
          [.perform (.copy "x/" none true), .perform .paste] ⟨.startingIn "/d", ()⟩).1 =
        [e₁] ++ e₂ :: [] ∧
      TransfersName [e₁] e₂ "x/" "x" true ∧
      Path.joinDirectory e₂.before.directory "x/" = Path.joinDirectory e₂.before.directory "x" ∧
      SendsDelete e₂.log := by
  obtain ⟨e₁, e₂, hrun, haction, hop, hdirectory, hdequeue, hqueued, hwritten⟩ : ∃ e₁ e₂,
      (run (.constant (.ok .empty) (.ok none))
          [.perform (.copy "x/" none true), .perform .paste] ⟨.startingIn "/d", ()⟩).1 =
        [e₁] ++ e₂ :: [] ∧
      e₁.action = .perform (.copy "x/" none true) ∧ e₂.action = .perform .paste ∧
      (e₁.before.directory = "/d/" ∧ e₂.before.directory = "/d/") ∧
      e₂.before.clipboard.dequeue? = some (⟨"x", some "/d/x/", .empty, true⟩, .empty) ∧
      ⟨"x", some "/d/x/", .empty, true⟩ ∈ e₁.queued ∧
      (.write "/d/x" (some .empty), .ok .empty) ∈ exchanges e₂.log :=
    ⟨_, _, rfl, rfl, rfl, by decide +kernel, by decide +kernel, by decide +kernel,
      by decide +kernel⟩
  have t : TransfersName [e₁] e₂ "x/" "x" true :=
    .pasted hop hdequeue List.mem_cons_self hqueued haction
      (hdirectory.1.trans hdirectory.2.symm)
  have hsame : Path.joinDirectory e₂.before.directory "x/" =
      Path.joinDirectory e₂.before.directory "x" := by
    rw [hdirectory.2]
    decide +kernel
  refine ⟨e₁, e₂, hrun, t, hsame, ?_⟩
  rw [transfer_within_entry_deletes_iff _ _ _ _ hrun t hsame, hdirectory.2]
  exact ⟨rfl, ⟨_, _, hwritten⟩, by decide +kernel, by decide +kernel⟩

/-- A move of `d` to `d/` deletes. -/
theorem transfer_within_entry_keeps_not :
    ¬∀ (directory : String) (actions : List Action) (earlier later : List Episode) (e : Episode)
      (oldName newName : String) (isCut : Bool),
      (run (.constant (.ok .empty) (.ok none)) actions ⟨.startingIn directory, ()⟩).1 =
        earlier ++ e :: later →
      TransfersName earlier e oldName newName isCut →
      Path.joinDirectory e.before.directory oldName =
        Path.joinDirectory e.before.directory newName →
      ¬SendsDelete e.log := by
  intro hall
  refine hall "/" [.perform (.move "d" "d/")] [] [] _ "d" "d/" true rfl (.moved rfl)
    (by decide +kernel) ⟨"/d", .ok .empty, ?_⟩
  decide +kernel

end RemoteFiles
