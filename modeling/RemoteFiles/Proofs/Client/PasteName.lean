import RemoteFiles.Proofs.Client.Conservation
import RemoteFiles.Proofs.Client.Places

/-!
# Where a paste writes

A paste writes under the last segment of the name that was given to the copy or cut, joined to the
directory in which it is pasted, and tells this name.  So it writes one level below that directory,
under the name that it tells, unless the last segment is empty or dots (`paste_writes_child_iff`):
the name is cut out of what was typed and not out of the path that was read, and so `/a/.` is
queued under the name `.` and pasted at the directory itself (`paste_writes_child_not`).

That a pasted name comes from an earlier copy or cut is read off the balance of the clipboard
(`exists_queued`).
-/

namespace RemoteFiles

open Operation (lastSegment)

/-! ### Names of clippings -/

theorem slash_not_mem_lastSegment (name : String) : '/' ∉ (lastSegment name).toList := by
  rw [lastSegment, String.toList_ofList]
  intro hslash
  have hkept := List.all_eq_true.mp List.all_takeWhile _ (List.mem_reverse.mp hslash)
  exact absurd hkept (by decide)

theorem isPlain_lastSegment_iff (name : String) :
    Path.IsPlain (lastSegment name).toList ↔ lastSegment name ∉ ["", ".", ".."] := by
  rw [Path.isPlain_toList_iff]
  exact and_iff_left (slash_not_mem_lastSegment name)

/-- What an episode has queued is named after what was copied or cut, and comes from there. -/
theorem Episode.eq_of_mem_queued {e : Episode} {clipping : Clipping} (h : clipping ∈ e.queued) :
    ∃ name, e.action = .perform (.copy name none clipping.isCut) ∧
      clipping.name = lastSegment name ∧
      clipping.origin = some (Path.join e.before.directory name) := by
  obtain ⟨action, before, log, reply, after⟩ := e
  cases action with
  | perform op =>
    cases op with
    | copy name newName isCut =>
      cases newName with
      | none =>
        cases reply with
        | error cause => exact absurd h List.not_mem_nil
        | ok done =>
          obtain rfl := List.mem_singleton.mp h
          exact ⟨name, rfl, rfl, rfl⟩
      | some newName => exact absurd h List.not_mem_nil
    | _ => exact absurd h List.not_mem_nil
  | _ => exact absurd h List.not_mem_nil

variable {σ : Type}

/-- In a run, what waits on the clipboard was queued by earlier episodes, and the workspace is
normal. -/
theorem exists_queued (h : Host (StateM σ)) (directory : String) (s : σ) (actions : List Action)
    {earlier later : List Episode} {e : Episode}
    (hrun : (run h actions ⟨.startingIn directory, s⟩).1 = earlier ++ e :: later) :
    ∃ x y, Occurs h x e y ∧ x.client.workspace.IsNormal ∧
      ∀ clipping ∈ x.client.clipboard.toList, ∃ e' ∈ earlier, clipping ∈ e'.queued := by
  obtain ⟨x, y, occurs, hbalanced, hnormal⟩ := run_invariant h
    (P := fun past c => Balanced past c ∧ c.workspace.IsNormal)
    (fun hx occurs => ⟨hx.1.step occurs, occurs.isNormal hx.2⟩) actions
    ⟨.startingIn directory, s⟩ [] ⟨rfl, Client.isNormal_startingIn directory⟩ hrun
  refine ⟨x, y, occurs, hnormal, fun clipping hmem => ?_⟩
  rw [List.nil_append] at hbalanced
  have hqueued : clipping ∈ earlier.flatMap Episode.queued := by
    rw [hbalanced]
    exact List.mem_append_right _ hmem
  exact List.mem_flatMap.mp hqueued

/-! ### Names of pastes -/

/-- The name that a paste has told. -/
def Episode.pastedName? : Episode → Option String
  | ⟨.perform .paste, _, _, .ok name, _⟩ => name
  | _ => none

/-- The paste writes one level below the working directory, under the name `child`, which is also
the name that it tells if it is completed. -/
structure PastesInto (e : Episode) (target child : String) : Prop where
  ne_empty : child ≠ ""
  no_slash : '/' ∉ child.toList
  target_eq : target = e.before.directory ++ child
  told : e.error? = none → e.pastedName? = some child

/-- A completed paste tells the name of what waited longest. -/
theorem planPaste_tells {w : Workspace} {clipping : Clipping} {rest : Clipboard}
    (hdequeue : w.clipboard.dequeue? = some (clipping, rest)) (past : List Interaction) :
    (Operation.planPaste w).Meets (fun _ _ => True)
      (fun _ result _ _ => ∀ told, result = .ok told → told = some clipping.name) past w := by
  have hfinished : ∀ told,
      (.ok (some clipping.name) : Except OperationError (Option String)) = .ok told →
        told = some clipping.name := fun told heq => (Except.ok.inj heq).symm
  unfold Operation.planPaste
  simp only [hdequeue]
  refine .change (.submit (fun _ => trivial) (fun _ _ _ _ told heq => by cases heq)
    fun nonce token receipt => ?_)
  split
  · split
    · exact .done fun _ => hfinished
    · exact .submit (fun _ => trivial) (fun _ _ _ _ told heq => by cases heq)
        fun _ _ _ => .done fun _ => hfinished
  · exact .done fun _ => hfinished

theorem Occurs.pastedName_eq {h : Host (StateM σ)} {x y : Scene σ} {e : Episode}
    (occurs : Occurs h x e y) (hop : e.action = .perform .paste) {clipping : Clipping}
    {rest : Clipboard} (hdequeue : x.client.clipboard.dequeue? = some (clipping, rest))
    (hok : e.error? = none) : e.pastedName? = some clipping.name := by
  cases occurs with
  | @performed op log result y course =>
    cases hop
    have htold := course.end_of_meets (planPaste_tells hdequeue (x.begins .paste))
    cases result with
    | error cause => cases hok
    | ok told => exact htold told rfl
  | _ => cases hop

/-- A write of a paste is made on the path that the name of what waited longest is joined to. -/
theorem Occurs.exists_oldest {h : Host (StateM σ)} {x y : Scene σ} {e : Episode}
    (occurs : Occurs h x e y) (hop : e.action = .perform .paste) {target : String}
    {content : Option Payload} {token : Option String} {outcome : Outcome}
    (hwrite : .submitted (.write target content) token outcome ∈ e.log) :
    ∃ clipping rest, x.client.clipboard.dequeue? = some (clipping, rest) ∧
      target = Path.join x.client.directory clipping.name := by
  have hmem : ⟨target, content, outcome.isOk⟩ ∈ writes e.log :=
    List.mem_filterMap.mpr ⟨_, hwrite, rfl⟩
  obtain ⟨clipping, rest, hdequeue, htarget, -⟩ := occurs.balances.2 hop _ hmem
  rw [occurs.before_eq] at hdequeue htarget
  exact ⟨clipping, rest, hdequeue, htarget⟩

/-- **Pastes**: what a paste writes was queued by an earlier copy or cut, and it is written one
level below the working directory, under the name that the paste tells, exactly if the name that was
given to the copy or cut, slashes at its end apart, ends with a segment that is neither empty nor
dots. -/
theorem paste_writes_child_iff (h : Host (StateM σ)) (directory : String) (s : σ)
    (actions : List Action) {earlier later : List Episode} {e : Episode} {target : String}
    {content : Option Payload} {token : Option String} {outcome : Outcome}
    (hrun : (run h actions ⟨.startingIn directory, s⟩).1 = earlier ++ e :: later)
    (hop : e.action = .perform .paste)
    (hwrite : .submitted (.write target content) token outcome ∈ e.log) :
    ∃ clipping rest name, e.before.clipboard.dequeue? = some (clipping, rest) ∧
      (∃ e' ∈ earlier, clipping ∈ e'.queued ∧
        e'.action = .perform (.copy name none clipping.isCut)) ∧
      ((∃ child, PastesInto e target child) ↔ lastSegment name ∉ ["", ".", ".."]) := by
  obtain ⟨x, y, occurs, hnormal, hqueued⟩ := exists_queued h directory s actions hrun
  obtain ⟨clipping, rest, hdequeue, htarget⟩ := occurs.exists_oldest hop hwrite
  have hoffered : clipping ∈ x.client.clipboard.toList := by
    rw [toList_of_dequeue? hdequeue]
    exact List.mem_cons_self
  obtain ⟨e', hearlier, hmem⟩ := hqueued clipping hoffered
  obtain ⟨name, haction, hname, -⟩ := Episode.eq_of_mem_queued hmem
  rw [occurs.before_eq]
  refine ⟨clipping, rest, name, hdequeue, ⟨e', hearlier, hmem, haction⟩, ?_⟩
  have hslash := slash_not_mem_lastSegment name
  rw [← isPlain_lastSegment_iff, ← hnormal.directory.exists_join_eq_append_iff hslash, ← hname]
  constructor
  · rintro ⟨child, into⟩
    refine ⟨child, into.ne_empty, into.no_slash, ?_⟩
    have hbefore : target = x.client.directory ++ child := occurs.before_eq ▸ into.target_eq
    exact htarget.symm.trans hbefore
  · -- the name of the clipping is the child, and it is what a completed paste tells
    rintro ⟨child, hne, hchild, heq⟩
    have hplain : Path.IsPlain clipping.name.toList := by
      rw [hname] at heq ⊢
      exact (hnormal.directory.exists_join_eq_append_iff hslash).mp ⟨child, hne, hchild, heq⟩
    have hsame : clipping.name = child := by
      have hjoin := hnormal.directory.join_of_isPlain hplain
      exact (String.append_right_inj _).mp (hjoin.symm.trans heq)
    refine ⟨child, hne, hchild, ?_, fun hok => ?_⟩
    · rw [occurs.before_eq]
      exact htarget.trans heq
    · rw [occurs.pastedName_eq hop hdequeue hok, hsame]

/-- What was cut by an absolute path with doubled slashes is pasted under its last name. -/
theorem paste_writes_child_iff_of_slashes :
    ∃ e₁ e₂ e₃,
      (run (.constant (.ok .empty) (.ok none))
          [.perform (.copy "/a//x/" none true), .perform (.changeDirectory "../c"),
            .perform .paste]
          ⟨.startingIn "/b", ()⟩).1 = [e₁, e₂] ++ e₃ :: [] ∧
        e₃.action = .perform .paste ∧
        .submitted (.write "/c/x" (some .empty)) none (.ok .empty) ∈ e₃.log ∧
        ∃ child, PastesInto e₃ "/c/x" child := by
  obtain ⟨e₁, e₂, e₃, hrun, hfirst, hsecond, hop, hwrite⟩ : ∃ e₁ e₂ e₃,
      (run (.constant (.ok .empty) (.ok none))
          [.perform (.copy "/a//x/" none true), .perform (.changeDirectory "../c"),
            .perform .paste]
          ⟨.startingIn "/b", ()⟩).1 = [e₁, e₂] ++ e₃ :: [] ∧
        e₁.action = .perform (.copy "/a//x/" none true) ∧
        e₂.action = .perform (.changeDirectory "../c") ∧
        e₃.action = .perform .paste ∧
        .submitted (.write "/c/x" (some .empty)) none (.ok .empty) ∈ e₃.log :=
    ⟨_, _, _, rfl, rfl, rfl, rfl, by decide +kernel⟩
  obtain ⟨clipping, rest, name, -, ⟨e', hmem, -, haction⟩, hiff⟩ :=
    paste_writes_child_iff _ _ _ _ hrun hop hwrite
  refine ⟨e₁, e₂, e₃, hrun, hop, hwrite, hiff.mpr ?_⟩
  -- only the first episode copies
  obtain rfl | rfl : e' = e₁ ∨ e' = e₂ := by simpa using hmem
  · rw [hfirst, Action.perform.injEq, Operation.copy.injEq] at haction
    rw [← haction.1]
    decide +kernel
  · rw [hsecond] at haction
    cases haction

/-- Of what was copied as `/a/.`, the paste writes on the working directory itself. -/
theorem paste_writes_child_not :
    ¬∀ (directory : String) (actions : List Action) (earlier later : List Episode) (e : Episode)
      (target : String) (content : Option Payload) (token : Option String) (outcome : Outcome),
      (run (.constant (.ok .empty) (.ok none)) actions ⟨.startingIn directory, ()⟩).1 =
        earlier ++ e :: later →
      e.action = .perform .paste →
      .submitted (.write target content) token outcome ∈ e.log →
      ∃ child, PastesInto e target child := by
  intro hall
  obtain ⟨e₁, e₂, hrun, hop, hdirectory, hwrite⟩ : ∃ e₁ e₂,
      (run (.constant (.ok .empty) (.ok none))
          [.perform (.copy "/a/." none false), .perform .paste] ⟨.startingIn "/b", ()⟩).1 =
          [e₁] ++ e₂ :: [] ∧
        e₂.action = .perform .paste ∧ e₂.before.directory = "/b/" ∧
        .submitted (.write "/b" (some .empty)) none (.ok .empty) ∈ e₂.log :=
    ⟨_, _, rfl, rfl, by decide +kernel, by decide +kernel⟩
  obtain ⟨child, into⟩ := hall _ _ _ _ _ _ _ _ _ hrun hop hwrite
  -- the target is shorter than the working directory
  have htarget := into.target_eq
  rw [hdirectory] at htarget
  have hlength : 2 = 3 + child.length :=
    (congrArg String.length htarget).trans (String.length_append _ _)
  omega

end RemoteFiles
