import Mathlib.Data.List.Induction
import Mathlib.Tactic.SplitIfs
import RemoteFiles.Disk.Tree

/-!
# What changes in a tree of files

Making directories only adds directories, whatever comes of it (`Extends`,
`Extending.makeDirectories`), and paths lead where they led before (`Extends.follow`).  Writing to a
path changes what stands at one place, and the path leads to that place also afterwards
(`exists_of_write`).

A path that leads to something only after directories were made went through one that was missing.
Without two dots in the path, what it leads to was not there before either (`Extends.follow_eq`).
-/

namespace RemoteFiles

/-! ### States -/

section

variable {σ α β : Type}

theorem bind_apply (act : StateM σ α) (next : α → StateM σ β) (s : σ) :
    (act >>= next) s = next (act s).1 (act s).2 := rfl

theorem pure_apply (a : α) (s : σ) : (pure a : StateM σ α) s = (a, s) := rfl

end

namespace Disk.Tree

variable {t t' t'' : Tree} {place other : Place} {p : Path}

/-! ### Places -/

@[simp] theorem node?_root (t : Tree) : t.node? [] = some .directory := if_pos rfl

theorem node?_put (hplace : place ≠ []) (node : Node) :
    (t.put place node).node? other = if other = place then some node else t.node? other := by
  unfold node? put
  by_cases hroot : other = []
  · rw [if_pos hroot, if_pos hroot, if_neg (hroot ▸ hplace.symm)]
  · rw [if_neg hroot, if_neg hroot]
    by_cases hother : other = place
    · simp [hother]
    · have hne : (place == other) = false := beq_false_of_ne (Ne.symm hother)
      rw [if_neg hother, List.find?_cons_of_neg (by simp [hne]), List.find?_filter]
      congr 2
      funext e
      by_cases he : e.1 = other <;> simp [he, hother]

/-- The content of the file at a place. -/
def file? (t : Tree) (place : Place) : Option ByteArray :=
  match t.node? place with
  | some (.file data) => some data
  | _ => none

theorem file?_eq_some_iff {data : ByteArray} :
    t.file? place = some data ↔ t.node? place = some (.file data) := by
  unfold file?
  split
  · rename_i h
    rw [h, Option.some_inj, Option.some_inj, Node.file.injEq]
  · rename_i h
    exact iff_of_false (by simp) (h data)

theorem file?_congr (h : t'.node? place = t.node? place) : t'.file? place = t.file? place := by
  rw [file?, h, file?]

/-! ### Following paths -/

/-- Where a path starts. -/
def start (t : Tree) (p : Path) : Place := if p.isAbsolute then [] else t.working

/-- A path that can be followed: it is not empty and not too long, and has no zero byte. -/
def IsUsable (p : Path) : Prop :=
  ¬p.glyphs.contains (.char '\x00') ∧ p.glyphs ≠ [] ∧ Text.Glyph.totalSize p.glyphs < pathBound

theorem follow_eq_ok_iff :
    t.follow p = .ok place ↔ IsUsable p ∧ p.body.foldlM t.step (t.start p) = .ok place := by
  unfold follow followPieces
  by_cases hzero : p.glyphs.contains (.char '\x00')
  · rw [if_pos hzero]
    exact iff_of_false (by simp) fun h => h.1.1 hzero
  by_cases hempty : p.glyphs = []
  · rw [if_neg hzero, if_pos hempty]
    exact iff_of_false (by simp) fun h => h.1.2.1 hempty
  by_cases hlong : pathBound ≤ Text.Glyph.totalSize p.glyphs
  · rw [if_neg hzero, if_neg hempty, if_pos hlong]
    exact iff_of_false (by simp) fun h => Nat.not_lt.mpr hlong h.1.2.2
  · rw [if_neg hzero, if_neg hempty, if_neg hlong]
    exact (and_iff_right ⟨hzero, hempty, Nat.not_le.mp hlong⟩).symm

/-- A piece leads on only from a directory: it stays there, goes up, or names something in it. -/
theorem step_eq_ok {piece : Piece} {next : Place} (h : t.step place piece = .ok next) :
    t.node? place = some .directory ∧
      (next = place ∨ piece = upDots ∨ next = place ++ [piece]) := by
  unfold step at h
  split at h
  · cases h
  · cases h
  · rename_i hnode
    refine ⟨hnode, ?_⟩
    split_ifs at h with hstay hup hlong
    · cases h
      exact .inl rfl
    · exact .inr (.inl hup)
    · cases h
      exact .inr (.inr rfl)

theorem step_congr (hnode : t'.node? place = t.node? place) (piece : Piece) :
    t'.step place piece = t.step place piece := by
  rw [step, hnode, step]

/-- Where the directories of a tree are directories too, paths lead to the same places. -/
theorem follow_mono (hworking : t'.working = t.working)
    (h : ∀ q, t.node? q = some .directory → t'.node? q = some .directory)
    (hfollow : t.follow p = .ok place) : t'.follow p = .ok place := by
  have hfold : ∀ (pieces : List Piece) (q : Place),
      pieces.foldlM t.step q = .ok place → pieces.foldlM t'.step q = .ok place := by
    intro pieces
    induction pieces with
    | nil => exact fun _ hq => hq
    | cons piece pieces ih =>
      intro q hq
      rw [List.foldlM_cons] at hq ⊢
      cases hstep : t.step q piece with
      | error fault =>
        rw [hstep] at hq
        cases hq
      | ok next =>
        have hdirectory := (step_eq_ok hstep).1
        rw [hstep] at hq
        rw [step_congr ((h q hdirectory).trans hdirectory.symm), hstep]
        exact ih next hq
  rw [follow_eq_ok_iff] at hfollow ⊢
  rw [start, hworking]
  exact ⟨hfollow.1, hfold _ _ hfollow.2⟩

theorem find_of_follow {node : Node} (hfollow : t.follow p = .ok place)
    (hnode : t.node? place = some node) : t.find p = .ok node := by
  simp only [find, hfollow, hnode]

/-- The content of the file at a path as text. -/
def readText (t : Tree) (p : Path) : Except DiskFault String :=
  match t.read p with
  | .error fault => .error fault
  | .ok data =>
    match Text.decodeUtf8? data with
    | none => .error .notText
    | some text => .ok text

theorem disk_isThere (p : Path) (t : Tree) : disk.isThere p t = ((t.find p).isOk, t) := rfl

theorem disk_readText (p : Path) (t : Tree) : disk.readText p t = (t.readText p, t) := by
  rw [Disk.readText, bind_apply, readText]
  dsimp only [disk]
  cases t.read p with
  | error fault => rfl
  | ok data =>
    dsimp only
    cases Text.decodeUtf8? data <;> rfl

/-! ### Making directories -/

/-- The second tree is the first one with more directories. -/
structure Extends (t t' : Tree) : Prop where
  working_eq : t'.working = t.working
  node_eq : ∀ place node, t.node? place = some node → t'.node? place = some node
  made : ∀ place, t.node? place = none → t'.node? place ≠ none →
    t'.node? place = some .directory

namespace Extends

theorem refl (t : Tree) : Extends t t where
  working_eq := rfl
  node_eq _ _ h := h
  made _ hnone hsome := absurd hnone hsome

theorem trans (h : Extends t t') (h' : Extends t' t'') : Extends t t'' where
  working_eq := h'.working_eq.trans h.working_eq
  node_eq place node hnode := h'.node_eq place node (h.node_eq place node hnode)
  made place hnone hsome := by
    by_cases hmid : t'.node? place = none
    · exact h'.made place hmid hsome
    · exact h'.node_eq place _ (h.made place hnone hmid)

theorem file?_eq (h : Extends t t') (place : Place) : t'.file? place = t.file? place := by
  cases hnode : t.node? place with
  | some node => exact file?_congr ((h.node_eq place node hnode).trans hnode.symm)
  | none =>
    have hnone : t.file? place = none := by rw [file?, hnode]
    rw [hnone, file?]
    cases hnode' : t'.node? place with
    | none => rfl
    | some node =>
      have hmade := h.made place hnode (by simp [hnode'])
      rw [hnode', Option.some_inj] at hmade
      rw [hmade]

theorem follow (h : Extends t t') (hfollow : t.follow p = .ok place) : t'.follow p = .ok place :=
  follow_mono h.working_eq (fun q => h.node_eq q .directory) hfollow

end Extends

theorem extends_makeDirectory (h : t.makeDirectory p = .ok t') : Extends t t' := by
  simp only [makeDirectory] at h
  split_ifs at h
  all_goals
    split at h
    · cases h
    · rename_i place _
      split at h
      · cases h
      · rename_i hnone
        cases h
        have hplace : place ≠ [] := by
          rintro rfl
          rw [node?_root] at hnone
          cases hnone
        refine ⟨rfl, fun other node hnode => ?_, fun other hfree hmade => ?_⟩
        · rw [node?_put hplace, if_neg, hnode]
          rintro rfl
          rw [hnone] at hnode
          cases hnode
        · rw [node?_put hplace] at hmade ⊢
          split_ifs at hmade ⊢ with hother
          · rfl
          · exact absurd hfree hmade

/-- Whatever tree something is done to, it only adds directories. -/
def Extending {α : Type} (act : StateM Tree α) : Prop := ∀ t, Extends t (act t).2

namespace Extending

variable {α β : Type}

theorem pure (a : α) : Extending (Pure.pure a : StateM Tree α) := .refl

theorem bind {act : StateM Tree α} {next : α → StateM Tree β} (h : Extending act)
    (hnext : ∀ a, Extending (next a)) : Extending (act >>= next) :=
  fun t => (h t).trans (hnext _ _)

theorem makeDirectory (p : Path) : Extending (disk.makeDirectory p) := by
  intro t
  show Extends t (attempt (·.makeDirectory p) t).2
  unfold attempt
  split
  · rename_i hmade
    exact extends_makeDirectory hmade
  · exact .refl t

theorem settle (p : Path) (result : Except DiskFault Unit) :
    Extending (Disk.settle disk p result) := by
  cases result with
  | ok => exact .pure _
  | error fault =>
    have hlook : Extending (disk.isDirectory p) := .refl
    refine hlook.bind fun isThere => ?_
    split
    · exact .pure _
    · exact .pure _

theorem makeBackwards (absolute : Bool) (pieces : List Piece) :
    Extending (Disk.makeBackwards disk absolute pieces) := by
  rw [Disk.makeBackwards.eq_def]
  match pieces with
  | [] =>
    dsimp only
    split
    · exact (makeDirectory _).bind fun result => settle _ result
    · exact .pure _
  | _ :: rest =>
    refine (makeDirectory _).bind fun result => ?_
    split
    · -- the directory that it is in is missing
      refine (makeBackwards absolute (Path.trimmed absolute rest)).bind fun above => ?_
      split
      · exact (makeDirectory _).bind fun result => settle _ result
      · exact .pure _
    · exact settle _ _
termination_by pieces.length
decreasing_by
  have := Path.length_trimmed_le absolute rest
  simp only [List.length_cons]
  omega

theorem makeDirectories (p : Path) : Extending (disk.makeDirectories p) :=
  makeBackwards p.isAbsolute p.backwards

end Extending

/-! ### Writing -/

/-- Writing changes the content at the place that the path leads to, and only there. -/
theorem exists_of_write {data : ByteArray} (h : t.write p data = .ok t') :
    ∃ place, t.follow p = .ok place ∧ t'.follow p = .ok place ∧
      ∀ other, t'.file? other = if other = place then some data else t.file? other := by
  unfold write at h
  split at h
  · cases h
  split at h
  · cases h
  rename_i place hfollow
  split at h
  · cases h
  rename_i hnot
  cases h
  have hplace : place ≠ [] := by
    rintro rfl
    exact hnot (node?_root t)
  refine ⟨place, hfollow, follow_mono (t := t) rfl (fun q hq => ?_) hfollow, fun other => ?_⟩
  · rw [node?_put hplace, if_neg, hq]
    rintro rfl
    exact hnot hq
  · by_cases hother : other = place
    · rw [if_pos hother, file?, node?_put hplace, if_pos hother]
    · rw [if_neg hother]
      exact file?_congr (by rw [node?_put hplace, if_neg hother])

/-- A path with a slash at its end leads to directories only. -/
theorem node?_of_endsWithSlash (hslash : p.endsWithSlash = true) (hfollow : t.follow p = .ok place) :
    t.node? place = some .directory := by
  obtain ⟨glyphs, hglyphs⟩ : ∃ glyphs, p.glyphs = glyphs ++ [.char '/'] := by
    rw [Path.endsWithSlash, beq_iff_eq, List.getLast?_eq_some_iff] at hslash
    exact hslash
  -- the empty piece behind the slash stays where it is, which has to be a directory
  obtain ⟨pieces, hbody⟩ : ∃ pieces, p.body = pieces ++ [[]] := by
    have hpieces : p.pieces = glyphs.splitOn (.char '/') ++ [[]] := by
      rw [Path.pieces, hglyphs, List.splitOn_append_cons_self]
      rfl
    rw [Path.body, hpieces]
    split
    · refine ⟨(glyphs.splitOn (.char '/')).drop 1, List.drop_append_of_le_length ?_⟩
      exact List.length_pos_iff.mpr (List.splitOn_ne_nil _ _)
    · exact ⟨_, rfl⟩
  have hfold := (follow_eq_ok_iff.mp hfollow).2
  rw [hbody, List.foldlM_append] at hfold
  cases hbefore : pieces.foldlM t.step (t.start p) with
  | error fault =>
    rw [hbefore] at hfold
    cases hfold
  | ok before =>
    rw [hbefore] at hfold
    change (t.step before [] >>= pure) = .ok place at hfold
    rw [bind_pure] at hfold
    have hdirectory := (step_eq_ok hfold).1
    have hstay : t.step before [] = .ok before := by simp [step, hdirectory]
    rw [hstay, Except.ok.injEq] at hfold
    rwa [← hfold]

/-- Where a path leads to a file, something can be written. -/
theorem exists_write {data : ByteArray} (hfollow : t.follow p = .ok place)
    (hfile : (t.file? place).isSome) : ∃ t', t.write p data = .ok t' := by
  have hnot : t.node? place ≠ some .directory := by
    intro hdirectory
    rw [file?, hdirectory] at hfile
    cases hfile
  have hslash : ¬p.endsWithSlash = true := fun hslash => hnot (node?_of_endsWithSlash hslash hfollow)
  unfold write
  rw [if_neg hslash, hfollow]
  dsimp only
  split
  · rename_i hdirectory
    exact absurd hdirectory hnot
  · exact ⟨_, rfl⟩

/-! ### Trees with all their directories -/

/-- Everything but the root is in a directory. -/
def IsRooted (t : Tree) : Prop :=
  ∀ place piece, t.node? (place ++ [piece]) ≠ none → t.node? place = some .directory

namespace IsRooted

/-- On the way to something, everything is there. -/
theorem node?_ne_none_of_prefix (h : t.IsRooted) (hplace : t.node? place ≠ none)
    (hbelow : other <+: place) : t.node? other ≠ none := by
  obtain ⟨rest, rfl⟩ := hbelow
  induction rest using List.reverseRecOn with
  | nil => rwa [List.append_nil] at hplace
  | append_singleton rest piece ih =>
    refine ih ?_
    rw [← List.append_assoc] at hplace
    rw [h _ piece hplace]
    exact Option.some_ne_none _

end IsRooted

/-- What a path without two dots leads to after directories were made was either not there before,
or the path led to it already. -/
theorem Extends.follow_eq (h : Extends t t') (hrooted : t.IsRooted) (hdots : upDots ∉ p.pieces)
    (hfollow : t'.follow p = .ok place) (hplace : t.node? place ≠ none) :
    t.follow p = .ok place := by
  have hfold : ∀ (pieces : List Piece) (q : Place), upDots ∉ pieces →
      pieces.foldlM t'.step q = .ok place → q <+: place ∧ pieces.foldlM t.step q = .ok place := by
    intro pieces
    induction pieces with
    | nil =>
      intro q _ hq
      cases hq
      exact ⟨List.prefix_refl _, rfl⟩
    | cons piece pieces ih =>
      intro q hup hq
      rw [List.mem_cons, not_or] at hup
      rw [List.foldlM_cons] at hq ⊢
      cases hstep : t'.step q piece with
      | error fault =>
        rw [hstep] at hq
        cases hq
      | ok next =>
        rw [hstep] at hq
        obtain ⟨hnext, hrest⟩ := ih next hup.2 hq
        obtain ⟨hdirectory, hcases⟩ := step_eq_ok hstep
        have hbelow : q <+: place := by
          rcases hcases with rfl | hpiece | rfl
          · exact hnext
          · exact absurd hpiece.symm hup.1
          · exact (List.prefix_append q [piece]).trans hnext
        -- what is at `q` was there before, for it is on the way to `place`
        have hnode : t.node? q = t'.node? q := by
          obtain ⟨node, hnode⟩ :=
            Option.ne_none_iff_exists'.mp (hrooted.node?_ne_none_of_prefix hplace hbelow)
          rw [hnode, h.node_eq q node hnode]
        rw [step_congr hnode, hstep]
        exact ⟨hbelow, hrest⟩
  rw [follow_eq_ok_iff] at hfollow ⊢
  have hbody : upDots ∉ p.body := by
    unfold Path.body
    split
    · exact fun hmem => hdots (List.mem_of_mem_drop hmem)
    · exact hdots
  have hstart : t'.start p = t.start p := by rw [start, start, h.working_eq]
  rw [hstart] at hfollow
  exact ⟨hfollow.1, (hfold _ _ hbody hfollow.2).2⟩

end Disk.Tree

end RemoteFiles
