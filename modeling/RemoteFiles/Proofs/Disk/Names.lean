import RemoteFiles.Disk.Path
import RemoteFiles.Proofs.Path.Targets

/-!
# Last names of local paths

The last component of a local path is its last piece, apart from those that lead nowhere: empty
ones and single dots (`Path.EndsIn`).  It is a name unless it is two dots
(`fileName?_eq_some_iff`), and a path has no last name exactly if it ends in two dots or is made of
slashes and dots that lead nowhere (`fileName?_eq_none_iff`).

A last name that is a text is plain: it has no slash and is neither empty nor dots
(`Names.isPlain`), so it can name an entry of a directory of the service.
-/

namespace RemoteFiles.Disk

open RemoteFiles.Text (Glyph)

/-- A piece that leads nowhere. -/
def IsIdle (piece : Piece) : Prop := piece = [] ∨ piece = hereDot

instance (piece : Piece) : Decidable (IsIdle piece) := inferInstanceAs (Decidable (_ ∨ _))

namespace Path

/-- The path ends in a component: a piece that leads somewhere, with nothing behind it that does. -/
def EndsIn (p : Path) (piece : Piece) : Prop :=
  ¬IsIdle piece ∧ ∃ front back, p.pieces = front ++ piece :: back ∧ ∀ q ∈ back, IsIdle q

/-- The last component of the path is the name `name`. -/
def Names (p : Path) (name : String) : Prop :=
  p.EndsIn (Glyph.ofString name) ∧ Glyph.ofString name ≠ upDots

/-- The path has no last name: it is empty or made of slashes and dots that lead nowhere, or it ends
in two dots. -/
def IsNameless (p : Path) : Prop := (∀ q ∈ p.pieces, IsIdle q) ∨ p.EndsIn upDots

variable {p : Path} {absolute : Bool} {piece : Piece} {skipped rest pieces : List Piece}

/-! ### Pieces that lead nowhere -/

/-- Only what leads nowhere is trimmed off. -/
theorem trimmed_append (hskipped : ∀ q ∈ skipped, IsIdle q) (hpiece : ¬IsIdle piece) :
    trimmed absolute (skipped ++ piece :: rest) = piece :: rest := by
  obtain ⟨hne, hdot⟩ := not_or.mp hpiece
  have hstop : trimmed absolute (piece :: rest) = piece :: rest := by
    rw [trimmed, if_neg fun h => hdot h.1]
    exact hne
  induction skipped with
  | nil => exact hstop
  | cons q skipped ih =>
    obtain ⟨hq, hmore⟩ := List.forall_mem_cons.mp hskipped
    rw [List.cons_append]
    obtain rfl | rfl := hq
    · exact ih hmore
    · -- a dot is kept only if nothing stands behind it, and here `piece` does
      have hskip : trimmed absolute (hereDot :: (skipped ++ piece :: rest)) =
          trimmed absolute (skipped ++ piece :: rest) := by
        rw [trimmed, if_pos ⟨rfl, .inr (by simp)⟩]
        exact List.cons_ne_nil _ _
      rw [hskip, ih hmore]

/-- Of pieces that lead nowhere at most a dot is left. -/
theorem trimmed_of_idle (h : ∀ q ∈ pieces, IsIdle q) :
    trimmed absolute pieces = [] ∨ trimmed absolute pieces = [hereDot] := by
  fun_induction trimmed absolute pieces with
  | case1 => exact .inl rfl
  | case2 rest ih => exact ih (List.forall_mem_cons.mp h).2
  | case3 piece rest hne hdot ih => exact ih (List.forall_mem_cons.mp h).2
  | case4 piece rest hne hdot =>
    have hpiece : piece = hereDot := (List.forall_mem_cons.mp h).1.resolve_left hne
    obtain ⟨-, hrest⟩ := not_or.mp fun hmore => hdot ⟨hpiece, hmore⟩
    rw [hpiece, not_not.mp hrest]
    exact .inr rfl

/-- Pieces lead nowhere, or there is a last one that does not. -/
theorem idle_or_exists_last (pieces : List Piece) :
    (∀ q ∈ pieces, IsIdle q) ∨ ∃ front piece back, pieces = front ++ piece :: back ∧
      ¬IsIdle piece ∧ ∀ q ∈ back, IsIdle q := by
  induction pieces with
  | nil => exact .inl (List.forall_mem_nil _)
  | cons piece pieces ih =>
    obtain hidle | ⟨front, last, back, rfl, hlast, hback⟩ := ih
    · by_cases hpiece : IsIdle piece
      · exact .inl (List.forall_mem_cons.mpr ⟨hpiece, hidle⟩)
      · exact .inr ⟨[], piece, pieces, rfl, hpiece, hidle⟩
    · exact .inr ⟨piece :: front, last, back, rfl, hlast, hback⟩

/-! ### The last component -/

/-- Before the first slash of an absolute path there is an empty piece. -/
theorem pieces_eq_body (p : Path) : p.pieces = p.body ∨ p.pieces = [] :: p.body := by
  rw [body]
  split
  · rename_i habsolute
    obtain ⟨glyphs, hglyphs⟩ : ∃ glyphs, p.glyphs = .char '/' :: glyphs :=
      List.head?_eq_some_iff.mp (beq_iff_eq.mp habsolute)
    refine .inr ?_
    rw [pieces, hglyphs, List.splitOn_cons_eq_if_modifyHead, if_pos (beq_self_eq_true _)]
    rfl
  · exact .inl rfl

/-- What a path ends in is found among the pieces after the first slash. -/
theorem endsIn_iff : p.EndsIn piece ↔ ¬IsIdle piece ∧
    ∃ front back, p.body = front ++ piece :: back ∧ ∀ q ∈ back, IsIdle q := by
  refine and_congr_right fun hpiece => ?_
  obtain heq | heq := p.pieces_eq_body
  · rw [heq]
  · rw [heq]
    constructor
    · rintro ⟨front, back, hsplit, hback⟩
      cases front with
      | nil => exact absurd (.inl (List.cons.inj hsplit).1.symm) hpiece
      | cons q front => exact ⟨front, back, (List.cons.inj hsplit).2, hback⟩
    · rintro ⟨front, back, hsplit, hback⟩
      exact ⟨[] :: front, back, congrArg ([] :: ·) hsplit, hback⟩

theorem EndsIn.mem_pieces (h : p.EndsIn piece) : piece ∈ p.pieces := by
  obtain ⟨-, front, back, hsplit, -⟩ := h
  rw [hsplit]
  exact List.mem_append_right _ List.mem_cons_self

theorem EndsIn.backwards_eq (h : p.EndsIn piece) : ∃ rest, p.backwards = piece :: rest := by
  obtain ⟨hpiece, front, back, hbody, hback⟩ := endsIn_iff.mp h
  refine ⟨front.reverse, ?_⟩
  rw [backwards, hbody, List.reverse_append, List.reverse_cons, List.append_assoc,
    List.singleton_append]
  exact trimmed_append (fun q hq => hback q (List.mem_reverse.mp hq)) hpiece

/-- A path leads nowhere, or it ends in a component. -/
theorem idle_or_endsIn (p : Path) : (∀ q ∈ p.pieces, IsIdle q) ∨ ∃ piece, p.EndsIn piece := by
  obtain hidle | ⟨front, piece, back, hsplit, hpiece, hback⟩ := idle_or_exists_last p.pieces
  · exact .inl hidle
  · exact .inr ⟨piece, hpiece, front, back, hsplit, hback⟩

theorem fileName?_of_idle (h : ∀ q ∈ p.pieces, IsIdle q) : p.fileName? = none := by
  have hbody : ∀ q ∈ p.body.reverse, IsIdle q := by
    intro q hq
    have hmem := List.mem_reverse.mp hq
    obtain heq | heq := p.pieces_eq_body
    · exact h q (heq ▸ hmem)
    · exact h q (heq ▸ List.mem_cons_of_mem _ hmem)
  have htrimmed : p.backwards = [] ∨ p.backwards = [hereDot] := trimmed_of_idle hbody
  rw [fileName?]
  obtain heq | heq := htrimmed
  · rw [heq]
  · rw [heq]
    exact if_pos (.inl rfl)

theorem EndsIn.fileName?_eq (h : p.EndsIn piece) :
    p.fileName? = if piece = upDots then none else some piece := by
  obtain ⟨rest, hrest⟩ := h.backwards_eq
  have hdot : piece ≠ hereDot := fun heq => h.1 (.inr heq)
  rw [fileName?, hrest]
  simp only [hdot, false_or]

/-- The last name of a path is the component that it ends in, if that is not two dots. -/
theorem fileName?_eq_some_iff : p.fileName? = some piece ↔ p.EndsIn piece ∧ piece ≠ upDots := by
  constructor
  · intro h
    obtain hidle | ⟨last, hends⟩ := p.idle_or_endsIn
    · rw [fileName?_of_idle hidle] at h
      cases h
    · rw [hends.fileName?_eq] at h
      split at h
      · cases h
      · rename_i hdots
        obtain rfl := Option.some.inj h
        exact ⟨hends, hdots⟩
  · rintro ⟨hends, hdots⟩
    rw [hends.fileName?_eq, if_neg hdots]

theorem fileName?_eq_none_iff : p.fileName? = none ↔ p.IsNameless := by
  constructor
  · intro h
    obtain hidle | ⟨last, hends⟩ := p.idle_or_endsIn
    · exact .inl hidle
    · rw [hends.fileName?_eq] at h
      split at h
      · rename_i hdots
        exact .inr (hdots ▸ hends)
      · cases h
  · rintro (hidle | hends)
    · exact fileName?_of_idle hidle
    · rw [hends.fileName?_eq, if_pos rfl]

/-! ### Last names that are texts -/

theorem toString?_ofString (name : String) :
    Glyph.toString? (Glyph.ofString name) = some name.toList := by
  unfold Glyph.ofString
  induction name.toList with
  | nil => rfl
  | cons c cs ih => rw [List.map_cons, Glyph.toString?, ih, Option.map_some]

theorem eq_ofString_of_toString? {glyphs : List Glyph} {cs : List Char}
    (h : Glyph.toString? glyphs = some cs) : glyphs = Glyph.ofString (String.ofList cs) := by
  rw [Glyph.ofString, String.toList_ofList]
  induction glyphs generalizing cs with
  | nil =>
    rw [← Option.some.inj h]
    rfl
  | cons g glyphs ih =>
    cases g with
    | stray b => cases h
    | char c =>
      obtain ⟨rest, hrest, rfl⟩ := Option.map_eq_some_iff.mp h
      rw [ih hrest, List.map_cons]

/-- The text of the last name of a path. -/
theorem names_iff {name : String} :
    p.Names name ↔ p.fileName?.bind Glyph.toString? = some name.toList := by
  rw [Names, ← fileName?_eq_some_iff, Option.bind_eq_some_iff]
  constructor
  · intro h
    exact ⟨_, h, toString?_ofString name⟩
  · rintro ⟨piece, hpiece, htext⟩
    rw [hpiece, eq_ofString_of_toString? htext, String.ofList_toList]

theorem IsNameless.not_names {name : String} (h : p.IsNameless) : ¬p.Names name := by
  rw [names_iff, fileName?_eq_none_iff.mpr h]
  exact Option.some_ne_none _ ∘ Eq.symm

/-- The last name of a path, if it is a text, is a name that an entry of a directory can have. -/
theorem Names.isPlain {name : String} (h : p.Names name) :
    RemoteFiles.Path.IsPlain name.toList := by
  obtain ⟨hends, hdots⟩ := h
  obtain ⟨hne, hdot⟩ := not_or.mp hends.1
  refine ⟨fun heq => hne (congrArg (List.map Glyph.char) heq),
    fun heq => hdot (congrArg (List.map Glyph.char) heq),
    fun heq => hdots (congrArg (List.map Glyph.char) heq), fun hslash => ?_⟩
  have hpiece := hends.mem_pieces
  rw [pieces, List.splitOn_eq_splitOnP] at hpiece
  have hmem : Glyph.char '/' ∈ Glyph.ofString name := List.mem_map_of_mem hslash
  have hnot := RemoteFiles.Text.eq_false_of_mem_piece hpiece _ hmem
  cases hnot

/-- The pieces of a path that is a text are texts. -/
theorem pieces_ofString (text : String) :
    (ofString text).pieces = (RemoteFiles.Path.pieces text).map Glyph.ofString := by
  have hpieces : ∀ cs : List Char, (cs.map Glyph.char).splitOn (.char '/') =
      (cs.splitOn '/').map (List.map Glyph.char) := by
    intro cs
    induction cs with
    | nil => rfl
    | cons c cs ih =>
      have hslash : (Glyph.char c == .char '/') = (c == '/') := by
        rw [Bool.eq_iff_iff, beq_iff_eq, beq_iff_eq, Glyph.char.injEq]
      rw [List.map_cons, List.splitOn_cons_eq_if_modifyHead, List.splitOn_cons_eq_if_modifyHead,
        hslash, ih]
      split
      · rfl
      · cases cs.splitOn '/' <;> rfl
  rw [pieces, ofString, Glyph.ofString, hpieces, RemoteFiles.Path.pieces, List.map_map]
  refine List.map_congr_left fun piece _ => ?_
  rw [Function.comp_apply, Glyph.ofString, String.toList_ofList]

/-- A path that is a text has a last name that is one, or none at all. -/
theorem nameless_or_names (text : String) :
    (ofString text).IsNameless ∨ ∃ name, (ofString text).Names name := by
  obtain hidle | ⟨piece, hends⟩ := (ofString text).idle_or_endsIn
  · exact .inl (.inl hidle)
  · by_cases hdots : piece = upDots
    · exact .inl (.inr (hdots ▸ hends))
    · have hpiece := hends.mem_pieces
      rw [pieces_ofString] at hpiece
      obtain ⟨name, -, rfl⟩ := List.mem_map.mp hpiece
      exact .inr ⟨name, hends, hdots⟩

end Path

end RemoteFiles.Disk
