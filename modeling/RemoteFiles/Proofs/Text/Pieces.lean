import Mathlib.Data.List.Basic

/-!
# Texts in pieces

The pieces of a text that is split are free of what it is split at (`eq_false_of_mem_piece`), and
pieces that are written with a separator behind each of them are found again (`splitOnP_behind`).
What holds of the characters of pieces and separators holds of those of the text
(`all_intercalate`).
-/

namespace RemoteFiles.Text

variable {α : Type} {isSeparator : α → Bool}

theorem eq_false_of_mem_piece {cs piece : List α} (h : piece ∈ cs.splitOnP isSeparator) :
    ∀ c ∈ piece, isSeparator c = false := by
  induction cs generalizing piece with
  | nil =>
    rw [List.splitOnP_nil, List.mem_singleton] at h
    rw [h]
    exact fun _ hc => absurd hc List.not_mem_nil
  | cons c cs ih =>
    rw [List.splitOnP_cons_eq_if_modifyHead] at h
    split at h
    · rcases List.mem_cons.mp h with rfl | h
      · exact fun _ hc => absurd hc List.not_mem_nil
      · exact ih h
    · rename_i hc
      cases hpieces : cs.splitOnP isSeparator with
      | nil => exact absurd hpieces (List.splitOnP_ne_nil isSeparator cs)
      | cons first rest =>
        rw [hpieces] at h ih
        rcases List.mem_cons.mp h with rfl | h
        · exact List.forall_mem_cons.mpr ⟨by simpa using hc, ih List.mem_cons_self⟩
        · exact ih (List.mem_cons_of_mem first h)

/-- A separator behind each piece leaves an empty piece at the end. -/
theorem splitOnP_behind {separator : α} (hsep : isSeparator separator = true)
    {pieces : List (List α)} (h : ∀ piece ∈ pieces, ∀ c ∈ piece, isSeparator c = false) :
    (pieces.flatMap (· ++ [separator])).splitOnP isSeparator = pieces ++ [[]] := by
  induction pieces with
  | nil => rfl
  | cons piece pieces ih =>
    obtain ⟨hpiece, hrest⟩ := List.forall_mem_cons.mp h
    rw [List.flatMap_cons, List.append_assoc, List.singleton_append,
      List.splitOnP_append_cons_of_forall_mem hpiece separator hsep, ih hrest, List.cons_append]

/-- What is taken while a condition holds ends where it first fails. -/
theorem takeWhile_append_stop {p : α → Bool} {front back : List α}
    (hfront : ∀ c ∈ front, p c = true) (hback : ∀ c ∈ back.head?, p c = false) :
    (front ++ back).takeWhile p = front ∧ (front ++ back).dropWhile p = back := by
  rw [List.takeWhile_append_of_pos hfront, List.dropWhile_append_of_pos hfront]
  cases back with
  | nil => exact ⟨List.append_nil front, rfl⟩
  | cons c back =>
    have hc : ¬p c = true := by
      rw [hback c rfl]
      exact Bool.false_ne_true
    rw [List.takeWhile_cons_of_neg hc, List.dropWhile_cons_of_neg hc, List.append_nil]
    exact ⟨rfl, rfl⟩

theorem all_intercalate {p : α → Bool} {separator : List α} {pieces : List (List α)}
    (hseparator : separator.all p = true) (h : ∀ piece ∈ pieces, piece.all p = true) :
    (separator.intercalate pieces).all p = true := by
  induction pieces with
  | nil => rfl
  | cons piece pieces ih =>
    obtain ⟨hpiece, hrest⟩ := List.forall_mem_cons.mp h
    by_cases hpieces : pieces = []
    · rw [hpieces, List.intercalate_singleton, hpiece]
    · rw [List.intercalate_cons_of_ne_nil hpieces, List.all_append, List.all_append, hpiece,
        hseparator, ih hrest]
      rfl

end RemoteFiles.Text
