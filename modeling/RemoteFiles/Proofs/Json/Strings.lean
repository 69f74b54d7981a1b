import RemoteFiles.Proofs.Json.Spelling
import RemoteFiles.Proofs.Text.Hex

/-!
# JSON strings read back

What is written for a string is one spelling of it (`exists_spelling`).  So it is read as itself
(`readString_render`) and passed over as a whole where nobody wants it (`skipString_render`),
whatever its characters are and whatever follows it.
-/

namespace RemoteFiles.Json

open RemoteFiles.Text (Glyph)
open RemoteFiles.Text.Glyph (ofList)
open RemoteFiles.Text.Hex (digit lowDigits digitValue?_digit valueIn_lowDigits)

/-- The last four digits of a number. -/
def HexCode.ofNat (n : Nat) : HexCode where
  first := digit (n / 16 / 16 / 16)
  second := digit (n / 16 / 16)
  third := digit (n / 16)
  fourth := digit n
  isHex := by simp [digitValue?_digit]

theorem HexCode.text_ofNat (n : Nat) : (ofNat n).text = lowDigits 4 n := rfl

theorem HexCode.value_ofNat (n : Nat) : (ofNat n).value = n % 16 ^ 4 := by
  rw [← valueIn_lowDigits, ← text_ofNat]
  rfl

/-- A character is written as one piece that spells it. -/
theorem exists_piece (c : Char) :
    ∃ p : Piece, p.text = escapeChar c ∧
      ∀ s : Spelling, Spelling.chars? (p :: s) = s.chars?.map (c :: ·) := by
  unfold escapeChar
  split
  · exact ⟨.letter '"' '"' (by simp [letterEscapes]), rfl, fun _ => rfl⟩
  · exact ⟨.letter '\\' '\\' (by simp [letterEscapes]), rfl, fun _ => rfl⟩
  · exact ⟨.letter 'b' '\x08' (by simp [letterEscapes]), rfl, fun _ => rfl⟩
  · exact ⟨.letter 't' '\t' (by simp [letterEscapes]), rfl, fun _ => rfl⟩
  · exact ⟨.letter 'n' '\n' (by simp [letterEscapes]), rfl, fun _ => rfl⟩
  · exact ⟨.letter 'f' '\x0c' (by simp [letterEscapes]), rfl, fun _ => rfl⟩
  · exact ⟨.letter 'r' '\r' (by simp [letterEscapes]), rfl, fun _ => rfl⟩
  · rename_i hquote hbackslash _ _ _ _ _
    split
    · rename_i hcontrol
      -- a control is far below the surrogates
      have hvalue : (HexCode.ofNat c.toNat).value = c.toNat := by
        rw [HexCode.value_ofNat]
        omega
      have hhigh : ¬ (HexCode.ofNat c.toNat).IsHigh := by
        unfold HexCode.IsHigh
        omega
      have hlow : ¬ (HexCode.ofNat c.toNat).IsLow := by
        unfold HexCode.IsLow
        omega
      refine ⟨.code (.ofNat c.toNat), rfl, fun s => ?_⟩
      rw [Spelling.chars?.eq_def]
      simp only [if_neg hhigh, if_neg hlow, hvalue, Char.ofNat_toNat]
    · rename_i hcontrol
      exact ⟨.plain c hquote hbackslash (Nat.le_of_not_lt hcontrol), rfl, fun _ => rfl⟩

theorem exists_spelling (cs : List Char) :
    ∃ s : Spelling, s.text = cs.flatMap escapeChar ∧ s.chars? = some cs := by
  induction cs with
  | nil => exact ⟨[], rfl, rfl⟩
  | cons c cs ih =>
    obtain ⟨s, htext, hchars⟩ := ih
    obtain ⟨p, hp, hpiece⟩ := exists_piece c
    refine ⟨p :: s, ?_, ?_⟩
    · rw [Spelling.text, List.flatMap_cons, List.flatMap_cons, hp, ← htext, Spelling.text]
    · rw [hpiece, hchars, Option.map_some]

/-! ### Whole strings -/

theorem ofList_renderString (s : String) (rest : List Glyph) :
    ofList (renderString s) ++ rest =
      .char '"' :: (ofList (s.toList.flatMap escapeChar) ++ .char '"' :: rest) := by
  simp [renderString]

theorem readStringRest_escaped (s : String) (rest : List Glyph) :
    readStringRest (ofList (s.toList.flatMap escapeChar) ++ .char '"' :: rest) = .ok (s, rest) := by
  obtain ⟨spelling, htext, hchars⟩ := exists_spelling s.toList
  apply eq_ok_of_toOption
  rw [← htext, readStringRest_spelling, Spelling.string?, hchars, Option.map_some,
    String.ofList_toList, Option.map_some]

/-- A string that was written is read as itself. -/
theorem readString_render (s : String) (rest : List Glyph) :
    readString (ofList (renderString s) ++ rest) = .ok (s, rest) := by
  rw [ofList_renderString, readString, skipSpace, List.dropWhile_cons_of_neg (by decide)]
  exact readStringRest_escaped s rest

/-- A string that was written is passed over as a whole. -/
theorem skipString_render (s : String) (rest : List Glyph) :
    skipString ((ofList (s.toList.flatMap escapeChar) ++ .char '"' :: rest).length + 1)
      (ofList (s.toList.flatMap escapeChar) ++ .char '"' :: rest) = .ok rest := by
  obtain ⟨spelling, htext, -⟩ := exists_spelling s.toList
  rw [← htext]
  exact skipString_spelling spelling rest

theorem skipValue_string (s : String) (rest : List Glyph) :
    skipValue (ofList (renderString s) ++ rest) = .ok rest := by
  rw [ofList_renderString, skipValue, skipValueWithin, skipSpace,
    List.dropWhile_cons_of_neg (by decide)]
  exact skipString_render s rest

end RemoteFiles.Json
