import RemoteFiles.Text.Utf8

/-!
# The glyphs of a text

The bytes of a text are read as the characters of the text, with no stray byte among them
(`ofBytes_toUTF8`).
-/

namespace RemoteFiles.Text.Glyph

/-- The glyphs of some characters. -/
def ofList (cs : List Char) : List Glyph := cs.map char

@[simp] theorem ofList_nil : ofList [] = [] := rfl

@[simp] theorem ofList_cons (c : Char) (cs : List Char) : ofList (c :: cs) = char c :: ofList cs :=
  rfl

@[simp] theorem ofList_append (cs ds : List Char) : ofList (cs ++ ds) = ofList cs ++ ofList ds :=
  List.map_append

@[simp] theorem length_ofList (cs : List Char) : (ofList cs).length = cs.length :=
  List.length_map _

/-- Reading from behind some characters gives the characters after them. -/
theorem ofBytesFrom_utf8Encode (before cs : List Char) :
    ofBytesFrom (before ++ cs).utf8Encode before.utf8Encode.size = ofList cs := by
  induction cs generalizing before with
  | nil =>
    rw [List.append_nil, ofBytesFrom, dif_neg (Nat.lt_irrefl _), ofList_nil]
  | cons c cs ih =>
    have hsize : (before ++ [c]).utf8Encode.size = before.utf8Encode.size + c.utf8Size := by
      simp [List.utf8Encode_append, List.utf8Encode_singleton]
    have hwhole : (before ++ c :: cs).utf8Encode =
        before.utf8Encode ++ (c :: cs).utf8Encode := List.utf8Encode_append
    have hlt : before.utf8Encode.size < (before ++ c :: cs).utf8Encode.size := by
      have hpos := c.utf8Size_pos
      rw [List.append_cons, List.utf8Encode_append, ByteArray.size_append, hsize]
      omega
    have hchar : (before ++ c :: cs).utf8Encode.utf8DecodeChar? before.utf8Encode.size =
        some c := by
      rw [ByteArray.utf8DecodeChar?_eq_utf8DecodeChar?_extract, hwhole, ByteArray.size_append,
        ByteArray.extract_append_eq_right rfl rfl, List.utf8DecodeChar?_utf8Encode_cons]
    have hrest := ih (before ++ [c])
    rw [← List.append_cons, hsize] at hrest
    rw [ofBytesFrom, dif_pos hlt, hchar, ofList_cons, ← hrest]

/-- The bytes of a text are read as its characters. -/
theorem ofBytes_toUTF8 (s : String) : ofBytes s.toUTF8 = ofString s := by
  have h := ofBytesFrom_utf8Encode [] s.toList
  rwa [List.nil_append, String.utf8Encode_toList] at h

end RemoteFiles.Text.Glyph
