import RemoteFiles.Auth.Authorization
import Mathlib.Data.List.Basic

/-!
# Reading written directives

Answers are written in the form in which challenges are read.  `Writes text d` says that `text`
is read as the directive `d` wherever a comma or nothing follows it.  A value in quotes is
written so if its quotes and backslashes are escaped (`writes_escaped`), a bare one if it has no
separator (`writes_bare`); and a header made of texts that are written so reads as their
directives, all of them and nothing else (`parse_written`).

A value that is put in quotes as it is reads as itself exactly if it has neither a quote nor a
backslash (`quotedValue_eq_iff`).
-/

namespace RemoteFiles.Auth

open RemoteFiles.Text (isBlank trim trimEnd)

/-- The characters of a quoted value that stand for themselves. -/
def isPlainChar (c : Char) : Bool := c != '"' && c != '\\'

/-- A text without double quotes and backslashes. -/
def isPlain (s : String) : Bool := s.toList.all isPlainChar

/-! ### Values in quotes -/

theorem quotedValue_quote (cs : List Char) : quotedValue ('"' :: cs) = ([], cs) := by
  rw [quotedValue]
  · rfl
  all_goals simp

theorem quotedValue_escaped (c : Char) (cs : List Char) :
    quotedValue ('\\' :: c :: cs) = (c :: (quotedValue cs).1, (quotedValue cs).2) := by
  rw [quotedValue]

theorem quotedValue_plain {c : Char} (hc : isPlainChar c = true) (cs : List Char) :
    quotedValue (c :: cs) = (c :: (quotedValue cs).1, (quotedValue cs).2) := by
  simp only [isPlainChar, Bool.and_eq_true, bne_iff_ne] at hc
  rw [quotedValue]
  · rw [if_neg hc.1]
  · intro h _
    exact hc.2 h
  · rintro c' cs' h -
    exact hc.2 h

/-- Induction along the reading of a quoted value. -/
@[elab_as_elim]
theorem quoted_induction {motive : List Char → Prop} (nil : motive [])
    (backslash : motive ['\\']) (escaped : ∀ c cs, motive cs → motive ('\\' :: c :: cs))
    (quote : ∀ cs, motive ('"' :: cs))
    (plain : ∀ c cs, isPlainChar c = true → motive cs → motive (c :: cs)) (cs : List Char) :
    motive cs := by
  induction cs using quotedValue.induct with
  | case1 => exact nil
  | case2 => exact backslash
  | case3 c cs _ _ _ ih => exact escaped c cs ih
  | case4 cs => exact quote cs
  | case5 c cs hlast hback hquote _ _ _ ih =>
    have hc : c ≠ '\\' := by
      intro hc
      cases cs with
      | nil => exact hlast hc rfl
      | cons c' cs => exact hback c' cs hc rfl
    exact plain c cs (by simp [isPlainChar, hquote, hc]) ih

/-- An escaped value reads as itself. -/
theorem quotedValue_escapeQuotes (value : String) (rest : List Char) :
    quotedValue ((escapeQuotes value).toList ++ '"' :: rest) = (value.toList, rest) := by
  rw [escapeQuotes, String.toList_ofList]
  induction value.toList with
  | nil => exact quotedValue_quote rest
  | cons c cs ih =>
    rw [List.flatMap_cons, List.append_assoc]
    by_cases hc : c = '\\' ∨ c = '"'
    · rw [if_pos hc, List.cons_append, List.cons_append, List.nil_append, quotedValue_escaped, ih]
    · have hplain : isPlainChar c = true := by
        rw [not_or] at hc
        simp [isPlainChar, hc.1, hc.2]
      rw [if_neg hc, List.cons_append, List.nil_append, quotedValue_plain hplain, ih]

/-- A plain value reads as itself. -/
theorem quotedValue_of_plain {value : List Char} (hvalue : value.all isPlainChar = true)
    (rest : List Char) : quotedValue (value ++ '"' :: rest) = (value, rest) := by
  induction value with
  | nil => exact quotedValue_quote rest
  | cons c cs ih =>
    rw [List.all_cons, Bool.and_eq_true] at hvalue
    rw [List.cons_append, quotedValue_plain hvalue.1, ih hvalue.2]

/-- No value in quotes reads as itself with more backslashes before it, and one that reads as
itself is plain: each backslash that is read takes two to be written. -/
theorem plain_of_quotedValue {value rest : List Char} {k : Nat}
    (h : (quotedValue (value ++ '"' :: rest)).1 = List.replicate k '\\' ++ value) :
    k = 0 ∧ value.all isPlainChar = true := by
  induction value using quoted_induction generalizing k with
  | nil =>
    rw [List.nil_append, quotedValue_quote, List.append_nil] at h
    exact ⟨by simpa using h.symm, rfl⟩
  | backslash =>
    -- the backslash escapes the closing quote
    rw [List.cons_append, List.nil_append, quotedValue_escaped] at h
    cases k <;> simp [List.replicate_succ] at h
  | escaped c cs ih =>
    have hshift : ∀ l,
        List.replicate k '\\' ++ '\\' :: l = '\\' :: (List.replicate k '\\' ++ l) := by
      intro l
      rw [List.append_cons, ← List.replicate_succ', List.replicate_succ, List.cons_append]
    rw [List.cons_append, List.cons_append, quotedValue_escaped, hshift] at h
    obtain ⟨rfl, h⟩ := List.cons_eq_cons.mp h
    -- what follows was read with one backslash more
    obtain ⟨hk, -⟩ := ih (k := k + 1) (by rw [h, hshift, List.replicate_succ, List.cons_append])
    exact absurd hk (Nat.succ_ne_zero k)
  | quote cs =>
    rw [List.cons_append, quotedValue_quote] at h
    simp at h
  | plain c cs hc ih =>
    rw [List.cons_append, quotedValue_plain hc] at h
    cases k with
    | zero =>
      obtain ⟨-, h⟩ := List.cons_eq_cons.mp h
      rw [List.all_cons, hc, Bool.true_and]
      exact ih (k := 0) h
    | succ k =>
      obtain ⟨rfl, -⟩ := List.cons_eq_cons.mp h
      cases hc

theorem quotedValue_eq_iff (value rest : List Char) :
    (quotedValue (value ++ '"' :: rest)).1 = value ↔ value.all isPlainChar = true := by
  constructor
  · intro h
    exact (plain_of_quotedValue (k := 0) h).2
  · intro h
    rw [quotedValue_of_plain h]

/-! ### Items -/

/-- A name is read as itself before an equals sign. -/
abbrev IsName (name : String) : Prop :=
  name ≠ "" ∧ name.toList.all isKeyChar = true ∧ directiveName name.toList = name

theorem item_key {key : List Char} (hkey : ∀ c ∈ key, isKeyChar c = true) (cs : List Char) :
    item (key ++ '=' :: cs) =
      (if directiveName key = "" then none
        else some (directiveName key, String.ofList (directiveValue cs).1),
        (directiveValue cs).2) := by
  have hdrop : (key ++ '=' :: cs).dropWhile isKeyChar = '=' :: cs := by
    rw [List.dropWhile_append_of_pos hkey]
    rfl
  have htake : (key ++ '=' :: cs).takeWhile isKeyChar = key := by
    rw [List.takeWhile_append_of_pos hkey]
    exact List.append_nil _
  rw [item, hdrop, htake]
  rfl

theorem item_directive {name : String} (hname : IsName name) (cs : List Char) :
    item (name.toList ++ '=' :: cs) =
      (some (name, String.ofList (directiveValue cs).1), (directiveValue cs).2) := by
  obtain ⟨hne, hkey, hself⟩ := hname
  rw [item_key (List.all_eq_true.mp hkey), hself, if_neg hne]

theorem item_of_dropWhile_eq_cons {cs rest : List Char} (h : cs.dropWhile isKeyChar = '=' :: rest) :
    (∀ d ∈ (item cs).1, d.2.toList = (directiveValue rest).1) ∧
      (item cs).2 = (directiveValue rest).2 := by
  rw [item, h]
  refine ⟨?_, rfl⟩
  intro d hd
  by_cases hname : directiveName (cs.takeWhile isKeyChar) = ""
  · simp only [if_pos hname, Option.not_mem_none] at hd
  · simp only [if_neg hname, Option.mem_some_iff] at hd
    rw [← hd, String.toList_ofList]

theorem item_of_dropWhile_ne_cons {cs : List Char}
    (h : ∀ rest, cs.dropWhile isKeyChar ≠ '=' :: rest) :
    item cs = (none, cs.dropWhile isKeyChar) := by
  rw [item]
  split
  · rename_i rest heq
    exact absurd heq (h rest)
  · rfl

theorem directiveValue_quote (cs : List Char) :
    directiveValue ('"' :: cs) =
      ((quotedValue cs).1, (quotedValue cs).2.dropWhile (!isSeparator ·)) :=
  rfl

/-- An item may end where the text begins with a separator or is empty. -/
abbrev AtSeparator (cs : List Char) : Prop := ∀ c ∈ cs.head?, isSeparator c = true

theorem atSeparator_nil : AtSeparator [] := by
  rintro c ⟨⟩

theorem atSeparator_cons {c : Char} (hc : isSeparator c = true) (cs : List Char) :
    AtSeparator (c :: cs) := by
  intro c' hc'
  cases hc'
  exact hc

theorem AtSeparator.dropWhile_eq {cs : List Char} (h : AtSeparator cs) :
    cs.dropWhile (!isSeparator ·) = cs := by
  cases cs with
  | nil => rfl
  | cons c cs => exact List.dropWhile_cons_of_neg (by simp [h c rfl])

theorem AtSeparator.takeWhile_eq {cs : List Char} (h : AtSeparator cs) :
    cs.takeWhile (!isSeparator ·) = [] := by
  cases cs with
  | nil => rfl
  | cons c cs => exact List.takeWhile_cons_of_neg (by simp [h c rfl])

theorem AtSeparator.dropWhile_isKeyChar {cs : List Char} (h : AtSeparator cs) :
    cs.dropWhile isKeyChar = cs := by
  cases cs with
  | nil => rfl
  | cons c cs => exact List.dropWhile_cons_of_neg (by simp [isKeyChar, h c rfl])

theorem directiveValue_of_head_ne {cs : List Char} (hquote : cs.head? ≠ some '"') :
    directiveValue cs = (cs.takeWhile (!isSeparator ·), cs.dropWhile (!isSeparator ·)) := by
  rw [directiveValue]
  rintro cs' rfl
  exact hquote rfl

/-- A text that needs no quotes around it. -/
abbrev IsBare (value : String) : Prop :=
  value.toList.all (!isSeparator ·) = true ∧ value.toList.head? ≠ some '"'

theorem directiveValue_bare {value : String} (hvalue : IsBare value) {rest : List Char}
    (hrest : AtSeparator rest) :
    directiveValue (value.toList ++ rest) = (value.toList, rest) := by
  obtain ⟨hsep, hquote⟩ := hvalue
  rw [List.all_eq_true] at hsep
  have hhead : (value.toList ++ rest).head? ≠ some '"' := by
    cases hcs : value.toList with
    | nil =>
      intro h
      exact absurd (hrest '"' h) (by decide)
    | cons c cs =>
      rw [hcs] at hquote
      exact hquote
  rw [directiveValue_of_head_ne hhead, List.takeWhile_append_of_pos hsep,
    List.dropWhile_append_of_pos hsep, hrest.takeWhile_eq, hrest.dropWhile_eq, List.append_nil]

theorem directives_of_dropWhile_eq_nil {cs : List Char} (h : cs.dropWhile isSeparator = []) :
    directives cs = [] := by
  rw [directives]
  split
  · rfl
  · rename_i c rest hcons
    rw [h] at hcons
    cases hcons

theorem directives_nil : directives [] = [] :=
  directives_of_dropWhile_eq_nil rfl

theorem directives_of_dropWhile_eq_cons {cs rest : List Char} {c : Char}
    (h : cs.dropWhile isSeparator = c :: rest) :
    directives cs = (item (c :: rest)).1.toList ++ directives (item (c :: rest)).2 := by
  rw [directives]
  split
  · rename_i hnil
    rw [h] at hnil
    cases hnil
  · rename_i c' rest' hcons
    rw [h] at hcons
    obtain ⟨rfl, rfl⟩ := List.cons_eq_cons.mp hcons
    rfl

theorem directives_separator {c : Char} (hc : isSeparator c = true) (cs : List Char) :
    directives (c :: cs) = directives cs := by
  have hdrop : (c :: cs).dropWhile isSeparator = cs.dropWhile isSeparator :=
    List.dropWhile_cons_of_pos hc
  cases hcs : cs.dropWhile isSeparator with
  | nil =>
    rw [directives_of_dropWhile_eq_nil hcs, directives_of_dropWhile_eq_nil (hdrop.trans hcs)]
  | cons c' rest =>
    rw [directives_of_dropWhile_eq_cons hcs, directives_of_dropWhile_eq_cons (hdrop.trans hcs)]

theorem directives_item {c : Char} (hc : isSeparator c = false) (cs : List Char) :
    directives (c :: cs) = (item (c :: cs)).1.toList ++ directives (item (c :: cs)).2 :=
  directives_of_dropWhile_eq_cons (List.dropWhile_cons_of_neg (by simp [hc]))

/-! ### Written directives -/

/-- The text has an end, and no blank is there. -/
def EndsVisibly (cs : List Char) : Prop := ∃ c, cs.getLast? = some c ∧ isBlank c = false

theorem EndsVisibly.append_left {cs : List Char} (h : EndsVisibly cs) (cs' : List Char) :
    EndsVisibly (cs' ++ cs) := by
  obtain ⟨c, hlast, hc⟩ := h
  exact ⟨c, by rw [List.getLast?_append, hlast, Option.some_or], hc⟩

/-- The text reads as the directive wherever an item may end, and no blank ends it. -/
structure Writes (text : String) (d : Directive) : Prop where
  head : ∃ c cs, text.toList = c :: cs ∧ isSeparator c = false
  item : ∀ rest, AtSeparator rest → item (text.toList ++ rest) = (some d, rest)
  last : EndsVisibly text.toList

theorem isSeparator_of_isKeyChar {c : Char} (hc : isKeyChar c = true) : isSeparator c = false := by
  simp only [isKeyChar, Bool.and_eq_true, Bool.not_eq_true'] at hc
  exact hc.2

theorem IsName.head {name : String} (hname : IsName name) :
    ∃ c cs, name.toList = c :: cs ∧ isSeparator c = false := by
  obtain ⟨hne, hkey, -⟩ := hname
  cases hcs : name.toList with
  | nil => exact absurd (String.toList_eq_nil_iff.mp hcs) hne
  | cons c cs =>
    rw [hcs, List.all_cons, Bool.and_eq_true] at hkey
    exact ⟨c, cs, rfl, isSeparator_of_isKeyChar hkey.1⟩

theorem toList_quotedDirective (name value : String) :
    (quotedDirective name value).toList = name.toList ++ '=' :: '"' :: (value.toList ++ ['"']) := by
  simp [quotedDirective]

theorem exists_cons_quotedDirective {name : String} (hname : IsName name) (value : String) :
    ∃ c cs, (quotedDirective name value).toList = c :: cs ∧ isSeparator c = false := by
  obtain ⟨c, cs, hcs, hc⟩ := hname.head
  exact ⟨c, _, by rw [toList_quotedDirective, hcs, List.cons_append], hc⟩

theorem item_quotedDirective {name : String} (hname : IsName name) (value : String)
    (rest : List Char) :
    item ((quotedDirective name value).toList ++ rest) =
      (some (name, String.ofList (quotedValue (value.toList ++ '"' :: rest)).1),
        (quotedValue (value.toList ++ '"' :: rest)).2.dropWhile (!isSeparator ·)) := by
  have htext : (quotedDirective name value).toList ++ rest =
      name.toList ++ '=' :: '"' :: (value.toList ++ '"' :: rest) := by
    rw [toList_quotedDirective]
    simp
  rw [htext, item_directive hname, directiveValue_quote]

theorem endsVisibly_quotedDirective (name value : String) :
    EndsVisibly (quotedDirective name value).toList := by
  have hlast : EndsVisibly ['"'] := ⟨'"', rfl, by decide⟩
  have hend := hlast.append_left (name.toList ++ '=' :: '"' :: value.toList)
  rw [toList_quotedDirective]
  rwa [List.append_assoc] at hend

theorem endsVisibly_bare (name : String) {value : String} (hvalue : IsBare value) :
    EndsVisibly (name ++ "=" ++ value).toList := by
  rw [String.toList_append]
  cases hlast : value.toList.getLast? with
  | none =>
    have hequals : EndsVisibly "=".toList := ⟨'=', rfl, by decide⟩
    rw [List.getLast?_eq_none_iff.mp hlast, List.append_nil, String.toList_append]
    exact hequals.append_left _
  | some c =>
    have hsep := List.all_eq_true.mp hvalue.1 c (List.mem_of_getLast? hlast)
    rw [Bool.not_eq_true', isSeparator, Bool.or_eq_false_iff] at hsep
    exact EndsVisibly.append_left ⟨c, hlast, hsep.2⟩ _

/-- A value is written in quotes by any text that reads as it up to the closing quote. -/
theorem writes_quoted {name text value : String} (hname : IsName name)
    (hvalue : ∀ rest, quotedValue (text.toList ++ '"' :: rest) = (value.toList, rest)) :
    Writes (quotedDirective name text) (name, value) where
  head := exists_cons_quotedDirective hname text
  item rest hrest := by
    rw [item_quotedDirective hname, hvalue]
    simp only [String.ofList_toList, hrest.dropWhile_eq]
  last := endsVisibly_quotedDirective name text

theorem writes_escaped {name : String} (hname : IsName name) (value : String) :
    Writes (quotedDirective name (escapeQuotes value)) (name, value) :=
  writes_quoted hname (quotedValue_escapeQuotes value)

theorem writes_plain {name value : String} (hname : IsName name) (hvalue : isPlain value = true) :
    Writes (quotedDirective name value) (name, value) :=
  writes_quoted hname (quotedValue_of_plain hvalue)

theorem writes_bare {name value : String} (hname : IsName name) (hvalue : IsBare value) :
    Writes (name ++ "=" ++ value) (name, value) where
  head := by
    obtain ⟨c, cs, hcs, hc⟩ := hname.head
    exact ⟨c, _, by rw [String.toList_append, String.toList_append, hcs, List.cons_append,
      List.cons_append], hc⟩
  item rest hrest := by
    have htext : (name ++ "=" ++ value).toList ++ rest =
        name.toList ++ '=' :: (value.toList ++ rest) := by
      simp
    rw [htext, item_directive hname, directiveValue_bare hvalue hrest, String.ofList_toList]
  last := endsVisibly_bare name hvalue

theorem Writes.directives_append {text : String} {d : Directive} (h : Writes text d)
    {rest : List Char} (hrest : AtSeparator rest) :
    directives (text.toList ++ rest) = d :: directives rest := by
  obtain ⟨c, cs, hcs, hc⟩ := h.head
  have hitem := h.item rest hrest
  rw [hcs, List.cons_append] at hitem ⊢
  rw [directives_item hc, hitem]
  rfl

/-- The texts, each after a comma and a blank. -/
def enumerated (texts : List String) : List Char :=
  texts.flatMap fun text => ',' :: ' ' :: text.toList

theorem enumerated_nil : enumerated [] = [] := rfl

theorem enumerated_cons (text : String) (texts : List String) :
    enumerated (text :: texts) = ',' :: ' ' :: (text.toList ++ enumerated texts) :=
  rfl

theorem enumerated_append (texts texts' : List String) :
    enumerated (texts ++ texts') = enumerated texts ++ enumerated texts' :=
  List.flatMap_append

theorem atSeparator_enumerated_append (texts : List String) {rest : List Char}
    (hrest : AtSeparator rest) : AtSeparator (enumerated texts ++ rest) := by
  cases texts with
  | nil => exact hrest
  | cons text texts => exact atSeparator_cons rfl _

theorem atSeparator_enumerated (texts : List String) : AtSeparator (enumerated texts) := by
  have hempty := atSeparator_enumerated_append texts atSeparator_nil
  rwa [List.append_nil] at hempty

theorem directives_enumerated_cons (text : String) (texts : List String) (rest : List Char) :
    directives (enumerated (text :: texts) ++ rest) =
      directives (text.toList ++ (enumerated texts ++ rest)) := by
  rw [enumerated_cons, List.cons_append, List.cons_append, directives_separator rfl,
    directives_separator rfl, List.append_assoc]

/-- Texts that write directives read as these, whatever follows them. -/
theorem directives_enumerated_append {texts : List String} {ds : List Directive}
    (h : List.Forall₂ Writes texts ds) {rest : List Char} (hrest : AtSeparator rest) :
    directives (enumerated texts ++ rest) = ds ++ directives rest := by
  induction h with
  | nil => rfl
  | cons hwrites _ ih =>
    rw [directives_enumerated_cons,
      hwrites.directives_append (atSeparator_enumerated_append _ hrest), ih]
    rfl

theorem directives_enumerated {texts : List String} {ds : List Directive}
    (h : List.Forall₂ Writes texts ds) : directives (enumerated texts) = ds := by
  have hread := directives_enumerated_append h atSeparator_nil
  rwa [List.append_nil, directives_nil, List.append_nil] at hread

/-! ### Answers -/

/-- The texts parted by commas, after the scheme, are the texts enumerated but for the first
comma. -/
theorem toList_intercalate_eq (text : String) (texts : List String) :
    (", ".intercalate (text :: texts)).toList = text.toList ++ enumerated texts := by
  rw [String.toList_intercalate]
  induction texts generalizing text with
  | nil => simp [enumerated]
  | cons text' texts ih =>
    rw [List.map_cons, List.map_cons, List.intercalate_cons_cons, ← List.map_cons, ih,
      enumerated_cons, List.append_assoc]
    rfl

/-- A text with no blank at either end is trimmed to itself. -/
theorem trim_eq_self {c : Char} {cs : List Char} (hc : isBlank c = false)
    (hlast : EndsVisibly (c :: cs)) : trim (c :: cs) = c :: cs := by
  obtain ⟨last, hlast, hblank⟩ := hlast
  obtain ⟨before, hbefore⟩ := List.getLast?_eq_some_iff.mp hlast
  rw [trim, List.dropWhile_cons_of_neg (by simp [hc]), trimEnd, hbefore, List.reverse_append,
    List.reverse_singleton, List.singleton_append,
    List.dropWhile_cons_of_neg (by simp [hblank]), List.reverse_cons, List.reverse_reverse]

theorem endsVisibly_append_enumerated {text : String} {texts : List String}
    (h : ∀ t ∈ text :: texts, EndsVisibly t.toList) :
    EndsVisibly (text.toList ++ enumerated texts) := by
  induction texts generalizing text with
  | nil =>
    rw [enumerated_nil, List.append_nil]
    exact h text List.mem_cons_self
  | cons text' texts ih =>
    have hrest := ih fun t ht => h t (List.mem_cons_of_mem _ ht)
    exact (hrest.append_left [',', ' ']).append_left text.toList

/-- A text with a scheme and more behind a separator is a challenge of that scheme. -/
theorem parse_of_trim {text : String} {scheme rest : List Char} (hne : scheme ≠ [])
    (htrim : trim text.toList = scheme ++ rest)
    (hscheme : ∀ c ∈ scheme, (!isSeparator c) = true) (hrest : AtSeparator rest) :
    Challenge.parse text =
      .ok ⟨String.ofList (scheme ++ rest), .ofName (String.ofList scheme), directives rest⟩ := by
  rw [Challenge.parse, htrim]
  split
  · rename_i hnil
    exact absurd (List.append_eq_nil_iff.mp hnil).1 hne
  · rw [List.takeWhile_append_of_pos hscheme, List.dropWhile_append_of_pos hscheme,
      hrest.takeWhile_eq, hrest.dropWhile_eq, List.append_nil]

/-- An answer is a digest challenge with the directives that its texts read as. -/
theorem parse_answer {texts : List String} (hne : texts ≠ [])
    (hlast : ∀ text ∈ texts, EndsVisibly text.toList) :
    Challenge.parse ("Digest " ++ ", ".intercalate texts) =
      .ok ⟨"Digest " ++ ", ".intercalate texts, .digest, directives (enumerated texts)⟩ := by
  obtain ⟨text, texts, rfl⟩ := List.exists_cons_of_ne_nil hne
  have htext : ("Digest " ++ ", ".intercalate (text :: texts)).toList =
      "Digest".toList ++ ' ' :: (text.toList ++ enumerated texts) := by
    rw [String.toList_append, toList_intercalate_eq]
    rfl
  have hraw := congrArg String.ofList htext
  rw [String.ofList_toList] at hraw
  have hvisible := (endsVisibly_append_enumerated hlast).append_left "Digest ".toList
  have htrim : trim ("Digest " ++ ", ".intercalate (text :: texts)).toList =
      "Digest".toList ++ ' ' :: (text.toList ++ enumerated texts) := by
    rw [htext]
    exact trim_eq_self (c := 'D') (by decide) hvisible
  have hscheme : ∀ c ∈ "Digest".toList, (!isSeparator c) = true :=
    List.all_eq_true.mp (by decide)
  have hseparator : AtSeparator (' ' :: (text.toList ++ enumerated texts)) :=
    atSeparator_cons rfl _
  have hdirectives := directives_enumerated_cons text texts []
  rw [List.append_nil, List.append_nil] at hdirectives
  rw [hdirectives, parse_of_trim (by decide) htrim hscheme hseparator, ← hraw,
    directives_separator rfl]
  rfl

/-- Texts that write directives make a challenge with these. -/
theorem parse_written {texts : List String} {ds : List Directive}
    (h : List.Forall₂ Writes texts ds) (hne : texts ≠ []) :
    Challenge.parse ("Digest " ++ ", ".intercalate texts) =
      .ok ⟨"Digest " ++ ", ".intercalate texts, .digest, ds⟩ := by
  have hlast : ∀ text ∈ texts, EndsVisibly text.toList := by
    clear hne
    induction h with
    | nil => exact List.forall_mem_nil _
    | cons hwrites _ ih => exact List.forall_mem_cons.mpr ⟨hwrites.last, ih⟩
  rw [parse_answer hne hlast, directives_enumerated h]

end RemoteFiles.Auth
