import RemoteFiles.Proofs.Auth.Challenge
import Mathlib.Data.List.DropRight

/-!
# Challenges item by item

`Wording` is a challenge as it may be written: the name of a scheme and any items after it, each
behind at least one separator, with blanks around the whole.  An item is a word, a directive with a
bare value, or one with a value in quotes, to which more text may be glued.  `parse_wording` says
that every wording is read, whatever its items are, as the scheme that it names and with the values
that its items give: the value of a name is that of the last item whose key is the name
(`IsValueOf`), quotes around the key and the case of its letters apart.

The reading of an item ends where its text does (`item_text`), so the items of a wording are read
one by one (`directives_behindGaps`) and nothing leaks from one to the next.
-/

namespace RemoteFiles

namespace Text

/-- `core` is what is left of `cs` without the characters of the class at both its ends. -/
structure Strips (p : Char → Bool) (cs core : List Char) : Prop where
  around : ∃ front back, cs = front ++ core ++ back ∧ (∀ c ∈ front, p c = true) ∧
    ∀ c ∈ back, p c = true
  head : ∀ c ∈ core.head?, p c = false
  last : ∀ c ∈ core.getLast?, p c = false

theorem rdropWhile_append {p : Char → Bool} {back : List Char} (hback : ∀ c ∈ back, p c = true)
    (cs : List Char) : (cs ++ back).rdropWhile p = cs.rdropWhile p := by
  induction back using List.reverseRecOn with
  | nil => rw [List.append_nil]
  | append_singleton back c ih =>
    rw [List.forall_mem_append, List.forall_mem_singleton] at hback
    rw [← List.append_assoc, List.rdropWhile_concat_pos _ _ _ hback.2, ih hback.1]

theorem strips_dropWhile (p : Char → Bool) (cs : List Char) :
    Strips p cs ((cs.dropWhile p).rdropWhile p) := by
  refine ⟨⟨cs.takeWhile p, (cs.dropWhile p).rtakeWhile p, ?_, ?_, ?_⟩, ?_, ?_⟩
  · rw [List.append_assoc, List.rdropWhile_append_rtakeWhile, List.takeWhile_append_dropWhile]
  · exact fun c hc => List.mem_takeWhile_imp hc
  · exact fun c hc => List.mem_rtakeWhile_imp hc
  · intro c hc
    obtain ⟨rest, hrest⟩ := List.rdropWhile_prefix p (l := cs.dropWhile p)
    have hhead : (cs.dropWhile p).head? = some c := by
      rw [← hrest, List.head?_append, Option.mem_def.mp hc, Option.some_or]
    have hnot := List.head?_dropWhile_not p cs
    rw [hhead] at hnot
    exact hnot
  · intro c hc
    obtain ⟨hne, hlast⟩ := List.mem_getLast?_eq_getLast hc
    rw [hlast, ← Bool.not_eq_true]
    exact List.rdropWhile_last_not p _ hne

theorem Strips.eq {p : Char → Bool} {cs core : List Char} (h : Strips p cs core) :
    (cs.dropWhile p).rdropWhile p = core := by
  obtain ⟨⟨front, back, rfl, hfront, hback⟩, hhead, hlast⟩ := h
  have hdrop : (front ++ core ++ back).dropWhile p = (core ++ back).dropWhile p := by
    rw [List.append_assoc, List.dropWhile_append_of_pos hfront]
  cases core with
  | nil =>
    rw [hdrop, List.nil_append, List.dropWhile_eq_nil_iff.mpr hback, List.rdropWhile_nil]
  | cons c rest =>
    have hc : ¬p c = true := by
      rw [hhead c rfl]
      exact Bool.false_ne_true
    have hself : (c :: rest).rdropWhile p = c :: rest := by
      rw [List.rdropWhile_eq_self_iff]
      intro hne
      rw [hlast _ (List.getLast_mem_getLast? hne)]
      exact Bool.false_ne_true
    rw [hdrop, List.cons_append, List.dropWhile_cons_of_neg hc, ← List.cons_append,
      rdropWhile_append hback, hself]

/-- What is left is what dropping at both ends leaves. -/
theorem strips_iff {p : Char → Bool} {cs core : List Char} :
    Strips p cs core ↔ (cs.dropWhile p).rdropWhile p = core := by
  constructor
  · exact Strips.eq
  · rintro rfl
    exact strips_dropWhile p cs

theorem lower_eq_empty_iff {s : String} : lower s = "" ↔ s = "" := by
  rw [lower, ← String.toList_inj, String.toList_ofList, ← String.toList_inj]
  exact List.map_eq_nil_iff

end Text

namespace Auth

open RemoteFiles.Text (Strips isBlank lower lower_eq_empty_iff sameIgnoringCase strips_iff trim)

/-! ### Wordings -/

/-- An item of a challenge as it may be written. -/
inductive Item
  /-- A text that gives no value. -/
  | word (text : String) (ne : text ≠ "") (chars : text.toList.all isKeyChar = true)
  | bare (key value : String) (key_chars : key.toList.all isKeyChar = true)
    (value_bare : IsBare value)
  /-- A value in quotes, with text glued to the closing quote. -/
  | quoted (key value glued : String) (key_chars : key.toList.all isKeyChar = true)
    (glued_chars : glued.toList.all (!isSeparator ·) = true)

namespace Item

/-- The text of an item. -/
def text : Item → String
  | word text _ _ => text
  | bare key value _ _ => key ++ "=" ++ value
  | quoted key value glued _ _ => quotedDirective key (escapeQuotes value) ++ glued

/-- The key and the value of an item. -/
def entry? : Item → Option (String × String)
  | word .. => none
  | bare key value _ _ => some (key, value)
  | quoted key value _ _ _ => some (key, value)

end Item

/-- What parts two items: at least one separator. -/
structure Gap where
  text : String
  ne : text ≠ ""
  separators : text.toList.all isSeparator = true

/-- A challenge as it may be written: blanks, a scheme, items, each behind a gap, and blanks. -/
structure Wording where
  front : String
  scheme : String
  items : List (Gap × Item)
  back : String
  front_blank : front.toList.all isBlank = true
  scheme_ne : scheme ≠ ""
  scheme_chars : scheme.toList.all (!isSeparator ·) = true
  back_blank : back.toList.all isBlank = true

/-- The text of items, each behind its gap. -/
def behindGaps (items : List (Gap × Item)) : List Char :=
  items.flatMap fun (gap, item) => gap.text.toList ++ item.text.toList

/-- The text of a wording. -/
def Wording.text (w : Wording) : String :=
  w.front ++ w.scheme ++ String.ofList (behindGaps w.items) ++ w.back

/-- A key is the name but for quotes around it and the case of ASCII letters.  The empty name has
no key. -/
def IsKeyOf (key name : String) : Prop :=
  name ≠ "" ∧ ∃ core : String, Strips (· == '"') key.toList core.toList ∧
    sameIgnoringCase core name = true

/-- The value is that of the last item whose key is the name. -/
def IsValueOf (items : List Item) (name value : String) : Prop :=
  ∃ before item after key, items = before ++ item :: after ∧ item.entry? = some (key, value) ∧
    IsKeyOf key name ∧ ∀ later ∈ after, ∀ entry ∈ later.entry?, ¬IsKeyOf entry.1 name

/-! ### Keys -/

theorem isKeyOf_iff {key name : String} :
    IsKeyOf key name ↔ name ≠ "" ∧ directiveName key.toList = lower name := by
  refine and_congr_right fun _ => ?_
  constructor
  · rintro ⟨core, hstrips, hsame⟩
    rw [directiveName]
    have hcore := hstrips.eq
    rw [List.rdropWhile] at hcore
    rw [hcore, String.ofList_toList]
    exact beq_iff_eq.mp hsame
  · intro hname
    refine ⟨String.ofList ((key.toList.dropWhile (· == '"')).rdropWhile (· == '"')), ?_, ?_⟩
    · rw [String.toList_ofList, strips_iff]
    · exact beq_iff_eq.mpr hname

/-! ### Items -/

/-- A text without separators has its end in sight. -/
theorem endsVisibly_of_all {cs : List Char} (hne : cs ≠ [])
    (h : ∀ c ∈ cs, isSeparator c = false) : EndsVisibly cs := by
  refine ⟨cs.getLast hne, List.getLast?_eq_getLast_of_ne_nil hne, ?_⟩
  have hlast := h _ (List.getLast_mem hne)
  rw [isSeparator, Bool.or_eq_false_iff] at hlast
  exact hlast.2

namespace Item

/-- What an item is read as. -/
def directive? (i : Item) : Option Directive :=
  i.entry?.bind fun (key, value) =>
    if directiveName key.toList = "" then none else some (directiveName key.toList, value)

/-- An item is read up to its end, whatever separator follows it. -/
theorem item_text (i : Item) {rest : List Char} (hrest : AtSeparator rest) :
    item (i.text.toList ++ rest) = (i.directive?, rest) := by
  cases i with
  | word text ne chars =>
    have hdrop : (text.toList ++ rest).dropWhile isKeyChar = rest := by
      rw [List.dropWhile_append_of_pos (List.all_eq_true.mp chars), hrest.dropWhile_isKeyChar]
    -- an equals sign behind the word would make a directive of it
    have hequals : ∀ rest', rest ≠ '=' :: rest' := by
      rintro rest' rfl
      exact absurd (hrest '=' rfl) (by decide)
    rw [Item.text, item_of_dropWhile_ne_cons (by rwa [hdrop]), hdrop]
    rfl
  | bare key value key_chars value_bare =>
    have htext : (key ++ "=" ++ value).toList ++ rest =
        key.toList ++ '=' :: (value.toList ++ rest) := by
      simp
    rw [text, htext, item_key (List.all_eq_true.mp key_chars),
      directiveValue_bare value_bare hrest]
    simp only [directive?, entry?, Option.bind_some, String.ofList_toList]
  | quoted key value glued key_chars glued_chars =>
    have htext : (quotedDirective key (escapeQuotes value) ++ glued).toList ++ rest =
        key.toList ++ '=' :: '"' ::
          ((escapeQuotes value).toList ++ '"' :: (glued.toList ++ rest)) := by
      rw [String.toList_append, toList_quotedDirective]
      simp
    rw [text, htext, item_key (List.all_eq_true.mp key_chars), directiveValue_quote,
      quotedValue_escapeQuotes, List.dropWhile_append_of_pos (List.all_eq_true.mp glued_chars),
      hrest.dropWhile_eq]
    simp only [directive?, entry?, Option.bind_some, String.ofList_toList]

theorem exists_cons_text (i : Item) :
    ∃ c cs, i.text.toList = c :: cs ∧ isSeparator c = false := by
  -- before an equals sign there may be no key at all
  have hkey : ∀ {key : String} (rest : List Char), key.toList.all isKeyChar = true →
      ∃ c cs, key.toList ++ '=' :: rest = c :: cs ∧ isSeparator c = false := by
    intro key rest hchars
    cases hcs : key.toList with
    | nil => exact ⟨'=', rest, rfl, by decide⟩
    | cons c cs =>
      rw [hcs, List.all_cons, Bool.and_eq_true] at hchars
      exact ⟨c, _, rfl, isSeparator_of_isKeyChar hchars.1⟩
  cases i with
  | word text ne chars =>
    obtain ⟨c, cs, hcs⟩ := List.exists_cons_of_ne_nil (mt String.toList_eq_nil_iff.mp ne)
    rw [hcs, List.all_cons, Bool.and_eq_true] at chars
    exact ⟨c, cs, hcs, isSeparator_of_isKeyChar chars.1⟩
  | bare key value key_chars value_bare =>
    have htext : (key ++ "=" ++ value).toList = key.toList ++ '=' :: value.toList := by simp
    rw [text, htext]
    exact hkey _ key_chars
  | quoted key value glued key_chars glued_chars =>
    rw [text, String.toList_append, toList_quotedDirective, List.append_assoc, List.cons_append]
    exact hkey _ key_chars

theorem endsVisibly_text (i : Item) : EndsVisibly i.text.toList := by
  cases i with
  | word text ne chars =>
    refine endsVisibly_of_all (mt String.toList_eq_nil_iff.mp ne) fun c hc => ?_
    exact isSeparator_of_isKeyChar (List.all_eq_true.mp chars c hc)
  | bare key value key_chars value_bare => exact endsVisibly_bare key value_bare
  | quoted key value glued key_chars glued_chars =>
    rw [text, String.toList_append]
    cases hcs : glued.toList with
    | nil =>
      rw [List.append_nil]
      exact endsVisibly_quotedDirective key _
    | cons c cs =>
      rw [hcs, List.all_eq_true] at glued_chars
      refine EndsVisibly.append_left (endsVisibly_of_all (List.cons_ne_nil c cs) ?_) _
      intro c' hc'
      simpa using glued_chars c' hc'

theorem directives_text_append (i : Item) {rest : List Char} (hrest : AtSeparator rest) :
    directives (i.text.toList ++ rest) = i.directive?.toList ++ directives rest := by
  obtain ⟨c, cs, hcs, hc⟩ := i.exists_cons_text
  have hitem := i.item_text hrest
  rw [hcs, List.cons_append] at hitem ⊢
  rw [directives_item hc, hitem]

end Item

/-! ### Items behind their gaps -/

theorem directives_separators {gap : List Char} (hgap : ∀ c ∈ gap, isSeparator c = true)
    (cs : List Char) : directives (gap ++ cs) = directives cs := by
  induction gap with
  | nil => rfl
  | cons c gap ih =>
    rw [List.forall_mem_cons] at hgap
    rw [List.cons_append, directives_separator hgap.1, ih hgap.2]

theorem behindGaps_cons (gap : Gap) (i : Item) (items : List (Gap × Item)) :
    behindGaps ((gap, i) :: items) = gap.text.toList ++ (i.text.toList ++ behindGaps items) := by
  rw [behindGaps, List.flatMap_cons, List.append_assoc]
  rfl

theorem atSeparator_behindGaps (items : List (Gap × Item)) : AtSeparator (behindGaps items) := by
  cases items with
  | nil => exact atSeparator_nil
  | cons first items =>
    obtain ⟨gap, i⟩ := first
    obtain ⟨c, cs, hcs⟩ := List.exists_cons_of_ne_nil (mt String.toList_eq_nil_iff.mp gap.ne)
    have hc := List.all_eq_true.mp gap.separators c (by simp [hcs])
    rw [behindGaps_cons, hcs]
    exact atSeparator_cons hc _

/-- Items behind gaps are read one by one. -/
theorem directives_behindGaps (items : List (Gap × Item)) :
    directives (behindGaps items) = (items.map Prod.snd).filterMap Item.directive? := by
  induction items with
  | nil => exact directives_nil
  | cons first items ih =>
    -- a gap is passed over, and the item ends where the next gap begins
    obtain ⟨gap, i⟩ := first
    rw [behindGaps_cons, directives_separators (List.all_eq_true.mp gap.separators),
      i.directives_text_append (atSeparator_behindGaps items), ih, List.map_cons,
      List.filterMap_cons]
    cases i.directive? <;> rfl

theorem endsVisibly_behindGaps {cs : List Char} (h : EndsVisibly cs)
    (items : List (Gap × Item)) : EndsVisibly (cs ++ behindGaps items) := by
  induction items generalizing cs with
  | nil => rwa [behindGaps, List.flatMap_nil, List.append_nil]
  | cons first items ih =>
    obtain ⟨gap, i⟩ := first
    rw [behindGaps_cons]
    exact ((ih i.endsVisibly_text).append_left gap.text.toList).append_left cs

/-! ### Values -/

/-- The value that an item gives a name. -/
def Item.value? (i : Item) (name : String) : Option String :=
  i.directive?.bind fun d => if lower name == d.1 then some d.2 else none

theorem lookup_filterMap_directive? (items : List Item) (name : String) :
    (items.filterMap Item.directive?).lookup (lower name) = items.findSome? (·.value? name) := by
  induction items with
  | nil => rfl
  | cons i items ih =>
    rw [List.filterMap_cons, List.findSome?_cons, Item.value?]
    cases i.directive? with
    | none => exact ih
    | some d =>
      rw [Option.bind_some, ← ih, List.lookup_cons]
      cases lower name == d.1 <;> rfl

theorem Item.value?_eq_some_iff {i : Item} {name value : String} :
    i.value? name = some value ↔ ∃ key, i.entry? = some (key, value) ∧ IsKeyOf key name := by
  rw [Item.value?, Item.directive?]
  cases hentry : i.entry? with
  | none => simp
  | some entry =>
    obtain ⟨key, value'⟩ := entry
    simp only [Option.bind_some, Option.some.injEq, Prod.mk.injEq, isKeyOf_iff]
    by_cases hempty : directiveName key.toList = ""
    · -- an item without a name gives no value, and the empty name is the key of none
      rw [if_pos hempty, Option.bind_none]
      refine iff_of_false (Option.some_ne_none value).symm ?_
      rintro ⟨key', ⟨rfl, rfl⟩, hne, hname⟩
      exact hne (lower_eq_empty_iff.mp (hname.symm.trans hempty))
    · rw [if_neg hempty, Option.bind_some]
      constructor
      · intro h
        split at h
        · next hname =>
          have hkey := (beq_iff_eq.mp hname).symm
          refine ⟨key, ⟨rfl, Option.some.inj h⟩, ?_, hkey⟩
          rintro rfl
          exact hempty hkey
        · exact absurd h (Option.some_ne_none value).symm
      · rintro ⟨key', ⟨rfl, rfl⟩, -, hname⟩
        rw [hname, if_pos (beq_self_eq_true _)]

theorem Item.value?_eq_none_iff {i : Item} {name : String} :
    i.value? name = none ↔ ∀ entry ∈ i.entry?, ¬IsKeyOf entry.1 name := by
  rw [Option.eq_none_iff_forall_ne_some]
  constructor
  · rintro hnone ⟨key, value⟩ hentry hkey
    exact hnone value (Item.value?_eq_some_iff.mpr ⟨key, hentry, hkey⟩)
  · intro hall value hvalue
    obtain ⟨key, hentry, hkey⟩ := Item.value?_eq_some_iff.mp hvalue
    exact hall _ hentry hkey

theorem findSome?_reverse_eq_some_iff {items : List Item} {name value : String} :
    items.reverse.findSome? (·.value? name) = some value ↔ IsValueOf items name value := by
  rw [List.findSome?_eq_some_iff, IsValueOf]
  constructor
  · rintro ⟨after, i, before, hitems, hvalue, hafter⟩
    obtain ⟨key, hentry, hkey⟩ := Item.value?_eq_some_iff.mp hvalue
    refine ⟨before.reverse, i, after.reverse, key, ?_, hentry, hkey, ?_⟩
    · rw [← List.reverse_inj, hitems]
      simp
    · intro later hlater
      exact Item.value?_eq_none_iff.mp (hafter later (List.mem_reverse.mp hlater))
  · rintro ⟨before, i, after, key, rfl, hentry, hkey, hafter⟩
    refine ⟨after.reverse, i, before.reverse, by simp, ?_, ?_⟩
    · exact Item.value?_eq_some_iff.mpr ⟨key, hentry, hkey⟩
    · intro later hlater
      exact Item.value?_eq_none_iff.mpr (hafter later (List.mem_reverse.mp hlater))

theorem findSome?_reverse_eq_none_iff {items : List Item} {name : String} :
    items.reverse.findSome? (·.value? name) = none ↔
      ∀ i ∈ items, ∀ entry ∈ i.entry?, ¬IsKeyOf entry.1 name := by
  simp only [List.findSome?_eq_none_iff, List.mem_reverse, Item.value?_eq_none_iff]

/-! ### Challenges -/

theorem Scheme.ofName_eq (name : String) :
    Scheme.ofName name =
      (if sameIgnoringCase name "Basic" then .basic
        else if sameIgnoringCase name "Digest" then .digest
        else .other name) := by
  have hbasic : sameIgnoringCase name "Basic" = sameIgnoringCase name "basic" :=
    congrArg (lower name == ·) (by decide)
  have hdigest : sameIgnoringCase name "Digest" = sameIgnoringCase name "digest" :=
    congrArg (lower name == ·) (by decide)
  rw [hbasic, hdigest, Scheme.ofName]

namespace Wording

variable (w : Wording)

theorem scheme_chars_of_mem : ∀ c ∈ w.scheme.toList, (!isSeparator c) = true :=
  List.all_eq_true.mp w.scheme_chars

theorem endsVisibly_scheme : EndsVisibly w.scheme.toList :=
  endsVisibly_of_all (mt String.toList_eq_nil_iff.mp w.scheme_ne) fun c hc =>
    (Bool.not_eq_true' _).mp (w.scheme_chars_of_mem c hc)

theorem trim_text : trim w.text.toList = w.scheme.toList ++ behindGaps w.items := by
  refine Strips.eq (p := isBlank) ⟨⟨w.front.toList, w.back.toList, ?_, ?_, ?_⟩, ?_, ?_⟩
  · simp [Wording.text]
  · exact List.all_eq_true.mp w.front_blank
  · exact List.all_eq_true.mp w.back_blank
  · -- the scheme begins with no blank
    obtain ⟨c, cs, hcs⟩ := List.exists_cons_of_ne_nil (mt String.toList_eq_nil_iff.mp w.scheme_ne)
    rintro c' hc'
    rw [hcs] at hc'
    obtain rfl : c = c' := by simpa using hc'
    have hc := w.scheme_chars_of_mem c (by simp [hcs])
    rw [Bool.not_eq_true', isSeparator, Bool.or_eq_false_iff] at hc
    exact hc.2
  · -- and neither the scheme nor an item ends with one
    obtain ⟨c, hlast, hc⟩ := endsVisibly_behindGaps w.endsVisibly_scheme w.items
    intro c' hc'
    rw [hlast] at hc'
    obtain rfl : c = c' := by simpa using hc'
    exact hc

/-- A wording is a challenge whose directives are those of its items. -/
theorem parse_text :
    Challenge.parse w.text =
      .ok ⟨w.scheme ++ String.ofList (behindGaps w.items), .ofName w.scheme,
        (w.items.map Prod.snd).filterMap Item.directive?⟩ := by
  rw [parse_of_trim (mt String.toList_eq_nil_iff.mp w.scheme_ne) w.trim_text w.scheme_chars_of_mem
    (atSeparator_behindGaps w.items), directives_behindGaps, String.ofList_append,
    String.ofList_toList]

end Wording

/-- Every wording is read: as the scheme of its name, and with the value of the last item for every
name that is the key of one, and no value for any other. -/
theorem parse_wording (w : Wording) :
    ∃ c, Challenge.parse w.text = .ok c ∧
      c.scheme =
        (if sameIgnoringCase w.scheme "Basic" then .basic
          else if sameIgnoringCase w.scheme "Digest" then .digest
          else .other w.scheme) ∧
      (∀ name value, c.directive? name = some value ↔
        IsValueOf (w.items.map Prod.snd) name value) ∧
      ∀ name, c.directive? name = none ↔
        ∀ i ∈ w.items.map Prod.snd, ∀ entry ∈ i.entry?, ¬IsKeyOf entry.1 name := by
  have hvalue : ∀ name, (⟨w.scheme ++ String.ofList (behindGaps w.items), .ofName w.scheme,
      (w.items.map Prod.snd).filterMap Item.directive?⟩ : Challenge).directive? name =
      (w.items.map Prod.snd).reverse.findSome? (·.value? name) := by
    intro name
    rw [Challenge.directive?, ← List.filterMap_reverse, lookup_filterMap_directive?]
  refine ⟨_, w.parse_text, Scheme.ofName_eq w.scheme, fun name value => ?_, fun name => ?_⟩
  · rw [hvalue, findSome?_reverse_eq_some_iff]
  · rw [hvalue, findSome?_reverse_eq_none_iff]

/-- A wording with text glued to a quoted value, with a word, and with a name that is given
twice. -/
def Wording.ofDigest : Wording where
  front := " "
  scheme := "DiGest"
  items :=
    [(⟨" ,", by decide, by decide⟩, .quoted "realm" "a\"b" "x" (by decide) (by decide)),
      (⟨", ", by decide, by decide⟩, .word "stale" (by decide) (by decide)),
      (⟨" ", by decide, by decide⟩, .bare "nonce" "n" (by decide) (by decide)),
      (⟨",,", by decide, by decide⟩, .bare "\"NONCE\"" "m" (by decide) (by decide))]
  back := "\t"
  front_blank := by decide
  scheme_ne := by decide
  scheme_chars := by decide
  back_blank := by decide

theorem parse_wording_of_digest :
    Wording.ofDigest.text = " DiGest ,realm=\"a\\\"b\"x, stale nonce=n,,\"NONCE\"=m\t" ∧
      ∃ c, Challenge.parse Wording.ofDigest.text = .ok c ∧ c.scheme = .digest ∧
        c.directive? "Realm" = some "a\"b" ∧ c.directive? "nonce" = some "m" ∧
        c.directive? "stale" = none := by
  refine ⟨by decide, ?_⟩
  obtain ⟨c, hparse, hscheme, hvalue, hnone⟩ := parse_wording Wording.ofDigest
  refine ⟨c, hparse, ?_, ?_, ?_, ?_⟩
  · rw [hscheme]
    decide
  · refine (hvalue _ _).mpr ⟨[], _, _, "realm", rfl, rfl, isKeyOf_iff.mpr (by decide), ?_⟩
    simp only [isKeyOf_iff]
    decide
  · refine (hvalue _ _).mpr
      ⟨[_, _, _], _, [], "\"NONCE\"", rfl, rfl, isKeyOf_iff.mpr (by decide), ?_⟩
    simp only [isKeyOf_iff]
    decide
  · refine (hnone _).mpr ?_
    simp only [isKeyOf_iff]
    decide

end Auth

end RemoteFiles
