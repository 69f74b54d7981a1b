import Mathlib.Data.List.TakeWhile
import Mathlib.Tactic.SplitIfs
import RemoteFiles.Proofs.Text.Decimal
import RemoteFiles.Proofs.Toml.Keys

/-!
# TOML values read back

A value is a string, a scalar without quotes, an array, or a table between braces, however deep
they are nested (`Value`).  As long as that is not too deep, a value that was written is read up to
its end (`readsBack`), a string or a scalar as a node with that content; where in the text it stands
is left open.
-/

namespace RemoteFiles.Toml

open RemoteFiles.Text (decimalValue ne_of_isDigit isDigit_of_mem_toDigits toDigits_ne_zero_cons
  foldl_toDigits)

/-! ### Numbers -/

section

variable (n : Nat)

theorem plainDigits?_toDigits :
    plainDigits? Char.isDigit (Nat.toDigits 10 n) = some (Nat.toDigits 10 n) := by
  have hsplit : (Nat.toDigits 10 n).splitOn '_' = [Nat.toDigits 10 n] :=
    List.splitOn_eq_singleton Nat.underscore_not_in_toDigits
  have hnonempty : (Nat.toDigits 10 n).isEmpty = false := by
    rw [List.isEmpty_eq_false_iff]
    exact Nat.toDigits_ne_nil
  have hdigits : (Nat.toDigits 10 n).all Char.isDigit = true :=
    List.all_eq_true.mpr fun _ hc => isDigit_of_mem_toDigits hc
  simp [plainDigits?, hsplit, hnonempty, hdigits]

theorem wholeDigits?_toDigits :
    wholeDigits? (Nat.toDigits 10 n) = some (Nat.toDigits 10 n) := by
  rw [wholeDigits?, plainDigits?_toDigits]
  split
  · rename_i c cs heq
    exact absurd (Option.some.inj heq) (toDigits_ne_zero_cons n c cs)
  · rfl

theorem digitsValue_toDigits : digitsValue 10 (Nat.toDigits 10 n) = n := by
  rw [digitsValue]
  refine Eq.trans ?_ (foldl_toDigits n)
  refine List.foldl_ext _ _ _ fun m c hc => ?_
  rw [if_pos (isDigit_of_mem_toDigits hc), decimalValue]

theorem splitSign_toDigits : splitSign (Nat.toDigits 10 n) = (false, Nat.toDigits 10 n) := by
  have hdigit : ∀ c ∈ Nat.toDigits 10 n, c.isDigit = true := fun _ => isDigit_of_mem_toDigits
  unfold splitSign
  split
  · rename_i heq
    exact absurd (hdigit '-' (by rw [heq]; exact List.mem_cons_self)) (by decide)
  · rename_i heq
    exact absurd (hdigit '+' (by rw [heq]; exact List.mem_cons_self)) (by decide)
  · rfl

theorem integer?_toDigits : integer? (Nat.toDigits 10 n) = (some (n : Int)).filter inRange := by
  unfold integer?
  split
  · rename_i heq
    exact absurd heq (toDigits_ne_zero_cons n _ _)
  · rename_i heq
    exact absurd heq (toDigits_ne_zero_cons n _ _)
  · rename_i heq
    exact absurd heq (toDigits_ne_zero_cons n _ _)
  · simp [splitSign_toDigits, wholeDigits?_toDigits, digitsValue_toDigits]

/-- Digits alone are no floating point number. -/
theorem float?_toDigits : float? (Nat.toDigits 10 n) = none := by
  have hdigit : ∀ c ∈ Nat.toDigits 10 n, c.isDigit = true := fun _ => isDigit_of_mem_toDigits
  have hinf : Nat.toDigits 10 n ≠ "inf".toList := fun h =>
    absurd (hdigit 'i' (h ▸ by decide)) (by decide)
  have hnan : Nat.toDigits 10 n ≠ "nan".toList := fun h =>
    absurd (hdigit 'n' (h ▸ by decide)) (by decide)
  have hmantissa : (Nat.toDigits 10 n).takeWhile (fun c => !(c == 'e' || c == 'E')) =
      Nat.toDigits 10 n := by
    refine List.takeWhile_eq_self_iff.mpr fun c hc => ?_
    simp [ne_of_isDigit (hdigit c hc) (by decide : 'e'.isDigit = false),
      ne_of_isDigit (hdigit c hc) (by decide : 'E'.isDigit = false)]
  have hwhole : (Nat.toDigits 10 n).takeWhile (· != '.') = Nat.toDigits 10 n := by
    refine List.takeWhile_eq_self_iff.mpr fun c hc => ?_
    simp [ne_of_isDigit (hdigit c hc) (by decide : '.'.isDigit = false)]
  simp only [float?, splitSign_toDigits, if_neg hinf, if_neg hnan, hmantissa, hwhole, if_true]

/-- Digits alone are neither a date nor a time. -/
theorem isMoment_toDigits : isMoment (Nat.toDigits 10 n) = false := by
  have hdigit : ∀ c ∈ Nat.toDigits 10 n, c.isDigit = true := fun _ => isDigit_of_mem_toDigits
  have hletters : (Nat.toDigits 10 n).dropWhile (fun c => c != 'T' && c != 't') = [] := by
    refine List.dropWhile_eq_nil_iff.mpr fun c hc => ?_
    simp [ne_of_isDigit (hdigit c hc) (by decide : 'T'.isDigit = false),
      ne_of_isDigit (hdigit c hc) (by decide : 't'.isDigit = false)]
  have hsplit : ∀ d : Char, d.isDigit = false →
      (Nat.toDigits 10 n).splitOn d = [Nat.toDigits 10 n] := fun d hd =>
    List.splitOn_eq_singleton fun hmem => ne_of_isDigit (hdigit d hmem) hd rfl
  simp [isMoment, hletters, isDate, isTime, hsplit '-' (by decide), hsplit ':' (by decide)]

variable {n}

theorem scalar_toDigits_eq (span : Span) :
    scalar span (Nat.toDigits 10 n) =
      ((some (n : Int)).filter inRange).map fun n => .integer span n := by
  have hdigit : ∀ c ∈ Nat.toDigits 10 n, c.isDigit = true := fun _ => isDigit_of_mem_toDigits
  have htrue : Nat.toDigits 10 n ≠ "true".toList := fun h =>
    absurd (hdigit 't' (h ▸ by decide)) (by decide)
  have hfalse : Nat.toDigits 10 n ≠ "false".toList := fun h =>
    absurd (hdigit 'f' (h ▸ by decide)) (by decide)
  rw [scalar, if_neg htrue, if_neg hfalse, integer?_toDigits]
  cases (some (n : Int)).filter inRange with
  | some m => rfl
  | none => simp [float?_toDigits, isMoment_toDigits]

theorem scalar_toDigits (hn : n < 0x8000000000000000) (span : Span) :
    scalar span (Nat.toDigits 10 n) = some (.integer span n) := by
  have hrange : inRange (n : Int) = true := by
    simp only [inRange, Bool.and_eq_true, decide_eq_true_eq]
    omega
  rw [scalar_toDigits_eq, Option.filter_some_pos hrange]
  rfl

/-- What is read as a scalar is held by 63 bits. -/
theorem lt_of_scalar_toDigits {span : Span} {node : Node}
    (h : scalar span (Nat.toDigits 10 n) = some node) : n < 0x8000000000000000 := by
  by_contra hn
  have hrange : inRange (n : Int) = false := by
    simp only [inRange, Bool.and_eq_false_iff, decide_eq_false_iff_not]
    omega
  rw [scalar_toDigits_eq, Option.filter_some_neg hrange] at h
  cases h

end

/-! ### Values -/

/-- A value as it is written. -/
inductive Value
  | text (s : String)
  /-- A number, a truth value or a date by its characters. -/
  | scalar (cs : List Char)
  | array (items : List Value)
  | inline (entries : List (String × Value))

/-- A key and its value. -/
abbrev Line := String × Value

mutual

/-- The characters that show a value. -/
def Value.render : Value → List Char
  | .text s => Toml.render s
  | .scalar cs => cs
  | .array items => '[' :: renderItems items
  | .inline entries => '\x7b' :: renderEntries entries

/-- The items of an array with commas between them, and the bracket at the end. -/
def renderItems : List Value → List Char
  | [] => [']']
  | [v] => v.render ++ [']']
  | v :: w :: vs => v.render ++ ',' :: renderItems (w :: vs)

/-- The entries of a table with commas between them, and the brace at the end. -/
def renderEntries : List (String × Value) → List Char
  | [] => ['\x7d']
  | [(name, v)] => keyText name ++ " = ".toList ++ v.render ++ ['\x7d']
  | (name, v) :: e :: es =>
    keyText name ++ " = ".toList ++ v.render ++ ',' :: renderEntries (e :: es)

end

/-- The characters of a key and its value. -/
def Line.render (line : Line) : List Char := keyText line.1 ++ " = ".toList ++ line.2.render

/-- A text that is a number, a truth value or a date. -/
structure IsScalar (cs : List Char) : Prop where
  ne_nil : cs ≠ []
  chars : ∀ c ∈ cs, isScalarChar c = true
  isSome : ∀ span, (scalar span cs).isSome = true

theorem isScalar_toDigits {n : Nat} (hn : n < 0x8000000000000000) :
    IsScalar (Nat.toDigits 10 n) where
  ne_nil := Nat.toDigits_ne_nil
  chars c hc := by simp [isScalarChar, Char.isAlphanum, isDigit_of_mem_toDigits hc]
  isSome span := by rw [scalar_toDigits hn, Option.isSome_some]

/-- A value with scalars that can be read, no name twice in a table, and at most so many arrays and
tables in one another. -/
inductive Value.Fits : Nat → Value → Prop
  | text (depth : Nat) (s : String) : Fits depth (.text s)
  | scalar (depth : Nat) {cs : List Char} (hcs : IsScalar cs) : Fits depth (.scalar cs)
  | array {depth : Nat} {items : List Value} (hitems : ∀ v ∈ items, Fits depth v) :
    Fits (depth + 1) (.array items)
  | inline {depth : Nat} {entries : List Line} (hnames : (entries.map Prod.fst).Nodup)
    (hentries : ∀ line ∈ entries, Fits depth line.2) : Fits (depth + 1) (.inline entries)

/-- The node that a value is read as, wherever it stands. -/
def Value.Is : Value → Node → Prop
  | .text s, node => ∃ span, node = .string span s
  | .scalar cs, node => ∃ span, Toml.scalar span cs = some node
  | .array _, node => ∃ span items, node = .array span items
  | .inline _, node => ∃ span entries, node = .inline span entries

/-! ### What stands around values -/

/-- What may follow a value. -/
def EndsValue (rest : List Char) : Prop :=
  ∃ c cs, rest = c :: cs ∧ c ∈ [',', ']', '\x7d', '\n']

theorem endsValue_cons {c : Char} (hc : c ∈ [',', ']', '\x7d', '\n']) (cs : List Char) :
    EndsValue (c :: cs) := ⟨c, cs, rfl, hc⟩

/-- The first characters of values. -/
def startsValue (c : Char) : Bool :=
  isScalarChar c || c == '"' || c == '\'' || c == '[' || c == '\x7b'

/-- Where a value starts there is no blank, comment, or end of an array. -/
theorem of_startsValue {c : Char} (hc : startsValue c = true) :
    isBlank c = false ∧ isPlain c = true ∧ c ≠ '#' ∧ c ≠ ']' := by
  have hother : ∀ d, startsValue d = false → c ≠ d := by
    rintro d hd rfl
    rw [hd] at hc
    cases hc
  have hplain : ∀ c, startsValue c = true → isPlain c = true :=
    of_ascii (by decide) fun c hc _ => isPlain_of_le hc
  refine ⟨?_, hplain c hc, hother _ (by decide), hother _ (by decide)⟩
  rw [isBlank, beq_false_of_ne (hother ' ' (by decide)), beq_false_of_ne (hother '\t' (by decide))]
  rfl

theorem skipLines_stop {c : Char} (hblank : isBlank c = false) (hplain : isPlain c = true)
    (hcomment : c ≠ '#') (budget : Nat) (cs : List Char) :
    skipLines budget (c :: cs) = c :: cs := by
  cases budget with
  | zero => rfl
  | succ budget =>
    have hnone : skipComment (c :: cs) = c :: cs := by
      unfold skipComment
      split
      · rename_i heq
        exact absurd (List.cons.inj heq).1 hcomment
      · rfl
    simp only [skipLines, skipBlanks_cons hblank, hnone, lineBreak?_plain hplain]

theorem render_eq_quote_cons (s : String) :
    ∃ c cs, render s = c :: cs ∧ (c = '"' ∨ c = '\'') := by
  rcases render_cases s with heq | ⟨-, -, heq⟩ | heq | ⟨-, -, heq⟩
  · exact ⟨'"', _, heq, .inl rfl⟩
  · exact ⟨'\'', _, heq, .inr rfl⟩
  · exact ⟨'"', _, by rw [heq]; rfl, .inl rfl⟩
  · exact ⟨'\'', _, by rw [heq]; rfl, .inr rfl⟩

/-! ### Reading values -/

/-- What is written for a value is read up to its end, and as that value. -/
structure ReadsBack (read : List Char → Option (Node × List Char)) (v : Value) : Prop where
  starts : ∃ c cs, v.render = c :: cs ∧ startsValue c = true
  reads : ∀ rest, EndsValue rest → ∃ node, read (v.render ++ rest) = some (node, rest) ∧ v.Is node

theorem readsBack_text (depth : Nat) (s : String) : ReadsBack (readValue depth) (.text s) := by
  obtain ⟨c, cs, hform, hquote⟩ := render_eq_quote_cons s
  refine ⟨⟨c, cs, hform, by rcases hquote with rfl | rfl <;> rfl⟩, fun rest hrest => ?_⟩
  obtain ⟨d, ds, rfl, hd⟩ := hrest
  have hread : readString (render s ++ d :: ds) = some (s.toList, d :: ds) := by
    refine readString_render s ?_ ?_
    all_goals
      simp only [List.head?_cons, ne_eq, Option.some_inj]
      rintro rfl
      exact absurd hd (by decide)
  rw [Value.render]
  rw [hform, List.cons_append] at hread ⊢
  rw [readValue.eq_def]
  simp only [hquote, if_true, hread, Option.map_some, String.ofList_toList]
  exact ⟨_, rfl, _, rfl⟩

theorem scalarText_append {cs rest : List Char} (hcs : ∀ c ∈ cs, isScalarChar c = true)
    (hrest : EndsValue rest) : scalarText (cs ++ rest) = (cs, rest) := by
  obtain ⟨c, tail, rfl, hc⟩ := hrest
  have hend : isScalarChar c = false ∧ c ≠ ' ' := by
    simp only [List.mem_cons, List.not_mem_nil, or_false] at hc
    obtain rfl | rfl | rfl | rfl := hc
    all_goals decide
  have hstop : ∀ d ∈ (c :: tail).head?, isScalarChar d = false := by
    intro d hd
    rw [← Option.some.inj hd]
    exact hend.1
  obtain ⟨htake, hdrop⟩ := Text.takeWhile_append_stop hcs hstop
  unfold scalarText
  rw [htake, hdrop]
  dsimp only
  split
  · rename_i heq
    exact absurd (List.cons.inj heq).1 hend.2
  · rfl

theorem readsBack_scalar (depth : Nat) {cs : List Char} (hcs : IsScalar cs) :
    ReadsBack (readValue depth) (.scalar cs) := by
  obtain ⟨c, tail, rfl⟩ := List.exists_cons_of_ne_nil hcs.ne_nil
  have hc := hcs.chars c List.mem_cons_self
  have hother : ∀ d, isScalarChar d = false → c ≠ d := by
    rintro d hd rfl
    rw [hd] at hc
    cases hc
  refine ⟨⟨c, tail, rfl, by simp [startsValue, hc]⟩, fun rest hrest => ?_⟩
  have htext := scalarText_append hcs.chars hrest
  rw [Value.render, List.cons_append] at *
  have hquote : ¬(c = '"' ∨ c = '\'') :=
    not_or.mpr ⟨hother _ (by decide), hother _ (by decide)⟩
  rw [readValue.eq_def]
  dsimp only
  rw [if_neg hquote, if_neg (hother _ (by decide)), if_neg (hother _ (by decide)), htext]
  dsimp only
  obtain ⟨node, hnode⟩ := Option.isSome_iff_exists.mp
    (hcs.isSome (between (c :: (tail ++ rest)) rest))
  rw [hnode]
  exact ⟨node, rfl, _, hnode⟩

section

variable {read : List Char → Option (Node × List Char)}

theorem length_le_renderItems (items : List Value) :
    items.length ≤ (renderItems items).length ∧ 0 < (renderItems items).length := by
  induction items with
  | nil => exact ⟨Nat.zero_le _, Nat.one_pos⟩
  | cons v items ih =>
    cases items with
    | nil => simp [renderItems]
    | cons w items =>
      simp only [renderItems, List.length_append, List.length_cons] at ih ⊢
      omega

/-- An item of an array, and what is read behind it. -/
theorem arrayItems_item {v : Value} (h : ReadsBack read v) (budget : Nat) {rest : List Char}
    (hrest : EndsValue rest) :
    ∃ node, arrayItems read (budget + 1) (v.render ++ rest) =
      match skipLines rest.length rest with
      | ',' :: rest => do
        let (items, rest) ← arrayItems read budget rest
        some (node :: items, rest)
      | ']' :: rest => some ([node], rest)
      | _ => none := by
  obtain ⟨node, hread, -⟩ := h.reads rest hrest
  obtain ⟨c, cs, hform, hstart⟩ := h.starts
  obtain ⟨hblank, hplain, hcomment, hbracket⟩ := of_startsValue hstart
  refine ⟨node, ?_⟩
  rw [hform, List.cons_append] at hread ⊢
  rw [arrayItems, skipLines_stop hblank hplain hcomment]
  split
  · rename_i heq
    exact absurd (List.cons.inj heq).1 hbracket
  · rw [hread]
    rfl

theorem arrayItems_renderItems {items : List Value} (h : ∀ v ∈ items, ReadsBack read v)
    {budget : Nat} (hbudget : items.length ≤ budget) (rest : List Char) :
    ∃ nodes, arrayItems read (budget + 1) (renderItems items ++ rest) = some (nodes, rest) := by
  have hend : skipLines (']' :: rest).length (']' :: rest) = ']' :: rest :=
    skipLines_stop (by decide) (by decide) (by decide) _ _
  induction items generalizing budget with
  | nil =>
    refine ⟨[], ?_⟩
    rw [renderItems, List.singleton_append, arrayItems, hend]
    rfl
  | cons v items ih =>
    rw [List.forall_mem_cons] at h
    cases items with
    | nil =>
      have hstop : EndsValue (']' :: rest) := endsValue_cons (by decide) rest
      obtain ⟨node, hitem⟩ := arrayItems_item h.1 budget hstop
      refine ⟨[node], ?_⟩
      rw [renderItems, List.append_assoc, List.singleton_append, hitem, hend]
      rfl
    | cons w items =>
      cases budget with
      | zero => cases hbudget
      | succ budget =>
        obtain ⟨nodes, hnodes⟩ := ih h.2 (Nat.le_of_succ_le_succ hbudget)
        have hcomma : ∀ tail, skipLines (',' :: tail).length (',' :: tail) = ',' :: tail :=
          fun _ => skipLines_stop (by decide) (by decide) (by decide) _ _
        have hstop : EndsValue (',' :: (renderItems (w :: items) ++ rest)) :=
          endsValue_cons (by decide) _
        obtain ⟨node, hitem⟩ := arrayItems_item h.1 (budget + 1) hstop
        refine ⟨node :: nodes, ?_⟩
        rw [renderItems, List.append_assoc, List.cons_append, hitem, hcomma]
        show (arrayItems read (budget + 1) (renderItems (w :: items) ++ rest) >>= fun r =>
          some (node :: r.1, r.2)) = _
        rw [hnodes]
        rfl

theorem readsBack_array {depth : Nat} {items : List Value}
    (h : ∀ v ∈ items, ReadsBack (readValue depth) v) :
    ReadsBack (readValue (depth + 1)) (.array items) := by
  refine ⟨⟨'[', _, rfl, rfl⟩, fun rest _ => ?_⟩
  -- every item takes up a character, so a budget as long as the text is enough
  obtain ⟨hlength, hpos⟩ := length_le_renderItems items
  obtain ⟨budget, hbudget⟩ : ∃ n, ('[' :: (renderItems items ++ rest)).length = n + 1 := ⟨_, rfl⟩
  have hitems : items.length ≤ budget := by
    simp only [List.length_cons, List.length_append] at hbudget
    omega
  obtain ⟨nodes, hnodes⟩ := arrayItems_renderItems h hitems rest
  rw [Value.render, List.cons_append, readValue, if_neg (by decide), if_pos rfl, hbudget, hnodes]
  exact ⟨_, rfl, _, nodes, rfl⟩

/-! ### Reading tables -/

/-- A key and its value are read as an entry with that name and that value. -/
theorem keyValue_render {line : Line} (h : ReadsBack read line.2) {rest : List Char}
    (hrest : EndsValue rest) :
    ∃ entry, keyValue read (line.render ++ rest) = some (ownEntry entry, rest) ∧
      Named Value.Is line entry := by
  obtain ⟨node, hread, hnode⟩ := h.reads rest hrest
  obtain ⟨c, cs, hform, hstart⟩ := h.starts
  have hline : line.render ++ rest =
      keyText line.1 ++ (' ' :: '=' :: ' ' :: (line.2.render ++ rest)) := by
    simp [Line.render]
  have hequals : ∀ tail, skipBlanks (' ' :: '=' :: tail) = '=' :: tail := fun _ => rfl
  have hvalue : skipBlanks (' ' :: (line.2.render ++ rest)) = line.2.render ++ rest := by
    rw [hform, List.cons_append]
    exact skipBlanks_cons (of_startsValue hstart).1 _
  have hstop : isKeyChar ' ' = false := by decide
  have hpoint : (skipBlanks (' ' :: '=' :: ' ' :: (line.2.render ++ rest))).head? ≠ some '.' := by
    rw [hequals]
    simp
  obtain ⟨span, hkey⟩ := readKey_keyText line.1 hstop hpoint
  refine ⟨(⟨line.1, span⟩, node), ?_, rfl, hnode⟩
  rw [hline, keyValue, hkey, hequals]
  simp only [Option.bind_eq_bind, Option.bind_some, hvalue, hread]
  rfl

theorem length_le_renderEntries (entries : List Line) :
    entries.length ≤ (renderEntries entries).length := by
  induction entries with
  | nil => exact Nat.zero_le _
  | cons e entries ih =>
    cases entries with
    | nil =>
      simp only [renderEntries, List.length_append, List.length_cons, List.length_nil]
      omega
    | cons e' entries =>
      simp only [renderEntries, List.length_append, List.length_cons] at ih ⊢
      omega

theorem renderEntries_cons (e : Line) (entries : List Line) :
    renderEntries (e :: entries) = e.render ++
      (match entries with
        | [] => ['\x7d']
        | e' :: entries => ',' :: renderEntries (e' :: entries)) := by
  obtain ⟨name, v⟩ := e
  cases entries with
  | nil => rw [renderEntries, Line.render]
  | cons e' entries => rw [renderEntries, Line.render]

theorem inlinePairs_renderEntries {e : Line} {es : List Line}
    (h : ∀ line ∈ e :: es, ReadsBack read line.2) {budget : Nat} (hbudget : es.length ≤ budget)
    (rest : List Char) :
    ∃ entries, inlinePairs read (budget + 1) (renderEntries (e :: es) ++ rest) =
      some (entries.map ownEntry, rest) ∧ List.Forall₂ (Named Value.Is) (e :: es) entries := by
  induction es generalizing e budget with
  | nil =>
    have hstop : EndsValue ('\x7d' :: rest) := endsValue_cons (by decide) rest
    obtain ⟨entry, hread, hentry⟩ := keyValue_render (h e List.mem_cons_self) hstop
    refine ⟨[entry], ?_, .cons hentry .nil⟩
    rw [renderEntries_cons, List.append_assoc, List.singleton_append, inlinePairs, hread]
    rfl
  | cons e' es ih =>
    rw [List.forall_mem_cons] at h
    cases budget with
    | zero => cases hbudget
    | succ budget =>
      obtain ⟨entries, hpairs, hentries⟩ := ih h.2 (Nat.le_of_succ_le_succ hbudget)
      have hstop : EndsValue (',' :: (renderEntries (e' :: es) ++ rest)) :=
        endsValue_cons (by decide) _
      obtain ⟨entry, hread, hentry⟩ := keyValue_render h.1 hstop
      refine ⟨entry :: entries, ?_, .cons hentry hentries⟩
      have hcomma : ∀ tail, skipBlanks (',' :: tail) = ',' :: tail := fun _ => rfl
      rw [renderEntries_cons, List.append_assoc, List.cons_append, inlinePairs, hread]
      simp only [Option.bind_eq_bind, Option.bind_some, hcomma, hpairs]
      rfl

theorem readsBack_inline {depth : Nat} {entries : List Line}
    (hnames : (entries.map Prod.fst).Nodup)
    (h : ∀ line ∈ entries, ReadsBack (readValue depth) line.2) :
    ReadsBack (readValue (depth + 1)) (.inline entries) := by
  refine ⟨⟨'\x7b', _, rfl, rfl⟩, fun rest _ => ?_⟩
  have hinline : ∃ es, inlineEntries (readValue depth) (renderEntries entries ++ rest) =
      some (es, rest) := by
    cases entries with
    | nil => exact ⟨[], rfl⟩
    | cons e entries =>
      obtain ⟨c, cs, hkey, hstart⟩ := exists_keyText e.1
      obtain ⟨hblank, -, -, -, hbrace, -⟩ := of_startsKey hstart
      obtain ⟨tail, hform⟩ : ∃ tail, renderEntries (e :: entries) ++ rest = c :: tail := by
        rw [renderEntries_cons, Line.render, hkey]
        exact ⟨_, rfl⟩
      obtain ⟨budget, hbudget⟩ : ∃ n, (renderEntries (e :: entries) ++ rest).length = n + 1 :=
        ⟨tail.length, by rw [hform]; rfl⟩
      have hlength := length_le_renderEntries (e :: entries)
      have hentries : entries.length ≤ budget := by
        simp only [List.length_cons, List.length_append] at hlength hbudget
        omega
      obtain ⟨es, hpairs, hes⟩ := inlinePairs_renderEntries h hentries rest
      have hnodup : (Toml.names ([] ++ es)).Nodup := by
        rw [List.nil_append, names_of_forall₂ hes]
        exact hnames
      refine ⟨es, ?_⟩
      rw [← hbudget] at hpairs
      rw [hform] at hpairs ⊢
      unfold inlineEntries
      rw [skipBlanks_cons hblank]
      split
      · rename_i heq
        exact absurd (List.cons.inj heq).1 hbrace
      · simp only [hpairs, Option.bind_eq_bind, Option.bind_some, insertAll_ownEntries hnodup]
        rfl
  obtain ⟨es, hes⟩ := hinline
  rw [Value.render, List.cons_append, readValue, if_neg (by decide), if_neg (by decide), if_pos rfl,
    hes]
  exact ⟨_, rfl, _, es, rfl⟩

end

/-- Every value that fits is read back. -/
theorem readsBack {depth : Nat} {v : Value} (h : v.Fits depth) : ReadsBack (readValue depth) v := by
  induction h with
  | text depth s => exact readsBack_text depth s
  | scalar depth hcs => exact readsBack_scalar depth hcs
  | array _ ih => exact readsBack_array ih
  | inline hnames _ ih => exact readsBack_inline hnames ih

end RemoteFiles.Toml
