import RemoteFiles.Proofs.Shell.Words
import RemoteFiles.Shell.Command
import Mathlib.Tactic.FinCases

/-!
# Commands of lines

`usages` lists how the commands are written, in the order of the help: under which names, and with
which arguments.  `commands_of_lines` says what the words of a line are read as.  A line holds
nothing if it has no word or the first one begins a comment; a first word that names no usage is
unknown; and otherwise the number of words after it decides.  The command that comes of them has the
name of the usage and just these arguments, and there is only one such command, since a command is
read back from its name and its arguments (`ofWords?_words`).

The form that stands behind a name takes as many words as the usage allows (`Form.Follows`), so what
is left over is too much.
-/

namespace RemoteFiles.Shell

/-! ### Usages -/

/-- How a command is written: its canonical name, other names for it, what the arguments are called
that it needs, and how many more it takes. -/
structure Usage where
  name : String
  aliases : List String
  required : List String
  optional : Nat
  deriving DecidableEq

namespace Usage

def names (u : Usage) : List String := u.name :: u.aliases

/-- The most arguments that can be given. -/
def maximum (u : Usage) : Nat := u.required.length + u.optional

end Usage

/-- How the commands are written. -/
def usages : List Usage :=
  [⟨"ls", ["dir"], [], 1⟩,
    ⟨"cd", [], [], 1⟩,
    ⟨"pwd", [], [], 0⟩,
    ⟨"rm", ["del"], ["NAME"], 0⟩,
    ⟨"cp", [], ["NAME"], 1⟩,
    ⟨"cut", [], ["NAME"], 0⟩,
    ⟨"paste", [], [], 0⟩,
    ⟨"clear", [], [], 0⟩,
    ⟨"mv", [], ["OLD", "NEW"], 0⟩,
    ⟨"mkdir", [], [], 1⟩,
    ⟨"put", [], ["FILE"], 0⟩,
    ⟨"get", [], ["NAME"], 1⟩,
    ⟨"login", [], [], 1⟩,
    ⟨"logout", [], [], 0⟩,
    ⟨"whoami", [], [], 0⟩,
    ⟨"help", ["?"], [], 0⟩,
    ⟨"exit", ["quit"], [], 0⟩]

namespace Command

/-- The arguments of a command in order; one that is absent is left out. -/
def arguments : Command → List String
  | list path | changeDirectory path => path.toList
  | remove name | cut name => [name]
  | copy name other | get name other => name :: other.toList
  | move oldName newName => [oldName, newName]
  | makeDirectory name => name.toList
  | put file => [file]
  | login user => user.toList
  | workingDirectory | paste | clear | logout | whoami | help | exit => []

/-- The command is the one of a name with some arguments. -/
def IsOf (c : Command) (name : String) (args : List String) : Prop :=
  c.name = name ∧ c.arguments = args

/-- The first word of a line begins a comment. -/
abbrev IsComment (word : String) : Prop := word.toList.head? = some '#'

end Command

/-- What is read of the words behind a name of a usage. -/
structure Usage.Reads (u : Usage) (args : List String)
    (result : Except LineError (Option Command)) : Prop where
  missing : ∀ h : args.length < u.required.length,
    result = .error (.missingArgument u.name u.required[args.length])
  tooMany : u.maximum < args.length → result = .error (.tooManyArguments u.name)
  command : u.required.length ≤ args.length → args.length ≤ u.maximum →
    ∃ c : Command, result = .ok (some c) ∧ c.IsOf u.name args

/-! ### Forms -/

/-- A form takes the arguments of a usage, and what it makes of them is a command with the name of
the usage and these arguments. -/
inductive Form.Follows : Form → Usage → Prop
  | plain {name aliases command} (makes : command.IsOf name []) :
      Follows (.plain command) ⟨name, aliases, [], 0⟩
  | optional {name aliases make} (makes : ∀ a, (make a).IsOf name a.toList) :
      Follows (.optional make) ⟨name, aliases, [], 1⟩
  | required {name aliases argument make} (makes : ∀ a, (make a).IsOf name [a]) :
      Follows (.required argument make) ⟨name, aliases, [argument], 0⟩
  | requiredOptional {name aliases argument make}
      (makes : ∀ a b, (make a b).IsOf name (a :: b.toList)) :
      Follows (.requiredOptional argument make) ⟨name, aliases, [argument], 1⟩
  | twoRequired {name aliases first second make} (makes : ∀ a b, (make a b).IsOf name [a, b]) :
      Follows (.twoRequired first second make) ⟨name, aliases, [first, second], 0⟩

namespace Form.Follows

variable {form : Form} {u : Usage} {args : List String}

/-- The first argument that is absent is told. -/
theorem take_missing (h : form.Follows u) (hlen : args.length < u.required.length) :
    form.take u.name args = .error (.missingArgument u.name u.required[args.length]) := by
  cases h with
  | plain | optional => exact absurd hlen (Nat.not_lt_zero _)
  | required | requiredOptional =>
    obtain rfl : args = [] := List.length_eq_zero_iff.mp (Nat.lt_one_iff.mp hlen)
    rfl
  | twoRequired =>
    match args, hlen with
    | [], _ => rfl
    | [_], _ => rfl

/-- Of enough words, a form takes as many as it can. -/
theorem take_enough (h : form.Follows u) (hlen : u.required.length ≤ args.length) :
    ∃ c, form.take u.name args = .ok (c, args.drop u.maximum) ∧
      c.IsOf u.name (args.take u.maximum) := by
  cases h with
  | plain makes => exact ⟨_, rfl, makes⟩
  | optional makes =>
    match args with
    | [] => exact ⟨_, rfl, makes none⟩
    | a :: _ => exact ⟨_, rfl, makes (some a)⟩
  | required makes =>
    match args, hlen with
    | a :: _, _ => exact ⟨_, rfl, makes a⟩
  | requiredOptional makes =>
    match args, hlen with
    | [a], _ => exact ⟨_, rfl, makes a none⟩
    | a :: b :: _, _ => exact ⟨_, rfl, makes a (some b)⟩
  | twoRequired makes =>
    match args, hlen with
    | a :: b :: _, _ => exact ⟨_, rfl, makes a b⟩

end Form.Follows

/-- The form behind each name of a usage follows the usage. -/
theorem exists_form {u : Usage} (hu : u ∈ usages) {word : String} (hword : word ∈ u.names) :
    ∃ form, Form.ofWord? word = some (u.name, form) ∧ form.Follows u := by
  -- once the word is known, its form is found, and only one rule of `Follows` is about such a form
  fin_cases hu <;> fin_cases hword <;> refine ⟨_, rfl, ?_⟩ <;> constructor <;> intros <;>
    exact ⟨rfl, rfl⟩

theorem ofWord?_eq_none {word : String} (h : ∀ u ∈ usages, word ∉ u.names) :
    Form.ofWord? word = none := by
  have hnames : word ∉ usages.flatMap Usage.names := by
    rw [List.mem_flatMap]
    rintro ⟨u, hu, hword⟩
    exact h u hu hword
  simp only [usages, Usage.names, List.flatMap_cons, List.flatMap_nil, List.cons_append,
    List.nil_append, List.append_nil, List.mem_cons, List.not_mem_nil, or_false, not_or] at hnames
  simp [Form.ofWord?, hnames]

/-! ### Words -/

namespace Command

/-- A command is read back from its name and its arguments. -/
theorem ofWords?_words (c : Command) : ofWords? (c.name :: c.arguments) = .ok (some c) := by
  cases c with
  | list a | changeDirectory a | makeDirectory a | login a =>
    cases a <;> simp [ofWords?, Form.ofWord?, Form.take, name, arguments]
  | copy file a | get file a =>
    cases a <;> simp [ofWords?, Form.ofWord?, Form.take, name, arguments]
  | remove | cut | put | move | workingDirectory | paste | clear | logout | whoami | help | exit =>
    simp [ofWords?, Form.ofWord?, Form.take, name, arguments]

/-- There is one command of a name with some arguments. -/
theorem IsOf.eq {c d : Command} {name : String} {args : List String} (hc : c.IsOf name args)
    (hd : d.IsOf name args) : c = d := by
  have hread := ofWords?_words c
  rw [hc.1, hc.2, ← hd.1, ← hd.2, ofWords?_words d] at hread
  exact (Option.some.inj (Except.ok.inj hread)).symm

theorem ofWords?_eq_none_iff (ws : List String) :
    ofWords? ws = .ok none ↔ ws = [] ∨ ∃ word args, ws = word :: args ∧ IsComment word := by
  cases ws with
  | nil => exact iff_of_true rfl (.inl rfl)
  | cons word args =>
    by_cases hcomment : IsComment word
    · exact iff_of_true (if_pos hcomment) (.inr ⟨word, args, rfl, hcomment⟩)
    · refine iff_of_false ?_ (by simp [hcomment])
      rw [ofWords?, if_neg hcomment]
      -- every way to go on ends with a command or an error
      split
      · exact nofun
      · split <;> exact nofun

theorem ofWords?_unknown {word : String} {args : List String} (hcomment : ¬IsComment word)
    (hword : ∀ u ∈ usages, word ∉ u.names) :
    ofWords? (word :: args) = .error (.unknownCommand word) := by
  rw [ofWords?, if_neg hcomment, ofWord?_eq_none hword]

/-- No name of a usage begins a comment. -/
theorem not_isComment {u : Usage} (hu : u ∈ usages) {word : String} (hword : word ∈ u.names) :
    ¬IsComment word := by
  have hnone : ∀ u ∈ usages, ∀ word ∈ u.names, ¬IsComment word := by decide
  exact hnone u hu word hword

/-- What follows a name of a usage is read by the usage. -/
theorem reads_ofWords? {u : Usage} (hu : u ∈ usages) {word : String} (hword : word ∈ u.names)
    (args : List String) : u.Reads args (ofWords? (word :: args)) := by
  obtain ⟨form, hform, follows⟩ := exists_form hu hword
  rw [ofWords?, if_neg (not_isComment hu hword), hform]
  constructor
  · intro hlen
    simp only [follows.take_missing hlen]
  · intro hlen
    obtain ⟨c, htake, hname, -⟩ := follows.take_enough
      ((Nat.le_add_right _ u.optional).trans hlen.le)
    obtain ⟨left, more, hleft⟩ := List.exists_cons_of_length_pos
      (show 0 < (args.drop u.maximum).length by rw [List.length_drop]; omega)
    simp only [htake, hleft, hname]
  · intro hmin hmax
    obtain ⟨c, htake, hc⟩ := follows.take_enough hmin
    rw [List.drop_eq_nil_of_le hmax] at htake
    rw [List.take_of_length_le hmax] at hc
    simp only [htake]
    exact ⟨c, rfl, hc⟩

end Command

/-- A usage leaves no choice. -/
theorem Usage.Reads.unique {u : Usage} {args : List String}
    {result other : Except LineError (Option Command)} (h : u.Reads args result)
    (h' : u.Reads args other) : result = other := by
  rcases Nat.lt_or_ge args.length u.required.length with hmin | hmin
  · rw [h.missing hmin, h'.missing hmin]
  rcases Nat.lt_or_ge u.maximum args.length with hmax | hmax
  · rw [h.tooMany hmax, h'.tooMany hmax]
  · obtain ⟨c, rfl, hc⟩ := h.command hmin hmax
    obtain ⟨d, rfl, hd⟩ := h'.command hmin hmax
    rw [hc.eq hd]

/-! ### Lines -/

theorem ofLine?_of_words {line : String} {ws : List String} (h : words line = some ws) :
    Command.ofLine? line = Command.ofWords? ws := by
  rw [Command.ofLine?, h]

open Command (IsComment) in
/-- **Commands of lines**: of a line with words, nothing is read exactly if there is no word or the
first one begins a comment.  Else a first word that is no name of a usage is unknown, and behind a
name of a usage the words are read by it: too few of them lack the first argument that is absent,
too many are refused, and any other number of them are the arguments of a command with the name of
the usage.  All names of a usage give the same, and every command is that of some line. -/
theorem commands_of_lines :
    (∀ line ws, words line = some ws →
      (Command.ofLine? line = .ok none ↔
        ws = [] ∨ ∃ word args, ws = word :: args ∧ IsComment word) ∧
      ∀ word args, ws = word :: args → ¬IsComment word →
        ((∀ u ∈ usages, word ∉ u.names) →
          Command.ofLine? line = .error (.unknownCommand word)) ∧
        ∀ u ∈ usages, word ∈ u.names → u.Reads args (Command.ofLine? line)) ∧
    (∀ u ∈ usages, ∀ word ∈ u.names, ∀ args line line', words line = some (word :: args) →
      words line' = some (u.name :: args) → Command.ofLine? line = Command.ofLine? line') ∧
    ∀ c : Command, ∃ line, words line = some (c.name :: c.arguments) ∧
      Command.ofLine? line = .ok (some c) := by
  refine ⟨fun line ws hwords => ?_, fun u hu word hword args line line' h h' => ?_, fun c => ?_⟩
  · rw [ofLine?_of_words hwords]
    refine ⟨Command.ofWords?_eq_none_iff ws, ?_⟩
    rintro word args rfl hcomment
    exact ⟨Command.ofWords?_unknown hcomment,
      fun u hu hword => Command.reads_ofWords? hu hword args⟩
  · rw [ofLine?_of_words h, ofLine?_of_words h']
    exact (Command.reads_ofWords? hu hword args).unique
      (Command.reads_ofWords? hu List.mem_cons_self args)
  · have hwords := (Writing.quoting (c.name :: c.arguments)).words_text
    rw [Writing.words_quoting] at hwords
    exact ⟨_, hwords, (ofLine?_of_words hwords).trans (Command.ofWords?_words c)⟩

/-- An alias, with an argument in quotes and with one behind a backslash; each kind of fault; and a
word that begins a comment only once it is read. -/
theorem commands_of_lines_of_alias :
    (words "del 'a b'" = some ["del", "a b"] ∧
      Command.ofLine? "del 'a b'" = .ok (some (.remove "a b")) ∧
      Command.ofLine? "del 'a b'" = Command.ofLine? "rm a\\ b") ∧
    Command.ofLine? "mv x" = .error (.missingArgument "mv" "NEW") ∧
    Command.ofLine? "? x" = .error (.tooManyArguments "help") ∧
    Command.ofLine? "'' ls" = .error (.unknownCommand "") ∧
    Command.ofLine? "\\#ls" = .ok none ∧
    ∃ line, words line = some ["cp", "#", ""] ∧
      Command.ofLine? line = .ok (some (.copy "#" (some ""))) := by
  obtain ⟨hread, halias, hall⟩ := commands_of_lines
  have hdel : words "del 'a b'" = some ["del", "a b"] := by decide
  refine ⟨⟨hdel, ?_, ?_⟩, ?_, ?_, ?_, ?_, hall (.copy "#" (some ""))⟩
  · obtain ⟨c, hline, hc⟩ := (((hread _ _ hdel).2 _ _ rfl (by decide)).2
      ⟨"rm", ["del"], ["NAME"], 0⟩ (by decide) (by decide)).command (by decide) (by decide)
    rw [hline, hc.eq (d := .remove "a b") ⟨rfl, rfl⟩]
  · exact halias ⟨"rm", ["del"], ["NAME"], 0⟩ (by decide) "del" (by decide) ["a b"] _ _ hdel
      (by decide)
  · exact (((hread _ ["mv", "x"] (by decide)).2 _ _ rfl (by decide)).2
      ⟨"mv", [], ["OLD", "NEW"], 0⟩ (by decide) (by decide)).missing (by decide)
  · exact (((hread _ ["?", "x"] (by decide)).2 _ _ rfl (by decide)).2
      ⟨"help", ["?"], [], 0⟩ (by decide) (by decide)).tooMany (by decide)
  · exact ((hread _ ["", "ls"] (by decide)).2 _ _ rfl (by decide)).1 (by decide)
  · exact (hread _ ["#ls"] (by decide)).1.mpr (.inr ⟨_, _, rfl, by decide⟩)

end RemoteFiles.Shell
