import RemoteFiles.Program.Arguments
import RemoteFiles.Proofs.Shell.Commands

/-!
# Command lines

Some commands of the shell can be carried out by the program alone (`Command.isOnce`).  The words of
their command lines are read as they were meant, whatever characters the arguments have: settings
are given together with their values in one word (`OptionName.assign`), and all operands stand
behind two hyphens, so that none of them is taken for an option (`parse_once`).  Only the name of a
local file cannot be empty.
-/

namespace RemoteFiles

/-! ### Commands that are carried out alone -/

namespace Shell.Command

/-- The program carries out the command by itself. -/
def isOnce : Command → Bool
  | list _ | remove _ | copy _ (some _) | move _ _ | makeDirectory _ | put _ | get _ _ | whoami =>
    true
  | _ => false

/-- The name of a local file to write to. -/
def output? : Command → Option String
  | get _ output => output
  | _ => none

/-- The name of a local file to read from or to write to. -/
def localFile? : Command → Option String
  | put file => some file
  | c => c.output?

/-- The arguments that stand on a command line without the name of an option. -/
def operands : Command → List String
  | get name _ => [name]
  | c => c.arguments

end Shell.Command

namespace Program

open Shell (Command)

/-- An option together with its value. -/
def OptionName.assign (o : OptionName) (value : String) : String := "--" ++ o.long ++ "=" ++ value

/-- The words behind the name of a command. -/
def commandWords (c : Command) : List String :=
  (c.output?.map OptionName.output.assign).toList ++ "--" :: c.operands

/-- What is set on a command line. -/
structure Settings where
  verbose : Bool
  config : Option String
  url : Option String
  user : Option String

namespace Settings

/-- The words for the settings. -/
def words (o : Settings) : List String :=
  (if o.verbose then ["--verbose"] else []) ++
    ((o.config.map OptionName.config.assign).toList ++
      ((o.url.map OptionName.url.assign).toList ++ (o.user.map OptionName.user.assign).toList))

/-- A command line with the settings. -/
def arguments (o : Settings) (task : Task) : Arguments :=
  ⟨o.config.map .ofString, o.verbose, o.url, o.user, task⟩

end Settings

/-! ### One word -/

namespace Scan

variable {known : List OptionName} {places : Nat} {s : Scan} {o : OptionName}

/-- The value of an option, if there is one, was found. -/
def gave (s : Scan) (o : OptionName) : Option String → Scan
  | none => s
  | some value => { s with pending := none, values := (o, value) :: s.values }

theorem pending_gave (hs : s.pending = none) (o : OptionName) (value : Option String) :
    (s.gave o value).pending = none := by
  cases value with
  | none => exact hs
  | some value => rfl

theorem settled_of_none (hs : s.pending = none) : s.settled = .ok s := by
  rw [settled, hs]
  rfl

theorem give_eq_gave {value : String} (hnew : s.values.lookup o = none)
    (hpath : o.isPath = true → value ≠ "") : s.give o value = .ok (s.gave o value) := by
  rw [give, if_neg]
  · rfl
  · rw [hnew]
    exact not_or.mpr ⟨Bool.false_ne_true, fun h => hpath h.1 h.2⟩

theorem toList_assign (o : OptionName) (value : String) :
    (o.assign value).toList = '-' :: '-' :: (o.long.toList ++ '=' :: value.toList) := by
  simp only [OptionName.assign, String.toList_append]
  rw [List.append_assoc, List.append_assoc]
  rfl

/-- What stands before the first `=` is the name of the option, and what stands behind it is the
value, with whatever characters. -/
theorem argument_assign (hknown : known.find? (·.long == o.long) = some o)
    (hvalue : o.hasValue = true) (hs : s.pending = none) (value : String) :
    s.argument known places (o.assign value) = s.give o value := by
  have hname : ∀ c ∈ o.long.toList, (c != '=') = true := by
    rw [← List.all_eq_true]
    cases o <;> decide
  have htake : (o.long.toList ++ '=' :: value.toList).takeWhile (· != '=') = o.long.toList := by
    rw [List.takeWhile_append_of_pos hname, List.takeWhile_cons_of_neg (by decide), List.append_nil]
  have hdrop : (o.long.toList ++ '=' :: value.toList).dropWhile (· != '=') =
      '=' :: value.toList := by
    rw [List.dropWhile_append_of_pos hname, List.dropWhile_cons_of_neg (by decide)]
  simp only [argument, toList_assign, long, settled_of_none hs, htake, hdrop, String.ofList_toList,
    hknown, hvalue]
  rfl

theorem assign_ne (o : OptionName) (value : String) : o.assign value ≠ "--" := fun h => by
  simpa [toList_assign] using congrArg String.toList h

/-- An option with a value that was not given before, among the words of a task. -/
theorem arguments_assign (hknown : known.find? (·.long == o.long) = some o)
    (hvalue : o.hasValue = true) (hs : s.pending = none) (hnew : s.values.lookup o = none)
    {value : String} (hpath : o.isPath = true → value ≠ "") (words : List String) :
    s.arguments known places (o.assign value :: words) =
      (s.gave o (some value)).arguments known places words := by
  rw [arguments, if_neg (assign_ne o value), argument_assign hknown hvalue hs,
    give_eq_gave hnew hpath]
  rfl

/-- Behind two hyphens everything is an operand. -/
theorem arguments_operands (hs : s.pending = none) {words : List String}
    (hplaces : s.operands.length + words.length ≤ places) :
    s.arguments known places ("--" :: words) =
      .ok { s with operands := s.operands ++ words } := by
  have hfold : ∀ s : Scan, s.operands.length + words.length ≤ places →
      words.foldlM (addOperand places) s = .ok { s with operands := s.operands ++ words } := by
    clear hplaces
    induction words with
    | nil =>
      intro s _
      rw [List.append_nil]
      rfl
    | cons word words ih =>
      intro s hplaces
      rw [List.length_cons] at hplaces
      rw [List.foldlM_cons, addOperand, if_pos (by omega)]
      refine (ih _ ?_).trans ?_
      · rw [List.length_append, List.length_singleton]
        omega
      · rw [List.append_assoc]
        rfl
  rw [arguments, if_pos rfl, settled_of_none hs]
  exact hfold s hplaces

end Scan

/-! ### The words of a command -/

/-- What is found among the words of a command. -/
def commandScan (c : Command) : Scan :=
  { Scan.empty.gave .output c.output? with operands := c.operands }

theorem arguments_commandWords {c : Command} (hlocal : c.output? ≠ some "")
    {known : List OptionName} (hknown : c.output?.isSome = true →
      known.find? (·.long == OptionName.output.long) = some .output) {places : Nat}
    (hplaces : c.operands.length ≤ places) :
    Scan.empty.arguments known places (commandWords c) = .ok (commandScan c) := by
  have hlength : Scan.empty.operands.length + c.operands.length ≤ places := by
    rwa [Scan.empty, List.length_nil, Nat.zero_add]
  unfold commandWords commandScan
  cases houtput : c.output? with
  | none => exact Scan.arguments_operands rfl hlength
  | some file =>
    have hfile : file ≠ "" := fun h => hlocal (houtput.trans (congrArg some h))
    have hfound := hknown (Option.isSome_of_eq_some houtput)
    exact (Scan.arguments_assign hfound rfl rfl rfl (fun _ => hfile) _).trans
      (Scan.arguments_operands (s := Scan.empty.gave .output (some file)) rfl hlength)

/-- A command that is carried out alone is read from its name and the words behind it. -/
theorem ofTask_once (before : Scan) {c : Command} (honce : c.isOnce = true)
    (hlocal : c.localFile? ≠ some "") :
    Arguments.ofTask before c.name (commandWords c) =
      .ok (.ofScans before (commandScan c) (.once c)) := by
  have hscan : ∀ form : TaskForm, TaskForm.ofName? c.name = some form →
      Scan.empty.arguments (form.options ++ commonOptions) form.places (commandWords c) =
        .ok (commandScan c) → form.make (commandScan c) = some (.once c) →
      Arguments.ofTask before c.name (commandWords c) =
        .ok (.ofScans before (commandScan c) (.once c)) := by
    intro form hform harguments hmake
    rw [Arguments.ofTask, hform]
    simp only [harguments, hmake, bind, Except.bind]
  have houtput : c.output? ≠ some "" := by
    cases c with
    | get name output => exact hlocal
    | _ => exact (Option.some_ne_none _).symm
  have hplain : ∀ {places make}, TaskForm.ofName? c.name = some (.plain places make) →
      c.output? = none → c.operands.length ≤ places → make c.operands = some c →
      Arguments.ofTask before c.name (commandWords c) =
        .ok (.ofScans before (commandScan c) (.once c)) := by
    intro places make hform hnone hplaces hmake
    refine hscan _ hform (arguments_commandWords houtput ?_ hplaces) ?_
    · rw [hnone]
      exact fun h => absurd h Bool.false_ne_true
    · exact congrArg (Option.map Task.once) hmake
  -- a command without a local file to write to has nothing but operands
  cases c with
  | list path =>
    cases path with
    | none => exact hplain rfl rfl (Nat.zero_le 1) rfl
    | some path => exact hplain rfl rfl (Nat.le_refl 1) rfl
  | remove name => exact hplain rfl rfl (Nat.le_refl 1) rfl
  | copy name newName =>
    cases newName with
    | none => cases honce
    | some newName => exact hplain rfl rfl (Nat.le_refl 2) rfl
  | move oldName newName => exact hplain rfl rfl (Nat.le_refl 2) rfl
  | makeDirectory name =>
    cases name with
    | none => exact hplain rfl rfl (Nat.zero_le 1) rfl
    | some name => exact hplain rfl rfl (Nat.le_refl 1) rfl
  | put file => exact hplain rfl rfl (Nat.le_refl 1) (if_neg fun h => hlocal (congrArg some h))
  | get name output =>
    refine hscan _ rfl (arguments_commandWords houtput (fun _ => rfl) (Nat.le_refl 1)) ?_
    cases output <;> rfl
  | whoami => exact hplain rfl rfl (Nat.le_refl 0) rfl
  | changeDirectory | workingDirectory | cut | paste | clear | login | logout | help | exit =>
    cases honce

/-! ### Settings -/

/-- No name of a task begins as an option does. -/
theorem ofName?_assign (o : OptionName) (value : String) :
    TaskForm.ofName? (o.assign value) = none ∧ o.assign value ≠ "help" := by
  have hne : ∀ word : String, word.toList.head? ≠ some '-' → o.assign value ≠ word := by
    rintro word hword rfl
    exact hword (by rw [Scan.toList_assign, List.head?_cons])
  refine ⟨?_, hne "help" (by decide)⟩
  unfold TaskForm.ofName?
  split
  any_goals exact absurd ‹_› (hne _ (by decide))
  rfl

/-- A setting before the name of a task, if it is given, is what it says. -/
theorem scan_assign {s : Scan} {o : OptionName} (hknown : (.version :: commonOptions).find?
      (·.long == o.long) = some o) (hvalue : o.hasValue = true) (hs : s.pending = none)
    (hnew : s.values.lookup o = none) {value : Option String}
    (hpath : o.isPath = true → value ≠ some "") (words : List String) :
    Arguments.scan s ((value.map o.assign).toList ++ words) =
      Arguments.scan (s.gave o value) words := by
  cases value with
  | none => rfl
  | some value =>
    have hgive := Scan.give_eq_gave hnew fun h => mt (congrArg some) (hpath h)
    obtain ⟨hname, hhelp⟩ := ofName?_assign o value
    rw [Option.map_some, Option.toList_some, List.singleton_append, Arguments.scan, if_neg,
      if_neg (Scan.assign_ne o value), Scan.argument_assign hknown hvalue hs, hgive]
    · rfl
    · rw [hname]
      exact fun h => h.2.elim (fun h => absurd h Bool.false_ne_true) hhelp

/-- The name of a task ends what stands before it. -/
theorem scan_name {s : Scan} (hs : s.pending = none) {name : String}
    (hname : (TaskForm.ofName? name).isSome = true) (words : List String) :
    Arguments.scan s (name :: words) = Arguments.ofTask s name words := by
  rw [Arguments.scan, if_pos ⟨by rw [hs]; rfl, .inl hname⟩]

namespace Settings

variable (o : Settings)

/-- What is found among the words for the settings. -/
def scan : Scan :=
  ((Scan.gave ⟨none, [], if o.verbose then [.verbose] else [], []⟩ .config o.config).gave
    .url o.url).gave .user o.user

theorem pending_scan : o.scan.pending = none :=
  Scan.pending_gave (Scan.pending_gave (Scan.pending_gave rfl _ _) _ _) _ _

theorem scan_words (hconfig : o.config ≠ some "") (words : List String) :
    Arguments.scan .empty (o.words ++ words) = Arguments.scan o.scan words := by
  obtain ⟨verbose, config, url, user⟩ := o
  set s : Scan := ⟨none, [], if verbose then [.verbose] else [], []⟩
  have hverbose : ∀ words,
      Arguments.scan .empty ((if verbose then ["--verbose"] else []) ++ words) =
        Arguments.scan s words := by
    intro words
    cases verbose <;> rfl
  have hurl : (s.gave .config config).values.lookup .url = none := by
    cases config <;> rfl
  have huser : ((s.gave .config config).gave .url url).values.lookup .user = none := by
    cases config <;> cases url <;> rfl
  have hpending := Scan.pending_gave (s := s) rfl .config config
  rw [Settings.words, List.append_assoc, List.append_assoc, List.append_assoc, hverbose,
    scan_assign rfl rfl rfl rfl (fun _ => hconfig),
    scan_assign rfl rfl hpending hurl (fun h => absurd h Bool.false_ne_true),
    scan_assign rfl rfl (Scan.pending_gave hpending _ _) huser
      (fun h => absurd h Bool.false_ne_true)]
  rfl

/-- What a task is given besides its own words. -/
theorem ofScans_scan {after : Scan} (hvalues : ∀ o ≠ OptionName.output,
      after.values.lookup o = none) (hflags : after.flags = []) (task : Task) :
    Arguments.ofScans o.scan after task = o.arguments task := by
  obtain ⟨verbose, config, url, user⟩ := o
  unfold Arguments.ofScans
  dsimp only
  rw [hvalues .config (by decide), hvalues .url (by decide), hvalues .user (by decide), hflags]
  cases verbose <;> cases config <;> cases url <;> cases user <;> rfl

/-- The command line of a command, behind whatever settings, is read as it was meant. -/
theorem parse_once (hconfig : o.config ≠ some "") {c : Command} (honce : c.isOnce = true)
    (hlocal : c.localFile? ≠ some "") :
    Arguments.parse (o.words ++ c.name :: commandWords c) = .ok (o.arguments (.once c)) := by
  have hname : (TaskForm.ofName? c.name).isSome = true := by
    cases c with
    | changeDirectory | workingDirectory | cut | paste | clear | login | logout | help | exit =>
      cases honce
    | _ => rfl
  rw [Arguments.parse, scan_words o hconfig, scan_name o.pending_scan hname,
    ofTask_once o.scan honce hlocal, ofScans_scan]
  · intro o ho
    rw [commandScan]
    cases c.output? with
    | none => rfl
    | some file => exact List.lookup_eq_none_iff.mpr (by simpa [Scan.gave, Scan.empty] using ho)
  · rw [commandScan]
    cases c.output? <;> rfl

theorem parse_shell (hconfig : o.config ≠ some "") :
    Arguments.parse (o.words ++ ["shell"]) = .ok (o.arguments .shell) := by
  rw [Arguments.parse, scan_words o hconfig, scan_name o.pending_scan rfl]
  exact congrArg _ (ofScans_scan o (fun _ _ => rfl) rfl _)

end Settings

end Program

end RemoteFiles
