import RemoteFiles.Proofs.Config.Reading
import RemoteFiles.Proofs.Program.Init

/-!
# The configuration that the program works with

The command line, the environment and the file of the configuration each give some settings
(`Arguments.given`, `Environment.given`, `FileGives`).  The program works with the settings that the
first of them gives, and with the standard ones where none of them does
(`effectiveConfig_eq_ok_iff`).

Everything that can go wrong with it goes wrong before the first request: nothing is sent if the
file cannot be read, if the configuration is not accepted, or if it is only to be written
(`effective_configuration`).
-/

namespace RemoteFiles

open Config (Field ofChoice ofFile)

/-! ### Where settings come from -/

/-- The settings that the environment gives: variables that are texts and not empty. -/
def Environment.given (env : Environment) : (f : Field) → Option f.Value
  | .url => env.nonEmpty? "FILESHELL_URL"
  | .username => env.nonEmpty? "FILESHELL_USER"
  | .level => env.nonEmpty? "FILESHELL_LOG_LEVEL"
  | .root | .timeout | .userAgent => none

/-- The settings that the command line gives. -/
def Program.Arguments.given (a : Program.Arguments) : (f : Field) → Option f.Value
  | .url => a.url
  | .username => a.user
  | .root | .timeout | .userAgent | .level => none

/-- The settings that the file of a configuration gives: none if it is not there, and else those of
the document in it, which has to be one that can be read. -/
inductive Config.FileGives (t : Disk.Tree) (path : Disk.Path) :
    ((f : Field) → Option f.Value) → Prop
  | absent (hfree : (t.find path).isOk = false) : FileGives t path fun _ => none
  | present {text : String} {entries : Toml.Entries} (htext : t.readText path = .ok text)
    (hread : Toml.read text = some entries) (htyped : Config.IsTyped entries) :
    FileGives t path fun f => f.given? entries

namespace Config

variable {t : Disk.Tree} {path : Disk.Path} {c : Config}

theorem isOk_find_of_readText {text : String} (h : t.readText path = .ok text) :
    (t.find path).isOk = true := by
  unfold Disk.Tree.readText Disk.Tree.read at h
  cases hfind : t.find path with
  | ok node => rfl
  | error fault =>
    rw [hfind] at h
    cases h

/-- The configuration in a file is that of the settings that the file gives. -/
theorem ofFile_eq_ok_iff :
    ofFile t path = .ok c ↔ ∃ given, FileGives t path given ∧ c = ofChoice given := by
  constructor
  · intro h
    unfold ofFile at h
    split at h
    · split at h
      · cases h
      · rename_i text htext
        cases hread : ofToml text with
        | error fault =>
          rw [hread] at h
          cases h
        | ok c =>
          rw [hread] at h
          cases h
          obtain ⟨entries, hentries, htyped, rfl⟩ := ofToml_eq_ok_iff.mp hread
          exact ⟨_, .present htext hentries htyped, rfl⟩
    · rename_i hfree
      cases h
      exact ⟨_, .absent (Bool.not_eq_true _ ▸ hfree), rfl⟩
  · rintro ⟨given, hgiven, rfl⟩
    unfold ofFile
    cases hgiven with
    | absent hfree =>
      rw [if_neg (by simp [hfree])]
      rfl
    | present htext hread htyped =>
      rw [if_pos (isOk_find_of_readText htext), htext]
      dsimp only
      rw [ofToml_eq_ok_iff.mpr ⟨_, hread, htyped, rfl⟩]
      rfl

end Config

namespace Program

open Config (FileGives IsSaved save load)

variable {σ : Type} {w : Machine (StateM σ)} {a : Arguments} {c : Config} {s s' : World σ}

/-! ### The first source counts -/

theorem some_getD {α : Type} (o : Option α) (d : α) : some (o.getD d) = o.or (some d) := by
  cases o <;> rfl

theorem get_environment (c : Config) (env : Environment) (f : Field) :
    f.get (c.override env) = (env.given f).or (f.get c) := by
  cases f
  case url => exact some_getD _ _
  case level => exact some_getD _ _
  all_goals rfl

theorem get_arguments (c : Config) (a : Arguments) (f : Field) :
    f.get (a.override c) = (a.given f).or (f.get c) := by
  cases f
  case url => exact some_getD _ _
  all_goals rfl

/-- The settings of the command line, the environment and a file, whichever gives one first. -/
def layered (a : Arguments) (env : Environment) (given : (f : Field) → Option f.Value) (f : Field) :
    Option f.Value :=
  (a.given f).or ((env.given f).or (given f))

theorem override_ofChoice (a : Arguments) (env : Environment)
    (given : (f : Field) → Option f.Value) :
    a.override ((ofChoice given).override env) = ofChoice (layered a env given) := by
  refine Field.eq_of_get fun f => ?_
  rw [get_arguments, get_environment, Config.get_ofChoice, Config.get_ofChoice, layered,
    Option.or_assoc, Option.or_assoc]

/-- What the program works with, which is found out without changing anything. -/
theorem effectiveConfig_apply (w : Machine (StateM σ)) (a : Arguments) (s : World σ) :
    effectiveConfig w.inWorld a s =
      ((ofFile s.files (a.configPath w.environment)).map fun c =>
        a.override (c.override w.environment), s) := by
  rw [effectiveConfig, bind_apply]
  have hload : load w.inWorld.disk (a.configPath w.inWorld.environment) s =
      (ofFile s.files (a.configPath w.environment), s) := load_of_files _ s
  rw [hload]
  dsimp only
  cases ofFile s.files (a.configPath w.environment) <;> rfl

theorem effectiveConfig_eq_ok_iff :
    effectiveConfig w.inWorld a s = (.ok c, s) ↔
      ∃ given, FileGives s.files (a.configPath w.environment) given ∧
        c = ofChoice (layered a w.environment given) := by
  rw [effectiveConfig_apply, Prod.mk.injEq, and_iff_left rfl]
  constructor
  · intro h
    cases hfile : ofFile s.files (a.configPath w.environment) with
    | error fault =>
      rw [hfile] at h
      cases h
    | ok c =>
      rw [hfile] at h
      cases h
      obtain ⟨given, hgiven, rfl⟩ := Config.ofFile_eq_ok_iff.mp hfile
      exact ⟨given, hgiven, override_ofChoice _ _ _⟩
  · rintro ⟨given, hgiven, rfl⟩
    rw [Config.ofFile_eq_ok_iff.mpr ⟨given, hgiven, rfl⟩, ← override_ofChoice]
    rfl

/-! ### How the program ends before it asks anything -/

theorem start_of_fault {fault : ConfigFileFault}
    (h : effectiveConfig w.inWorld a s = (.error fault, s)) :
    start w.inWorld a s = (.error fault.report, s) := by
  rw [start, bind_apply, h]
  rfl

theorem start_of_invalid {e : ConfigError} (h : effectiveConfig w.inWorld a s = (.ok c, s))
    (hinvalid : c.validate = .error e) :
    start w.inWorld a s = (.error (.plain e.message), s) := by
  rw [start, bind_apply, h]
  dsimp only
  rw [hinvalid]
  rfl

theorem start_of_init {force : Bool} (h : effectiveConfig w.inWorld a s = (.ok c, s))
    (hvalid : c.validate = .ok ()) (htask : a.task = .init force) :
    start w.inWorld a s =
      ((writeConfig w.inWorld c (a.configPath w.environment) force s).1.map fun _ => .finished,
        (writeConfig w.inWorld c (a.configPath w.environment) force s).2) := by
  rw [start, bind_apply, h]
  dsimp only
  rw [hvalid, htask]
  rfl

/-- Every other task is carried out with the configuration. -/
theorem start_of_valid (h : effectiveConfig w.inWorld a s = (.ok c, s))
    (hvalid : c.validate = .ok ()) (htask : ∀ force, a.task ≠ .init force) :
    start w.inWorld a s = startTask w.inWorld c a.task s := by
  rw [start, bind_apply, h]
  dsimp only
  rw [hvalid]
  dsimp only
  cases hform : a.task with
  | init force => exact absurd hform (htask force)
  | once command => rfl
  | shell => rfl

/-- The program ends with what starting it came to, if there is nothing left to do. -/
theorem run_of_start {words : List String} {input : ByteArray}
    {result : Except Report Unit} (hparse : Arguments.parse words = .ok a)
    (hstart : start w.inWorld a s = (result.map fun _ => .finished, s')) :
    ∃ s₁, run w.inWorld words input s = (if result.isOk then 0 else 1, s₁) ∧
      s₁.files = s'.files ∧ s₁.sent = s'.sent := by
  have hperform : perform w.inWorld a (Shell.linesOf input) s = (result, s') := by
    rw [perform, bind_apply, hstart]
    cases result <;> rfl
  have hrun : run w.inWorld words input s = conclude w.inWorld result s' := by
    rw [run, hparse]
    dsimp only
    rw [bind_apply, hperform]
  rw [hrun]
  cases result with
  | error report => exact ⟨_, rfl, rfl, rfl⟩
  | ok => exact ⟨_, rfl, rfl, rfl⟩

theorem sent_writeConfig (c : Config) (path : Disk.Path) (force : Bool) (s : World σ) :
    (writeConfig w.inWorld c path force s).2.sent = s.sent := by
  by_cases hgo : force = true ∨ (s.files.find path).isOk = false
  · rw [writeConfig_of_save hgo]
    have hsent : (save c w.inWorld.disk path s).2.sent = s.sent := by
      rw [Config.save_inWorld]
      rfl
    rcases hsave : save c w.inWorld.disk path s with ⟨fault | _, s'⟩
    all_goals
      rw [hsave] at hsent
      exact hsent
  · rw [not_or, Bool.not_eq_true, Bool.not_eq_false] at hgo
    rw [hgo.1, writeConfig_of_there hgo.2]

/-- An error that is found before anything is asked ends the program. -/
theorem run_of_error {words : List String} {input : ByteArray} {report : Report}
    (hparse : Arguments.parse words = .ok a) (hstart : start w.inWorld a s = (.error report, s)) :
    ∃ s', run w.inWorld words input s = (1, s') ∧ s'.sent = s.sent ∧ s'.files = s.files := by
  have hended : start w.inWorld a s =
      ((.error report : Except Report Unit).map fun _ => .finished, s) := hstart
  obtain ⟨s', hrun, hfiles, hsent⟩ := run_of_start hparse hended
  exact ⟨s', hrun, hsent, hfiles⟩

/-- To write the configuration, nothing is sent.  If the program says that it was written, the file
holds it, and else no file was touched. -/
theorem run_of_init {words : List String} {input : ByteArray} {force : Bool}
    (hparse : Arguments.parse words = .ok a) (h : effectiveConfig w.inWorld a s = (.ok c, s))
    (hvalid : c.validate = .ok ()) (htask : a.task = .init force) :
    ∃ code s', run w.inWorld words input s = (code, s') ∧ s'.sent = s.sent ∧
      (code = 0 → IsSaved c (a.configPath w.environment) s.files s'.files) ∧
      (code ≠ 0 → ∀ place, s'.files.file? place = s.files.file? place) := by
  obtain ⟨s', hrun, hfiles, hsent⟩ := run_of_start hparse (start_of_init h hvalid htask)
  rw [sent_writeConfig] at hsent
  refine ⟨_, s', hrun, hsent, ?_⟩
  rw [hfiles]
  set path := a.configPath w.environment
  by_cases hgo : force = true ∨ (s.files.find path).isOk = false
  · rw [(writeConfig_outcome hgo).1, (writeConfig_outcome hgo).2]
    have hsave : save c w.inWorld.disk path s = World.onFiles (save c Disk.Tree.disk path) s := by
      rw [Config.save_inWorld]
    rcases htree : save c Disk.Tree.disk path s.files with ⟨fault | _, t'⟩
    all_goals rw [hsave, World.onFiles, htree]
    · exact ⟨fun hcode => absurd hcode Nat.one_ne_zero,
        fun _ place => Config.file?_of_save_error htree place⟩
    · exact ⟨fun _ => Config.isSaved_of_save htree, fun hcode => absurd rfl hcode⟩
  · rw [not_or, Bool.not_eq_true, Bool.not_eq_false] at hgo
    rw [hgo.1, writeConfig_of_there hgo.2]
    exact ⟨fun hcode => absurd hcode Nat.one_ne_zero, fun _ _ => rfl⟩

/-- **The effective configuration**: of the command line, the environment and the file the first one
that gives a setting counts, and the standard setting where none does.  Nothing is sent if the file
cannot be read as a configuration, if the effective one is not accepted, or if it is only to be
written, and then just that one is; every other task is started with it. -/
theorem effective_configuration (w : Machine (StateM σ)) {words : List String} {a : Arguments}
    (hparse : Arguments.parse words = .ok a) (input : ByteArray) (s : World σ) :
    (∀ given, FileGives s.files (a.configPath w.environment) given →
      ∃ c, effectiveConfig w.inWorld a s = (.ok c, s) ∧
        (∀ f : Field, f.get c =
          ((a.given f).or ((w.environment.given f).or (given f))).or (f.get .standard)) ∧
        (∀ e, c.validate = .error e →
          ∃ s', run w.inWorld words input s = (1, s') ∧ s'.sent = s.sent ∧ s'.files = s.files) ∧
        (c.validate = .ok () → ∀ force, a.task = .init force →
          ∃ code s', run w.inWorld words input s = (code, s') ∧ s'.sent = s.sent ∧
            (code = 0 → IsSaved c (a.configPath w.environment) s.files s'.files ∧
              load w.inWorld.disk (a.configPath w.environment) s' = (.ok c, s')) ∧
            (code ≠ 0 → ∀ place, s'.files.file? place = s.files.file? place)) ∧
        (c.validate = .ok () → (∀ force, a.task ≠ .init force) →
          start w.inWorld a s = startTask w.inWorld c a.task s)) ∧
    ((∀ given, ¬FileGives s.files (a.configPath w.environment) given) →
      ∃ fault s', effectiveConfig w.inWorld a s = (.error fault, s) ∧
        run w.inWorld words input s = (1, s') ∧ s'.sent = s.sent ∧ s'.files = s.files) := by
  constructor
  · intro given hgiven
    have h := effectiveConfig_eq_ok_iff.mpr ⟨given, hgiven, rfl⟩
    refine ⟨_, h, fun f => Config.get_ofChoice _ f, fun e hinvalid => ?_,
      fun hvalid force htask => ?_, start_of_valid h⟩
    · exact run_of_error hparse (start_of_invalid h hinvalid)
    · obtain ⟨code, s', hrun, hsent, hsaved, hkept⟩ := run_of_init hparse h hvalid htask
      refine ⟨code, s', hrun, hsent, fun hcode => ⟨hsaved hcode, ?_⟩, hkept⟩
      rw [load_of_files, (hsaved hcode).ofFile]
  · intro hnone
    cases hfile : ofFile s.files (a.configPath w.environment) with
    | ok c =>
      obtain ⟨given, hgiven, -⟩ := Config.ofFile_eq_ok_iff.mp hfile
      exact absurd hgiven (hnone given)
    | error fault =>
      have h : effectiveConfig w.inWorld a s = (.error fault, s) := by
        rw [effectiveConfig_apply, hfile]
        rfl
      obtain ⟨s', hrun, hsent, hfiles⟩ := run_of_error hparse (start_of_fault h)
      exact ⟨fault, s', h, hrun, hsent, hfiles⟩

/-- A machine with a user and an empty URL in its environment. -/
def userMachine : Machine (StateM Unit) :=
  { bareMachine with
    environment := ⟨[("FILESHELL_URL", .empty), ("FILESHELL_USER", "me".toUTF8)]⟩ }

/-- The user of the environment is taken with the URL of the command line, and nothing is sent to a
URL that is none of the web. -/
theorem effective_configuration_of_user :
    ∃ c s', effectiveConfig userMachine.inWorld ⟨none, false, some "ftp://[::1]/", none, .shell⟩
        ⟨⟨[], []⟩, [], ()⟩ = (.ok c, ⟨⟨[], []⟩, [], ()⟩) ∧
      c.url = "ftp://[::1]/" ∧ c.username = some "me" ∧ c.level = "info" ∧
      run userMachine.inWorld ["--url", "ftp://[::1]/", "shell"] .empty ⟨⟨[], []⟩, [], ()⟩ =
        (1, s') ∧ s'.sent = [] := by
  have hparse : Arguments.parse ["--url", "ftp://[::1]/", "shell"] =
      .ok ⟨none, false, some "ftp://[::1]/", none, .shell⟩ := by decide
  have hfree : ((⟨[], []⟩ : Disk.Tree).find (Config.standardPath userMachine.environment)).isOk =
      false := by decide
  obtain ⟨c, hconfig, hfields, hinvalid, -⟩ :=
    (effective_configuration userMachine hparse .empty ⟨⟨[], []⟩, [], ()⟩).1 _ (.absent hfree)
  have hurl : c.url = "ftp://[::1]/" := Option.some_inj.mp (hfields .url)
  have huser : c.username = some "me" := (hfields .username).trans (by decide)
  have hlevel : c.level = "info" := Option.some_inj.mp ((hfields .level).trans (by decide))
  have herror : c.validate = .error (.invalidUrl c.url) := by
    have hweb : Config.isWebUrl c.url = false := by
      rw [hurl]
      rfl
    rw [Config.validate, hweb]
    rfl
  obtain ⟨s', hrun, hsent, -⟩ := hinvalid _ herror
  exact ⟨c, s', hconfig, hurl, huser, hlevel, hrun, hsent⟩

end Program

end RemoteFiles
