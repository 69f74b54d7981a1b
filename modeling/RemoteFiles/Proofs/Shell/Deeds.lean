import RemoteFiles.Proofs.Client.Course
import RemoteFiles.Proofs.Program.World
import RemoteFiles.Proofs.Shell.Lines
import RemoteFiles.Proofs.Shell.Parallel

/-!
# What a shell does

Of the lines of an input the shell carries out those that hold a command, one after another, up to
the first one that leaves it (`script`).  A line that is no text ends it as well, with an error, so
the lines behind that are not even read (`reading`).

`CarriesOut` says what may happen besides: between two commands the shell writes on the terminal,
and nothing else (`Shows`).  Every command begins with the client that the one before it has left,
whether that one failed or not, and whatever passes between the client and its surroundings belongs
to one of the commands (`Performs`).  `shell_performs_script` is the induction over the lines, with
one lemma for each kind of line.
-/

namespace RemoteFiles.Shell

variable {σ : Type}

/-! ### What lines ask for -/

/-- The command that a line holds: a blank line and a comment hold none, nor does a line that cannot
be read. -/
def Command.ofText? (line : String) : Option Command := (Command.ofLine? line).toOption.join

/-- The texts of lines up to the first one that is none, and how reading them ends. -/
def reading : List ByteArray → List String × Except Report Unit
  | [] => ([], .ok ())
  | line :: lines =>
    match lineText line with
    | .ok text => (text :: (reading lines).1, (reading lines).2)
    | .error fault => ([], .error (.plain fault.message))

/-- The commands of lines up to the first one that leaves the shell. -/
def script (texts : List String) : List Command :=
  (texts.filterMap Command.ofText?).takeWhile (· ≠ .exit)

/-- How the shell ends: well if it is left or there are no more lines. -/
def ending (lines : List ByteArray) : Except Report Unit :=
  if .exit ∈ (reading lines).1.filterMap Command.ofText? then .ok () else (reading lines).2

section

variable {line : ByteArray} (lines : List ByteArray) {text : String}

theorem reading_of_text (h : lineText line = .ok text) :
    reading (line :: lines) = (text :: (reading lines).1, (reading lines).2) := by
  rw [reading, h]

theorem reading_of_fault {fault : Text.Glyph.Fault} (h : lineText line = .error fault) :
    reading (line :: lines) = ([], .error (.plain fault.message)) := by
  rw [reading, h]

theorem ending_of_none (h : lineText line = .ok text) (hnone : Command.ofText? text = none) :
    ending (line :: lines) = ending lines := by
  rw [ending, ending, reading_of_text lines h, List.filterMap_cons_none hnone]

theorem ending_of_exit (h : lineText line = .ok text)
    (hexit : Command.ofText? text = some .exit) : ending (line :: lines) = .ok () := by
  rw [ending, reading_of_text lines h, List.filterMap_cons_some hexit, if_pos List.mem_cons_self]

theorem ending_of_command (h : lineText line = .ok text) {c : Command}
    (hc : Command.ofText? text = some c) (hne : c ≠ .exit) :
    ending (line :: lines) = ending lines := by
  simp only [ending, reading_of_text lines h, List.filterMap_cons_some hc, List.mem_cons,
    Ne.symm hne, false_or]

end

theorem script_of_none {text : String} (h : Command.ofText? text = none) (texts : List String) :
    script (text :: texts) = script texts := by
  rw [script, script, List.filterMap_cons_none h]

theorem script_of_exit {text : String} (h : Command.ofText? text = some .exit)
    (texts : List String) : script (text :: texts) = [] := by
  rw [script, List.filterMap_cons_some h]
  rfl

theorem script_of_command {text : String} {c : Command} (h : Command.ofText? text = some c)
    (hne : c ≠ .exit) (texts : List String) : script (text :: texts) = c :: script texts := by
  rw [script, script, List.filterMap_cons_some h,
    List.takeWhile_cons_of_pos (p := fun c : Command => decide (c ≠ .exit)) (decide_eq_true hne)]

/-- Texts in which no line ends are all read. -/
theorem reading_linesOf_inputOf {texts : List String} (h : ∀ text ∈ texts, IsLine text) :
    reading (linesOf (inputOf texts)) = (texts, .ok ()) := by
  rw [linesOf_inputOf fun text htext => (h text htext).unbroken]
  induction texts with
  | nil => rfl
  | cons text texts ih =>
    obtain ⟨htext, htexts⟩ := List.forall_mem_cons.mp h
    rw [List.map_cons, reading_of_text _ (lineText_of_isLine htext), ih htexts]

/-! ### What the shell shows -/

/-- From the one surroundings to the others nothing happens but that something is written on the
terminal. -/
inductive Shows (w : Machine (StateM σ)) : σ → σ → Prop
  | nothing (s : σ) : Shows w s s
  | wrote {s t : σ} (data : ByteArray) (rest : Shows w (w.terminal.write data s).2 t) :
      Shows w s t
  | complained {s t : σ} (line : String) (rest : Shows w (w.terminal.complain line s).2 t) :
      Shows w s t

theorem Shows.trans {w : Machine (StateM σ)} {s t u : σ} (h : Shows w s t) (h' : Shows w t u) :
    Shows w s u := by
  induction h with
  | nothing => exact h'
  | wrote data _ ih => exact .wrote data (ih h')
  | complained line _ ih => exact .complained line (ih h')

/-- Nothing of it is written down. -/
theorem Shows.of_recorded {w : Machine (StateM σ)} {s t : Recorded σ}
    (h : Shows w.recorded s t) : Shows w s.around t.around ∧ t.log = s.log := by
  induction h with
  | nothing => exact ⟨.nothing _, rfl⟩
  | wrote data _ ih => exact ⟨.wrote data ih.1, ih.2⟩
  | complained line _ ih => exact ⟨.complained line ih.1, ih.2⟩

/-! ### One line -/

section

variable (w : Machine (StateM σ)) (h : Host (StateM σ)) (user : Option String) (c : Client) (s : σ)

theorem prompt_shows : ∃ t, Shows w s t ∧ prompt w c s = (((), c), t) :=
  ⟨_, .wrote _ (.nothing _), rfl⟩

/-- A line without a command leaves the client as it is. -/
theorem runLine_of_none {line : String} (hnone : Command.ofText? line = none) :
    ∃ t, Shows w s t ∧ runLine w h user line c s = ((true, c), t) := by
  unfold runLine
  match hline : Command.ofLine? line with
  | .error e => exact ⟨_, .complained e.message (.nothing _), rfl⟩
  | .ok none => exact ⟨s, .nothing s, rfl⟩
  | .ok (some command) =>
    rw [Command.ofText?, hline] at hnone
    exact absurd hnone (Option.some_ne_none command)

theorem ofLine?_of_ofText? {line : String} {command : Command}
    (hline : Command.ofText? line = some command) :
    Command.ofLine? line = .ok (some command) := by
  rw [Command.ofText?] at hline
  match hresult : Command.ofLine? line with
  | .error e => rw [hresult] at hline; exact absurd hline.symm (Option.some_ne_none command)
  | .ok result => rw [hresult] at hline; exact congrArg Except.ok hline

theorem ofText?_of_words {line : String} {command : Command}
    (hwords : words line = some (command.name :: command.arguments)) :
    Command.ofText? line = some command := by
  rw [Command.ofText?, ofLine?_of_words hwords, Command.ofWords?_words]
  rfl

theorem runLine_of_exit {line : String} (hexit : Command.ofText? line = some .exit) :
    runLine w h user line c s = ((false, c), s) := by
  rw [runLine, ofLine?_of_ofText? hexit]
  rfl

/-- The shell goes on behind a command, also if that failed. -/
theorem runLine_eq_of_command {line : String} {command : Command}
    (hline : Command.ofText? line = some command) (hne : command ≠ .exit) :
    runLine w h user line = (do
      match ← execute w h user command with
      | .ok () => pure true
      | .error report =>
        w.terminal.complain ("error: " ++ report.oneLine)
        pure true) := by
  rw [runLine, ofLine?_of_ofText? hline]
  cases command with
  | exit => exact absurd rfl hne
  | _ => rfl

theorem runLine_of_command {line : String} {command : Command}
    (hline : Command.ofText? line = some command) (hne : command ≠ .exit) :
    ∃ t, Shows w (execute w h user command c s).2 t ∧
      runLine w h user line c s = ((true, (execute w h user command c s).1.2), t) := by
  rw [runLine_eq_of_command w h user hline hne]
  simp only [bind, StateT.bind]
  rcases execute w h user command c s with ⟨⟨report | _, c'⟩, s'⟩
  · exact ⟨_, .complained _ (.nothing _), rfl⟩
  · exact ⟨s', .nothing s', rfl⟩

/-! What the shell does with the first line of an input: the lines behind it follow, unless it
ends there. -/

theorem runLines_nil :
    ∃ t, Shows w s t ∧ runLines w h user [] c s = ((.ok (), c), t) :=
  ⟨_, .wrote _ (.wrote _ (.nothing _)), rfl⟩

variable {line : ByteArray} (lines : List ByteArray) {text : String}

theorem runLines_of_fault (hline : line.isEmpty = false) {fault : Text.Glyph.Fault}
    (hfault : lineText line = .error fault) :
    ∃ t, Shows w s t ∧
      runLines w h user (line :: lines) c s = ((.error (.plain fault.message), c), t) := by
  obtain ⟨t, hshows, hprompt⟩ := prompt_shows w c s
  refine ⟨t, hshows, ?_⟩
  simp only [runLines, runNext, hline, hfault, bind, StateT.bind, hprompt]
  rfl

theorem runLines_of_text (hline : line.isEmpty = false) (htext : lineText line = .ok text) :
    ∃ s', Shows w s s' ∧ runLines w h user (line :: lines) c s =
      match runLine w h user text c s' with
      | ((true, c'), t) => runLines w h user lines c' t
      | ((false, c'), t) => ((.ok (), c'), t) := by
  obtain ⟨s', hshows, hprompt⟩ := prompt_shows w c s
  refine ⟨s', hshows, ?_⟩
  simp only [runLines, runNext, hline, htext, bind, StateT.bind, hprompt, Bool.false_eq_true,
    ↓reduceIte]
  rcases runLine w h user text c s' with ⟨⟨_ | _, c'⟩, t⟩ <;> rfl

end

/-! ### Deeds -/

/-- A command that was carried out. -/
structure Deed where
  command : Command
  before : Client
  log : List Interaction
  result : Except Report Unit
  after : Client

section

variable (w : Machine (StateM σ)) (h : Host (StateM σ)) (user : Option String)

/-- Carries out a command on the recorded machine and host. -/
def deed (c : Command) (x : Scene σ) : Deed × Scene σ :=
  let out := execute w.recorded h.recorded user c x.client ⟨x.around, []⟩
  (⟨c, x.client, out.2.log, out.1.1, out.1.2⟩, ⟨out.1.2, out.2.around⟩)

/-- Whatever was written down before, a command does the same. -/
theorem execute_eq_deed (c : Command) (x : Scene σ) (past : List Interaction) :
    execute w.recorded h.recorded user c x.client ⟨x.around, past⟩ =
      (((deed w h user c x).1.result, (deed w h user c x).2.client),
        ⟨(deed w h user c x).2.around, past ++ (deed w h user c x).1.log⟩) := by
  have hagrees := agrees_execute (w.recorded_agrees_behind past) (h.recorded_agrees_behind past)
    user c (fun _ _ => w.recorded_password_agrees_behind past)
  obtain ⟨hresult, haround, hlog⟩ := hagrees x.client ⟨x.around, []⟩ ⟨x.around, past⟩
    ⟨rfl, (List.append_nil past).symm⟩
  exact Prod.ext hresult.symm (congrArg₂ Recorded.mk haround hlog)

/-- Between the scenes these deeds were done, and besides them something was shown. -/
inductive CarriesOut : Scene σ → List Deed → Scene σ → Prop
  | done {x : Scene σ} {s : σ} (shows : Shows w x.around s) : CarriesOut x [] { x with around := s }
  | next {x y : Scene σ} {s : σ} {c : Command} {deeds : List Deed}
      (shows : Shows w x.around s)
      (rest : CarriesOut (deed w h user c { x with around := s }).2 deeds y) :
      CarriesOut x ((deed w h user c { x with around := s }).1 :: deeds) y

variable {w h user}

theorem CarriesOut.after_shows {x y : Scene σ} {s : σ} {deeds : List Deed}
    (hshows : Shows w x.around s) (hdeeds : CarriesOut w h user { x with around := s } deeds y) :
    CarriesOut w h user x deeds y := by
  cases hdeeds with
  | done shows => exact .done (hshows.trans shows)
  | next shows rest => exact .next (hshows.trans shows) rest

/-- The first of the deeds is what its command does when something was shown. -/
theorem CarriesOut.head {x y : Scene σ} {d : Deed} {deeds : List Deed}
    (hdeeds : CarriesOut w h user x (d :: deeds) y) :
    ∃ s, Shows w x.around s ∧ d = (deed w h user d.command { x with around := s }).1 := by
  cases hdeeds with
  | next shows rest => exact ⟨_, shows, rfl⟩

variable (w h user)

/-- From the one scene to the other just these commands are carried out, in this order: nothing
happens between them but that something is shown, and all that is written down belongs to one of
them. -/
def Performs (x : Scene (Recorded σ)) (commands : List Command) (y : Scene (Recorded σ)) : Prop :=
  ∃ deeds : List Deed, deeds.map Deed.command = commands ∧
    CarriesOut w h user ⟨x.client, x.around.around⟩ deeds ⟨y.client, y.around.around⟩ ∧
    y.around.log = x.around.log ++ deeds.flatMap Deed.log

namespace Performs

variable {w h user} {x y : Scene (Recorded σ)} {t : Recorded σ} {commands : List Command}

theorem nothing (hshows : Shows w.recorded x.around t) : Performs w h user x [] ⟨x.client, t⟩ := by
  obtain ⟨hshown, hlog⟩ := hshows.of_recorded
  exact ⟨[], rfl, .done hshown, hlog.trans (List.append_nil _).symm⟩

theorem after_shows (hshows : Shows w.recorded x.around t)
    (hrest : Performs w h user ⟨x.client, t⟩ commands y) : Performs w h user x commands y := by
  obtain ⟨hshown, hlog⟩ := hshows.of_recorded
  obtain ⟨deeds, hcommands, hdeeds, hrest⟩ := hrest
  exact ⟨deeds, hcommands, .after_shows hshown hdeeds, hlog ▸ hrest⟩

theorem cons (c : Command)
    (hrest : Performs w h user
      ⟨(execute w.recorded h.recorded user c x.client x.around).1.2,
        (execute w.recorded h.recorded user c x.client x.around).2⟩ commands y) :
    Performs w h user x (c :: commands) y := by
  obtain ⟨client, around, past⟩ := x
  -- what was written down before the command is no part of its deed
  have hdeed := execute_eq_deed w h user c ⟨client, around⟩ past
  dsimp only at hdeed hrest
  rw [hdeed] at hrest
  obtain ⟨deeds, hcommands, hdeeds, hlog⟩ := hrest
  refine ⟨(deed w h user c ⟨client, around⟩).1 :: deeds, ?_, .next (.nothing around) hdeeds, ?_⟩
  · rw [List.map_cons, hcommands]
    rfl
  · rw [hlog, List.flatMap_cons, List.append_assoc]

end Performs

/-! ### All lines -/

/-- By induction on the lines: whatever the first of them holds, the rest is read with the client
that is then there, or not at all. -/
theorem runLines_performs {lines : List ByteArray}
    (hlines : ∀ line ∈ lines, line.isEmpty = false) (x : Scene (Recorded σ)) :
    ∃ y, Performs w h user x (script (reading lines).1) y ∧
      runLines w.recorded h.recorded user lines x.client x.around =
        ((ending lines, y.client), y.around) := by
  induction lines generalizing x with
  | nil =>
    obtain ⟨t, hshows, hrun⟩ := runLines_nil w.recorded h.recorded user x.client x.around
    exact ⟨_, .nothing hshows, hrun⟩
  | cons line lines ih =>
    obtain ⟨hline, hlines⟩ := List.forall_mem_cons.mp hlines
    match htext : lineText line with
    | .error fault =>
      -- no text: what comes behind is not read
      obtain ⟨t, hshows, hrun⟩ :=
        runLines_of_fault w.recorded h.recorded user x.client x.around lines hline htext
      refine ⟨⟨x.client, t⟩, ?_, ?_⟩
      · rw [reading_of_fault lines htext]
        exact .nothing hshows
      · rw [hrun, ending, reading_of_fault lines htext]
        rfl
    | .ok text =>
      obtain ⟨s, hshows, hrun⟩ :=
        runLines_of_text w.recorded h.recorded user x.client x.around lines hline htext
      rw [hrun, reading_of_text lines htext]
      match hcommand : Command.ofText? text with
      | none =>
        -- a blank line, a comment, or a line that cannot be read
        obtain ⟨t, hshows', hrun'⟩ :=
          runLine_of_none w.recorded h.recorded user x.client s hcommand
        obtain ⟨y, hperforms, hy⟩ := ih hlines ⟨x.client, t⟩
        rw [hrun', script_of_none hcommand, ending_of_none lines htext hcommand]
        exact ⟨y, .after_shows (hshows.trans hshows') hperforms, hy⟩
      | some command =>
        by_cases hexit : command = .exit
        · subst hexit
          rw [runLine_of_exit w.recorded h.recorded user x.client s hcommand,
            script_of_exit hcommand, ending_of_exit lines htext hcommand]
          exact ⟨_, .nothing hshows, rfl⟩
        · obtain ⟨t, hshows', hrun'⟩ :=
            runLine_of_command w.recorded h.recorded user x.client s hcommand hexit
          -- the rest begins with the client that the command has left, failed or not
          obtain ⟨y, hperforms, hy⟩ := ih hlines ⟨_, t⟩
          have hbehind := Performs.cons (x := ⟨x.client, s⟩) command (.after_shows hshows' hperforms)
          rw [hrun', script_of_command hcommand hexit, ending_of_command lines htext hcommand hexit]
          exact ⟨y, .after_shows hshows hbehind, hy⟩

/-- **What a shell does**: of any input it carries out just the commands of the lines that hold one,
in their order, up to the first that leaves it, or to a line that is no text.  Each of them begins
with the client that the one before has left, even if that failed; all that passes between the
client and its surroundings is part of one of them; and a line that holds no command leaves the
client alone and does nothing but show something.  Of texts no line is left out. -/
theorem shell_performs_script :
    (∀ (input : ByteArray) (x : Scene σ),
      ∃ y, Performs w h user ⟨x.client, ⟨x.around, []⟩⟩ (script (reading (linesOf input)).1) y ∧
        runLines w.recorded h.recorded user (linesOf input) x.client ⟨x.around, []⟩ =
          ((ending (linesOf input), y.client), y.around) ∧
        runLines w h user (linesOf input) x.client x.around =
          ((ending (linesOf input), y.client), y.around.around)) ∧
    (∀ line, Command.ofText? line = none → ∀ c s,
      ∃ t, Shows w s t ∧ runLine w h user line c s = ((true, c), t)) ∧
    ∀ texts : List String, (∀ text ∈ texts, IsLine text) →
      reading (linesOf (inputOf texts)) = (texts, .ok ()) := by
  refine ⟨fun input x => ?_, fun line hline c s => runLine_of_none w h user c s hline,
    fun texts => reading_linesOf_inputOf⟩
  obtain ⟨y, hperforms, hrun⟩ := runLines_performs w h user
    (fun line hline => isEmpty_of_mem_linesOf hline) ⟨x.client, ⟨x.around, []⟩⟩
  have hagrees := agrees_runLines w.agrees_recorded h.agrees_recorded
    (fun user => w.agrees_recorded_password user) user (linesOf input)
  obtain ⟨hresult, haround⟩ := hagrees x.client x.around ⟨x.around, []⟩ rfl
  refine ⟨y, hperforms, hrun, ?_⟩
  dsimp only at hrun
  rw [hrun] at hresult haround
  exact Prod.ext hresult haround.symm

end

/-- A comment, a command that fails, one that is not read, another command, and what comes behind
the line that leaves the shell. -/
theorem shell_performs_script_of_exit :
    let texts := ["# a", "rm ..", "rm", "mkdir x", "quit", "ls"]
    let host := Host.constant (.error (.transport 0 "")) (.ok none)
    let x : Scene Unit := ⟨Client.startingIn "/", ()⟩
    ((∀ text ∈ texts, IsLine text) ∧ Command.ofText? "# a" = none) ∧
    reading (linesOf (inputOf texts)) = (texts, .ok ()) ∧
    (∃ t, Shows bareMachine () t ∧
      runLine bareMachine host none "# a" x.client () = ((true, x.client), t)) ∧
    ∃ y, Performs bareMachine host none ⟨x.client, ⟨(), []⟩⟩
        [.remove "..", .makeDirectory (some "x")] y ∧
      runLines bareMachine host none (linesOf (inputOf texts)) x.client () =
        ((.ok (), y.client), y.around.around) := by
  intro texts host x
  obtain ⟨hperforms, hline, htexts⟩ := shell_performs_script bareMachine host none
  have hisLine : ∀ text ∈ texts, IsLine text := by
    have hall : ∀ text ∈ texts, '\n' ∉ text.toList ∧ text.toList.getLast? ≠ some '\r' := by decide
    exact fun text htext => ⟨(hall text htext).1, (hall text htext).2⟩
  have hnone : Command.ofText? "# a" = none := by decide
  have hreading := htexts texts hisLine
  refine ⟨⟨hisLine, hnone⟩, hreading, hline _ hnone _ _, ?_⟩
  obtain ⟨y, hy, -, hrun⟩ := hperforms (inputOf texts) x
  have hscript : script texts = [.remove "..", .makeDirectory (some "x")] := by decide
  have hending : ending (linesOf (inputOf texts)) = .ok () := by
    rw [ending, hreading]
    decide
  rw [hreading, hscript] at hy
  rw [hending] at hrun
  exact ⟨y, hy, hrun⟩

/-- Not all lines that hold a command are carried out: behind a line that is no text, none is. -/
theorem shell_performs_script_not :
    let lines := linesOf (⟨#[0xff, 0x0a]⟩ ++ "cd x\n".toUTF8)
    let host := Host.constant (.ok .empty) (.ok none)
    let x : Scene (Recorded Unit) := ⟨Client.startingIn "/", ⟨(), []⟩⟩
    lines.filterMap (fun line => (lineText line).toOption.bind Command.ofText?) =
      [.changeDirectory (some "x")] ∧
    ¬∃ result y, Performs bareMachine host none x [.changeDirectory (some "x")] y ∧
      runLines bareMachine.recorded host.recorded none lines x.client x.around =
        ((result, y.client), y.around) := by
  intro lines host x
  have hlines : lines = [⟨#[0xff, 0x0a]⟩, "cd x\n".toUTF8] := by decide +kernel
  refine ⟨by rw [hlines]; rfl, ?_⟩
  rintro ⟨result, y, ⟨deeds, hcommands, hdeeds, hlog⟩, hrun⟩
  obtain ⟨fault, hfault⟩ : ∃ fault, lineText ⟨#[0xff, 0x0a]⟩ = .error fault := ⟨_, rfl⟩
  obtain ⟨t, hshows, hends⟩ := runLines_of_fault bareMachine.recorded host.recorded none x.client
    x.around ["cd x\n".toUTF8] rfl hfault
  -- the shell does nothing that would be written down, as it would be of the command
  have hnothing : y.around.log = [] := by
    rw [hlines, hends] at hrun
    obtain rfl : t = y.around := (Prod.mk.inj hrun).2
    exact hshows.of_recorded.2
  have hdeed : ∀ s, (deed bareMachine host none (.changeDirectory (some "x"))
      ⟨x.client, s⟩).1.log ≠ [] := fun s => List.cons_ne_nil _ _
  rw [hlog] at hnothing
  match deeds with
  | [] => exact absurd hcommands (List.cons_ne_nil _ _).symm
  | d :: deeds =>
    obtain ⟨s, -, hd⟩ := hdeeds.head
    rw [(List.cons.inj hcommands).1] at hd
    exact hdeed s (hd ▸ (List.append_eq_nil_iff.mp (List.append_eq_nil_iff.mp hnothing).2).1)

end RemoteFiles.Shell
