import RemoteFiles.Proofs.Program.CommandLine
import RemoteFiles.Proofs.Program.Effective
import RemoteFiles.Proofs.Shell.Deeds

/-!
# Commands alone and in a shell

A command that the program carries out by itself does what it does as the only line of a shell: the
same requests are sent, and the files and the service are left the same (`once_as_in_shell`).  The
program begins in the same way for both (`begins`), and what a shell does besides the command is to
write on the terminal.  The terminal has a state of its own here (`Machine.withTerminal`), and two
worlds that differ in nothing else do so after such a command as well (`execute_agrees`).

The line is the name of the command with its arguments between quotes, or any other line with these
words; of the arguments it is only asked that no line ends in them.  On the command line the name of
a local file cannot be empty, as it can in the shell (`once_as_in_shell_not`).
-/

namespace RemoteFiles

/-! ### Terminals apart -/

open World (onFiles elsewhere sending)

section

variable {ρ τ α : Type}

/-- Does something with the first of two states. -/
def onFirst (act : StateM ρ α) : StateM (ρ × τ) α :=
  fun s => ((act s.1).1, ((act s.1).2, s.2))

/-- Does something with the second of two states. -/
def onSecond (act : StateM τ α) : StateM (ρ × τ) α :=
  fun s => ((act s.2).1, (s.1, (act s.2).2))

/-- The machine with another terminal, which has a state of its own. -/
def Machine.withTerminal (w : Machine (StateM ρ)) (t : Terminal (StateM τ)) :
    Machine (StateM (ρ × τ)) where
  environment := w.environment
  disk := w.disk.lift onFirst
  network := ⟨fun seconds r => onFirst (w.network.exchange seconds r)⟩
  clientNonce := onFirst w.clientNonce
  terminal := {
    write := fun data => onSecond (t.write data)
    complain := fun line => onSecond (t.complain line)
    askPassword := fun user => onSecond (t.askPassword user) }

/-- The files, the requests that were sent and the service are the same. -/
structure World.SameButTerminal (x y : World (ρ × τ)) : Prop where
  files_eq : x.files = y.files
  sent_eq : x.sent = y.sent
  service_eq : x.rest.1 = y.rest.1

namespace World.SameButTerminal

variable {x y z : World (ρ × τ)}

theorem refl (x : World (ρ × τ)) : x.SameButTerminal x := ⟨rfl, rfl, rfl⟩

theorem symm (h : x.SameButTerminal y) : y.SameButTerminal x :=
  ⟨h.files_eq.symm, h.sent_eq.symm, h.service_eq.symm⟩

theorem trans (h : x.SameButTerminal y) (h' : y.SameButTerminal z) : x.SameButTerminal z :=
  ⟨h.files_eq.trans h'.files_eq, h.sent_eq.trans h'.sent_eq, h.service_eq.trans h'.service_eq⟩

/-- Neither the files nor the service know of the terminal. -/
theorem agrees_onFiles (act : StateM Disk.Tree α) :
    Agrees SameButTerminal (onFiles act : StateM (World (ρ × τ)) α) (onFiles act) :=
  fun _ _ h => ⟨congrArg (fun t => (act t).1) h.files_eq,
    congrArg (fun t => (act t).2) h.files_eq, h.sent_eq, h.service_eq⟩

theorem agrees_onFirst (act : StateM ρ α) :
    Agrees SameButTerminal (elsewhere (onFirst act) : StateM (World (ρ × τ)) α)
      (elsewhere (onFirst act)) :=
  fun _ _ h => ⟨congrArg (fun s => (act s).1) h.service_eq, h.files_eq, h.sent_eq,
    congrArg (fun s => (act s).2) h.service_eq⟩

theorem agrees_sending (r : Http.Request) (act : StateM ρ α) :
    Agrees SameButTerminal (sending r (onFirst act) : StateM (World (ρ × τ)) α)
      (sending r (onFirst act)) :=
  fun _ _ h => ⟨congrArg (fun s => (act s).1) h.service_eq, h.files_eq,
    congrArg (· ++ [r]) h.sent_eq, congrArg (fun s => (act s).2) h.service_eq⟩

theorem of_onSecond (act : StateM τ α) (x : World (ρ × τ)) :
    x.SameButTerminal (elsewhere (onSecond act) x).2 :=
  ⟨rfl, rfl, rfl⟩

/-- What is shown may differ, for nothing comes of it. -/
theorem agrees_onSecond (act : StateM τ Unit) :
    Agrees SameButTerminal (elsewhere (onSecond act) : StateM (World (ρ × τ)) Unit)
      (elsewhere (onSecond act)) :=
  fun _ _ h => ⟨rfl, h.files_eq, h.sent_eq, h.service_eq⟩

end World.SameButTerminal

end

namespace Program

open Shell (Command Shows execute runLines linesOf inputOf IsLine)
open World.SameButTerminal

/-! ### How both begin -/

section

variable {σ : Type}

/-- How the program begins, whether it is for a command or for a shell: it ends with an error, or it
goes on with a client. -/
inductive Begins (w : Machine (StateM σ)) (a : Arguments) (s : σ) : Prop
  | fails (report : Report) (s' : σ)
    (once : ∀ c lines, perform w { a with task := .once c } lines s = (.error report, s'))
    (shell : ∀ lines, perform w { a with task := .shell } lines s = (.error report, s'))
  | opens (e : Http.Endpoint) (client : Client) (user : Option String) (s' : σ)
    (once : ∀ c lines, perform w { a with task := .once c } lines s =
      ((execute w (w.host e) user c client s').1.1, (execute w (w.host e) user c client s').2))
    (shell : ∀ lines, perform w { a with task := .shell } lines s =
      ((runLines w (w.host e) user lines client s').1.1,
        (runLines w (w.host e) user lines client s').2))

theorem perform_of_error {w : Machine (StateM σ)} {a : Arguments} {s s' : σ} {report : Report}
    (h : start w a s = (.error report, s')) (lines : List ByteArray) :
    perform w a lines s = (.error report, s') := by
  rw [perform, bind_apply, h]
  rfl

/-- With a configuration, the service is asked first in either case. -/
theorem startTask_cases (w : Machine (StateM σ)) (c : Config) (s : σ) :
    (∃ report s', startTask w c .shell s = (.error report, s') ∧
      ∀ command, startTask w c (.once command) s = (.error report, s')) ∨
    ∃ e client s', startTask w c .shell s = (.ok (.shell (w.host e) client c.username), s') ∧
      ∀ command, startTask w c (.once command) s =
        ((execute w (w.host e) c.username command client s').1.1.map fun _ => .finished,
          (execute w (w.host e) c.username command client s').2) := by
  unfold startTask
  dsimp only
  cases hendpoint : Http.Endpoint.ofConfig c with
  | error e => exact .inl ⟨e.report, s, rfl, fun _ => rfl⟩
  | ok e =>
    dsimp only
    simp only [bind_apply, StateT.run]
    rcases introduce w (w.host e) c (Client.startingIn c.root) s with ⟨⟨report | _, client⟩, s'⟩
    · exact .inl ⟨report, s', rfl, fun _ => rfl⟩
    · exact .inr ⟨e, client, s', rfl, fun _ => rfl⟩

/-- Before its task is carried out, the program does not look at which one it is. -/
theorem begins (w : Machine (StateM σ)) (a : Arguments) (s : World σ) : Begins w.inWorld a s := by
  obtain ⟨result, hconfig⟩ : ∃ result, effectiveConfig w.inWorld a s = (result, s) :=
    ⟨_, effectiveConfig_apply w a s⟩
  cases result with
  | error fault =>
    exact .fails fault.report s (fun c => perform_of_error (start_of_fault hconfig))
      (perform_of_error (start_of_fault hconfig))
  | ok c =>
    cases hvalid : c.validate with
    | error e =>
      exact .fails (.plain e.message) s
        (fun c => perform_of_error (start_of_invalid hconfig hvalid))
        (perform_of_error (start_of_invalid hconfig hvalid))
    | ok =>
      -- the two tasks part only behind the first request
      have honce : ∀ command, start w.inWorld { a with task := .once command } s =
          startTask w.inWorld c (.once command) s :=
        fun command => start_of_valid hconfig hvalid (fun _ => nofun)
      have hshell : start w.inWorld { a with task := .shell } s = startTask w.inWorld c .shell s :=
        start_of_valid hconfig hvalid (fun _ => nofun)
      rcases startTask_cases w.inWorld c s with
        ⟨report, s', hshell', honce'⟩ | ⟨e, client, s', hshell', honce'⟩
      · exact .fails report s'
          (fun command => perform_of_error ((honce command).trans (honce' command)))
          (perform_of_error (hshell.trans hshell'))
      · refine .opens e client c.username s' (fun command lines => ?_) (fun lines => ?_)
        · rw [perform, bind_apply, honce, honce']
          cases (execute w.inWorld (w.inWorld.host e) c.username command client s').1.1 <;> rfl
        · rw [perform, bind_apply, hshell, hshell']
          rfl

end

/-! ### The line of a shell -/

section

variable {ρ τ : Type} (w : Machine (StateM ρ)) (t : Terminal (StateM τ))

theorem shows_sameButTerminal {x y : World (ρ × τ)} (h : Shows (w.withTerminal t).inWorld x y) :
    x.SameButTerminal y := by
  induction h with
  | nothing s => exact .refl s
  | wrote data _ ih => exact (of_onSecond (t.write data) _).trans ih
  | complained line _ ih => exact (of_onSecond (t.complain line) _).trans ih

theorem machine_agrees :
    (w.withTerminal t).inWorld.Agrees World.SameButTerminal (w.withTerminal t).inWorld where
  write data := agrees_onSecond (t.write data)
  complain line := agrees_onSecond (t.complain line)
  save path data := agrees_onFiles (Disk.Tree.disk.write path data)

theorem host_agrees (e : Http.Endpoint) :
    ((w.withTerminal t).inWorld.host e).Agrees World.SameButTerminal
      ((w.withTerminal t).inWorld.host e) :=
  Machine.agrees_host (fun _ r => agrees_sending r _) (agrees_onFirst _)
    (fun _ => agrees_onFiles _) e

/-- A command that does not log in knows nothing of the terminal. -/
theorem execute_agrees (e : Http.Endpoint) (user : Option String) {c : Command}
    (hlogin : ∀ named, c ≠ .login named) :
    AgreesOn World.SameButTerminal
      (execute (w.withTerminal t).inWorld ((w.withTerminal t).inWorld.host e) user c)
      (execute (w.withTerminal t).inWorld ((w.withTerminal t).inWorld.host e) user c) :=
  Shell.agrees_execute (machine_agrees w t) (host_agrees w t e) user c
    fun named h => absurd h (hlogin named)

/-- In a shell, too, nothing happens besides the command that does not go to the terminal. -/
theorem execute_sameButTerminal_runLines (e : Http.Endpoint) (user : Option String) {c : Command}
    (honce : c.isOnce = true) {line : String}
    (hwords : Shell.words line = some (c.name :: c.arguments)) (hline : IsLine line)
    (client : Client) (s : World (ρ × τ)) :
    (execute (w.withTerminal t).inWorld ((w.withTerminal t).inWorld.host e) user c
      client s).2.SameButTerminal
      (runLines (w.withTerminal t).inWorld ((w.withTerminal t).inWorld.host e) user
        (linesOf (inputOf [line])) client s).2 := by
  have hlines : linesOf (inputOf [line]) = [(line ++ "\n").toUTF8] :=
    Shell.linesOf_inputOf (by simpa using hline.unbroken)
  have hne : c ≠ .exit := by
    rintro rfl
    cases honce
  have hlogin : ∀ named, c ≠ .login named := by
    rintro named rfl
    cases honce
  have hempty : (line ++ "\n").toUTF8.isEmpty = false :=
    Shell.isEmpty_of_mem_linesOf (hlines ▸ List.mem_singleton_self _)
  set v := (w.withTerminal t).inWorld
  -- the shell shows its prompt, carries the command out, and shows a prompt that nothing answers
  obtain ⟨s₁, hprompt, hrun⟩ := Shell.runLines_of_text v (v.host e) user client s [] hempty
    (Shell.lineText_of_isLine hline)
  obtain ⟨s₂, hshown, hcommand⟩ :=
    Shell.runLine_of_command v (v.host e) user client s₁ (Shell.ofText?_of_words hwords) hne
  obtain ⟨s₃, hend, hnil⟩ := Shell.runLines_nil v (v.host e) user
    (execute v (v.host e) user c client s₁).1.2 s₂
  rw [hlines, hrun, hcommand]
  dsimp only
  rw [hnil]
  have hagree := execute_agrees w t e user hlogin client s s₁ (shows_sameButTerminal w t hprompt)
  have hafter := hagree.2.trans (shows_sameButTerminal w t hshown)
  exact hafter.trans (shows_sameButTerminal w t hend)

theorem run_of_parse {σ : Type} {v : Machine (StateM σ)} {words : List String} {a : Arguments}
    (h : Arguments.parse words = .ok a) (input : ByteArray) (s : σ) :
    run v words input s = conclude v (perform v a (linesOf input) s).1
      (perform v a (linesOf input) s).2 := by
  rw [run, h]
  rfl

/-- What is said at the end goes to the terminal. -/
theorem sameButTerminal_conclude (result : Except Report Unit) (x : World (ρ × τ)) :
    x.SameButTerminal (conclude (w.withTerminal t).inWorld result x).2 := by
  cases result with
  | ok => exact .refl x
  | error report => exact of_onSecond (t.complain ("Error: " ++ report.paragraphs)) x

/-- **Commands alone and in a shell**: every command that can be carried out alone, if the local
files that it names have names, is the task of a command line, whatever its arguments and the
settings are; a line of a shell with its name and its arguments between quotes stands for it, if no
line ends in the arguments.  And on any command line with this task the program sends the same
requests, and leaves the files and the service the same, as in a shell with such a line. -/
theorem once_as_in_shell :
    (∀ (o : Settings) (c : Command), o.config ≠ some "" → c.isOnce = true →
      c.localFile? ≠ some "" →
      Arguments.parse (o.words ++ c.name :: commandWords c) = .ok (o.arguments (.once c)) ∧
      Arguments.parse (o.words ++ ["shell"]) = .ok (o.arguments .shell)) ∧
    (∀ c : Command, (∀ argument ∈ c.arguments, '\n' ∉ argument.toList) →
      Shell.words c.line = some (c.name :: c.arguments) ∧ IsLine c.line) ∧
    ∀ (words words' : List String) (a : Arguments) (c : Command) (line : String)
      (input : ByteArray) (s : World (ρ × τ)), c.isOnce = true →
      Arguments.parse words = .ok { a with task := .once c } →
      Arguments.parse words' = .ok { a with task := .shell } →
      Shell.words line = some (c.name :: c.arguments) → IsLine line →
      (run (w.withTerminal t).inWorld words input s).2.SameButTerminal
        (run (w.withTerminal t).inWorld words' (inputOf [line]) s).2 := by
  refine ⟨fun o c hconfig honce hlocal =>
      ⟨o.parse_once hconfig honce hlocal, o.parse_shell hconfig⟩,
    fun c hc => ⟨Shell.words_line c, Shell.isLine_line hc⟩, ?_⟩
  intro words words' a c line input s honce hparse hparse' hwords hline
  rw [run_of_parse hparse, run_of_parse hparse']
  cases begins (w.withTerminal t) a s with
  | fails report s' honce' hshell =>
    rw [honce', hshell]
    exact .refl _
  | opens e client user s' honce' hshell =>
    rw [honce', hshell]
    have hsame := execute_sameButTerminal_runLines w t e user honce hwords hline client s'
    -- what either says at its end goes to the terminal as well
    refine (sameButTerminal_conclude w t _ _).symm.trans ?_
    exact hsame.trans (sameButTerminal_conclude w t _ _)

end

/-- A world without files, and without a service. -/
def emptyWorld : World (Unit × Unit) := ⟨⟨[], []⟩, [], ((), ())⟩

/-- A machine in whose world there is nobody else. -/
def silentMachine : Machine (StateM (World (Unit × Unit))) :=
  (bareMachine.withTerminal bareMachine.terminal).inWorld

/-- A download to a local file, both with blanks in their names, and the first looks like an
option. -/
theorem once_as_in_shell_of_blanks :
    let o : Settings := ⟨true, none, some "http://h/", none⟩
    let c : Command := .get "-x y" (some "a b")
    (o.config ≠ some "" ∧ c.isOnce = true ∧ c.localFile? ≠ some "" ∧
      ∀ argument ∈ c.arguments, '\n' ∉ argument.toList) ∧
    o.words ++ c.name :: commandWords c =
      ["--verbose", "--url=http://h/", "get", "--output=a b", "--", "-x y"] ∧
    c.line = "get \"-x y\" \"a b\" " ∧
    Arguments.parse (o.words ++ c.name :: commandWords c) = .ok (o.arguments (.once c)) ∧
    Arguments.parse (o.words ++ ["shell"]) = .ok (o.arguments .shell) ∧
    Shell.words c.line = some (c.name :: c.arguments) ∧ IsLine c.line ∧
    (run silentMachine (o.words ++ c.name :: commandWords c) .empty emptyWorld).2.SameButTerminal
      (run silentMachine (o.words ++ ["shell"]) (inputOf [c.line]) emptyWorld).2 := by
  intro o c
  obtain ⟨hparse, hlines, hruns⟩ := once_as_in_shell bareMachine bareMachine.terminal
  have hconfig : o.config ≠ some "" := by decide
  have hlocal : c.localFile? ≠ some "" := by decide
  have hargument : ∀ argument ∈ c.arguments, '\n' ∉ argument.toList := by decide
  obtain ⟨honce, hshell⟩ := hparse o c hconfig rfl hlocal
  obtain ⟨hwords, hline⟩ := hlines c hargument
  exact ⟨⟨hconfig, rfl, hlocal, hargument⟩, by decide, by decide, honce, hshell, hwords, hline,
    hruns _ _ (o.arguments .shell) c c.line .empty emptyWorld rfl honce hshell hwords hline⟩

/-- To upload a file without a name is no task of a command line, and nothing is sent; the shell
asks the service before it finds that there is no file. -/
theorem once_as_in_shell_not :
    let c : Command := .put ""
    (c.isOnce = true ∧ ∀ argument ∈ c.arguments, '\n' ∉ argument.toList) ∧
    c.line = "put \"\" " ∧
    ¬(run silentMachine ["--url=http://[::1]/", "put", ""] .empty emptyWorld).2.SameButTerminal
      (run silentMachine ["--url=http://[::1]/", "shell"] (inputOf [c.line]) emptyWorld).2 := by
  intro c
  have honce : (run silentMachine ["--url=http://[::1]/", "put", ""] .empty emptyWorld).2.sent =
      [] := rfl
  have hshell : (run silentMachine ["--url=http://[::1]/", "shell"] (inputOf [c.line])
      emptyWorld).2.sent.length = 1 := by decide +kernel
  refine ⟨⟨rfl, by decide⟩, by decide, fun h => ?_⟩
  rw [← h.sent_eq, honce] at hshell
  exact absurd hshell (by decide)

end Program

end RemoteFiles
