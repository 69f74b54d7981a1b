import RemoteFiles.Proofs.Client.Parallel
import RemoteFiles.Shell.Interpreter

/-!
# The shell in two surroundings

If the steps of two machines agree (`Machine.Agrees`), and so do those of two hosts, then what a
command does with the ones agrees with what it does with the others (`agrees_execute`), and so do
the lines of an input (`agrees_runLines`).  Passwords are left out of it, since only the command
that logs in asks for one.

A machine can be recorded as a host can: nothing that it does is written down, for a client takes
its steps through the host (`Machine.recorded`).
-/

namespace RemoteFiles

variable {σ σ' α ρ : Type} {R : σ → σ' → Prop}

/-! ### Machines that agree -/

/-- What the shell writes with one machine agrees with what it writes with the other. -/
structure Machine.Agrees (R : σ → σ' → Prop) (w : Machine (StateM σ))
    (w' : Machine (StateM σ')) : Prop where
  write : ∀ data, RemoteFiles.Agrees R (w.terminal.write data) (w'.terminal.write data)
  complain : ∀ line, RemoteFiles.Agrees R (w.terminal.complain line) (w'.terminal.complain line)
  save : ∀ path data, RemoteFiles.Agrees R (w.disk.write path data) (w'.disk.write path data)

namespace Shell

section

variable {w : Machine (StateM σ)} {w' : Machine (StateM σ')} {h : Host (StateM σ)}
  {h' : Host (StateM σ')}

theorem agrees_say (hw : w.Agrees R w') (line : String) :
    AgreesOn R (w.say line : StateT ρ (StateM σ) Unit) (w'.say line : StateT ρ (StateM σ') Unit) :=
  .lift (hw.write _)

theorem agrees_sayAll (hw : w.Agrees R w') (lines : List String) :
    AgreesOn R (sayAll w lines) (sayAll w' lines) := by
  induction lines with
  | nil => exact .pure ()
  | cons line lines ih => exact (agrees_say hw line).bind fun _ => ih

theorem agrees_sayClipboard (hw : w.Agrees R w') :
    AgreesOn R (sayClipboard w) (sayClipboard w') :=
  (AgreesOn.own fun c : Client => (c, c)).bind fun _ => agrees_say hw _

theorem agrees_reportProbe (hw : w.Agrees R w') (outcome : ProbeOutcome) :
    AgreesOn R (reportProbe w outcome) (reportProbe w' outcome) := by
  unfold reportProbe
  split
  · exact .pure ()
  · exact .lift (hw.complain _)

theorem agrees_login (hw : w.Agrees R w') (hh : h.Agrees R h') {user : String}
    (hask : Agrees R (w.password user) (w'.password user)) :
    AgreesOn R (login w h user) (login w' h' user) := by
  refine (AgreesOn.lift hask).bind fun answer => ?_
  cases answer with
  | error report => exact .pure _
  | ok password =>
    refine (RemoteFiles.agrees_login hh _).bind fun outcome => ?_
    exact (agrees_reportProbe hw outcome).bind fun _ => .pure _

theorem agrees_attempt (hh : h.Agrees R h') (op : Operation)
    {use : op.Result → StateT Client (StateM σ) (Except Report Unit)}
    {use' : op.Result → StateT Client (StateM σ') (Except Report Unit)}
    (huse : ∀ a, AgreesOn R (use a) (use' a)) :
    AgreesOn R (attempt h op use) (attempt h' op use') := by
  refine (agrees_perform hh op).bind fun result => ?_
  cases result with
  | ok a => exact huse a
  | error e => exact .pure _

theorem agrees_attemptSaying (hw : w.Agrees R w') (hh : h.Agrees R h') (op : Operation)
    (lines : op.Result → List String) :
    AgreesOn R (attemptSaying w h op lines) (attemptSaying w' h' op lines) :=
  agrees_attempt hh op fun a => (agrees_sayAll hw (lines a)).bind fun _ => .pure _

theorem agrees_deliver (hw : w.Agrees R w') (output : Option String) (data : ByteArray) :
    AgreesOn R (deliver w output data) (deliver w' output data) := by
  cases output with
  | none => exact (AgreesOn.lift (hw.write data)).bind fun _ => .pure _
  | some output =>
    refine (AgreesOn.lift (hw.save _ data)).bind fun result => ?_
    cases result with
    | ok => exact (agrees_say hw _).bind fun _ => .pure _
    | error fault => exact .pure _

/-- A command that does not log in asks for no password. -/
theorem agrees_execute (hw : w.Agrees R w') (hh : h.Agrees R h') (user : Option String)
    (c : Command) (hask : ∀ named, c = .login named → ∀ user,
      Agrees R (w.password user) (w'.password user)) :
    AgreesOn R (execute w h user c) (execute w' h' user c) := by
  cases c with
  | list path => exact agrees_attemptSaying hw hh _ _
  | changeDirectory path =>
    exact (AgreesOn.own fun c : Client => (c, c)).bind fun _ => agrees_attemptSaying hw hh _ _
  | workingDirectory =>
    exact (AgreesOn.own fun c : Client => (c, c)).bind fun _ =>
      (agrees_say hw _).bind fun _ => .pure _
  | remove name => exact agrees_attemptSaying hw hh _ _
  | copy name newName =>
    refine agrees_attempt hh _ fun _ => ?_
    split
    · exact (agrees_sayClipboard hw).bind fun _ => .pure _
    · exact .pure _
  | cut name => exact agrees_attempt hh _ fun _ => (agrees_sayClipboard hw).bind fun _ => .pure _
  | paste => exact agrees_attemptSaying hw hh _ _
  | clear => exact (AgreesOn.own _).bind fun _ => (agrees_say hw _).bind fun _ => .pure _
  | move oldName newName => exact agrees_attemptSaying hw hh _ _
  | makeDirectory name => exact agrees_attemptSaying hw hh _ _
  | put file => exact agrees_attemptSaying hw hh _ _
  | get name output => exact agrees_attempt hh _ fun data => agrees_deliver hw output data
  | login named =>
    unfold execute
    dsimp only
    -- a user that is named goes before the one of the configuration
    cases named.or user with
    | some user => exact agrees_login hw hh (hask named rfl user)
    | none => exact .pure _
  | logout =>
    exact (agrees_logout hh).bind fun outcome =>
      (agrees_reportProbe hw outcome).bind fun _ => .pure _
  | whoami =>
    exact (AgreesOn.own fun c : Client => (c, c)).bind fun _ =>
      (agrees_sayAll hw _).bind fun _ => .pure _
  | help => exact (agrees_say hw _).bind fun _ => .pure _
  | exit => exact .pure _

theorem agrees_prompt (hw : w.Agrees R w') : AgreesOn R (prompt w) (prompt w') :=
  (AgreesOn.own fun c : Client => (c, c)).bind fun _ => .lift (hw.write _)

theorem agrees_runLine (hw : w.Agrees R w') (hh : h.Agrees R h')
    (hask : ∀ user, Agrees R (w.password user) (w'.password user)) (user : Option String)
    (line : String) : AgreesOn R (runLine w h user line) (runLine w' h' user line) := by
  unfold runLine
  split
  · exact (AgreesOn.lift (hw.complain _)).bind fun _ => .pure _
  · exact .pure _
  · exact .pure _
  · refine (agrees_execute hw hh user _ fun _ _ => hask).bind fun result => ?_
    cases result with
    | ok => exact .pure _
    | error report => exact (AgreesOn.lift (hw.complain _)).bind fun _ => .pure _

theorem agrees_runNext (hw : w.Agrees R w') (hh : h.Agrees R h')
    (hask : ∀ user, Agrees R (w.password user) (w'.password user)) (user : Option String)
    (line : ByteArray) : AgreesOn R (runNext w h user line) (runNext w' h' user line) := by
  unfold runNext
  split
  · exact (agrees_say hw _).bind fun _ => .pure _
  · split
    · exact .pure _
    · exact (agrees_runLine hw hh hask user _).bind fun _ => .pure _

theorem agrees_runLines (hw : w.Agrees R w') (hh : h.Agrees R h')
    (hask : ∀ user, Agrees R (w.password user) (w'.password user)) (user : Option String)
    (lines : List ByteArray) :
    AgreesOn R (runLines w h user lines) (runLines w' h' user lines) := by
  induction lines with
  | nil =>
    exact (agrees_prompt hw).bind fun _ =>
      (agrees_runNext hw hh hask user .empty).bind fun _ => .pure _
  | cons line lines ih =>
    refine (agrees_prompt hw).bind fun _ => ?_
    refine (agrees_runNext hw hh hask user line).bind fun result => ?_
    -- the lines behind this one are read only if it did not leave the shell
    match result with
    | .error report => exact .pure _
    | .ok false => exact .pure _
    | .ok true => exact ih

end

end Shell

namespace Machine

/-- If the terminals agree about passwords, so do the machines, for the environment goes first. -/
theorem agrees_password {w : Machine (StateM σ)} {w' : Machine (StateM σ')}
    (henv : w.environment = w'.environment)
    (hask : ∀ user, RemoteFiles.Agrees R (w.terminal.askPassword user)
      (w'.terminal.askPassword user)) (user : String) :
    RemoteFiles.Agrees R (w.password user) (w'.password user) := by
  unfold password
  rw [henv]
  split
  · exact .pure _
  · refine (hask user).bind fun answer => ?_
    cases answer with
    | ok password => exact .pure _
    | error reason => exact .pure _

/-- If the networks agree, so do the requests to a service. -/
theorem agrees_send {net : Http.Network (StateM σ)} {net' : Http.Network (StateM σ')}
    (hnet : ∀ seconds r, RemoteFiles.Agrees R (net.exchange seconds r) (net'.exchange seconds r))
    (e : Http.Endpoint) (verb : Verb) (target : String) (content : Option Payload)
    (authorization : Option String) :
    RemoteFiles.Agrees R (e.send net verb target content authorization)
      (e.send net' verb target content authorization) := by
  unfold Http.Endpoint.send
  split
  · exact .pure _
  · refine (hnet _ _).bind fun answer => ?_
    cases answer with
    | error fault => exact .pure _
    | ok response => exact .pure _

/-- All that a client uses of a machine: the network, the nonces, and the files that it reads. -/
theorem agrees_host {w : Machine (StateM σ)} {w' : Machine (StateM σ')}
    (hnet : ∀ seconds r, RemoteFiles.Agrees R (w.network.exchange seconds r)
      (w'.network.exchange seconds r))
    (hnonce : RemoteFiles.Agrees R w.clientNonce w'.clientNonce)
    (hread : ∀ path, RemoteFiles.Agrees R (w.disk.read path) (w'.disk.read path))
    (e : Http.Endpoint) : (w.host e).Agrees R (w'.host e) where
  requestUri_eq := rfl
  submit r token := by
    refine (agrees_send hnet e _ _ _ _).bind fun answer => ?_
    cases answer with
    | error refusal => exact .pure _
    | ok response =>
      cases r.verb with
      | delete => exact .pure _
      | _ => exact .pure _
  probe token := by
    refine (agrees_send hnet e _ _ _ _).bind fun answer => ?_
    cases answer with
    | error refusal => exact .pure _
    | ok response => exact .pure _
  clientNonce := hnonce
  read := hread
  announce _ := .pure ()

/-! ### Recorded machines -/

open Recorded (quietly)

/-- The same machine beside a record, to which it adds nothing. -/
def recorded (w : Machine (StateM σ)) : Machine (StateM (Recorded σ)) where
  environment := w.environment
  disk := w.disk.lift quietly
  network := ⟨fun seconds r => quietly (w.network.exchange seconds r)⟩
  clientNonce := quietly w.clientNonce
  terminal := {
    write := fun data => quietly (w.terminal.write data)
    complain := fun line => quietly (w.terminal.complain line)
    askPassword := fun user => quietly (w.terminal.askPassword user) }

variable (w : Machine (StateM σ))

theorem agrees_recorded : w.Agrees Recorded.Of w.recorded where
  write data := Recorded.agrees_quietly (w.terminal.write data)
  complain line := Recorded.agrees_quietly (w.terminal.complain line)
  save path data := Recorded.agrees_quietly (w.disk.write path data)

theorem recorded_agrees_behind (past : List Interaction) :
    w.recorded.Agrees (Recorded.Behind past) w.recorded where
  write data := Recorded.quietly_agrees_behind past (w.terminal.write data)
  complain line := Recorded.quietly_agrees_behind past (w.terminal.complain line)
  save path data := Recorded.quietly_agrees_behind past (w.disk.write path data)

theorem agrees_recorded_password (user : String) :
    RemoteFiles.Agrees Recorded.Of (w.password user) (w.recorded.password user) :=
  have henv : w.environment = w.recorded.environment := rfl
  agrees_password henv (fun user => Recorded.agrees_quietly (w.terminal.askPassword user)) user

theorem recorded_password_agrees_behind (past : List Interaction) (user : String) :
    RemoteFiles.Agrees (Recorded.Behind past) (w.recorded.password user)
      (w.recorded.password user) :=
  agrees_password rfl
    (fun user => Recorded.quietly_agrees_behind past (w.terminal.askPassword user)) user

end Machine

end RemoteFiles
