import RemoteFiles.Proofs.Client.Run

/-!
# Announcements

What subscribers are told in the course of a run is settled by what was asked for and what came
of it (`run_announced`).  Each operation tells of its beginning before anything else passes, and
of its end after everything else did; nothing is announced in between, whatever the surroundings
give (`Course.events_eq_nil`).  The operations of a run are numbered from one in the order in
which they were asked for, as far as the numbers go.

The induction over the run carries the number of operations so far, which the client keeps.
-/

namespace RemoteFiles

/-! ### Events in a log -/

/-- The event that was announced. -/
def Interaction.event? : Interaction → Option Event
  | .announced e => some e
  | _ => none

/-- What was announced, in order. -/
def events (log : List Interaction) : List Event := log.filterMap Interaction.event?

theorem events_append (log log' : List Interaction) :
    events (log ++ log') = events log ++ events log' :=
  List.filterMap_append

@[simp] theorem events_announced (told : List Event) :
    events (told.map .announced) = told := by
  induction told with
  | nil => rfl
  | cons e told ih =>
    rw [List.map_cons, events, List.filterMap_cons, Interaction.event?, ← events, ih]

/-! ### What has to be announced -/

/-- How the end of an operation is announced: what it asks for, what it missed, or the text of the
error if there was another one. -/
inductive Settles {α : Type} (id : UInt64) (kind : OperationKind) :
    Except OperationError α → Event → Prop
  | completed (a : α) : Settles id kind (.ok a) (.completed id kind)
  | authenticationRequired (challenge : String) :
      Settles id kind (.error (.authenticationRequired challenge))
        (.authenticationRequired id kind challenge)
  | notFound (url : String) : Settles id kind (.error (.notFound url)) (.notFound id kind url)
  | failed {e : OperationError}
      (not_challenged : ∀ challenge, e ≠ .authenticationRequired challenge)
      (not_missing : ∀ url, e ≠ .notFound url) :
      Settles id kind (.error e) (.failed id kind e.message)

/-- Of the episodes that follow `n` operations, which events are announced and where: around each
operation its beginning and its end, behind each inquiry its outcome if it is one that is
announced, and nothing else. -/
inductive Announced : Nat → List Episode → List Event → Prop
  | nil (n : Nat) : Announced n [] []
  | performed {n : Nat} {id : UInt64} {op : Operation} {before after : Client}
      {calls : List Interaction} {result : Except OperationError op.Result} {settlement : Event}
      {episodes : List Episode} {told : List Event}
      (number : id.toNat = (n + 1) % UInt64.size)
      (silent : events calls = [])
      (settles : Settles id op.kind result settlement)
      (rest : Announced (n + 1) episodes told) :
      Announced n
        (⟨.perform op, before,
          .announced (.began id op.kind) :: (calls ++ [.announced settlement]),
          result, after⟩ :: episodes)
        (.began id op.kind :: settlement :: told)
  | inquired {n : Nat} {q : Inquiry} {before after : Client} {calls : List Interaction}
      {outcome : ProbeOutcome} {episodes : List Episode} {told : List Event}
      (silent : events calls = []) (rest : Announced n episodes told) :
      Announced n
        (⟨.inquire q, before, calls ++ outcome.event?.toList.map .announced, outcome, after⟩ ::
          episodes)
        (outcome.event?.toList ++ told)
  | other {n : Nat} {e : Episode} {episodes : List Episode} {told : List Event}
      (no_operation : ∀ op, e.action ≠ .perform op) (no_inquiry : ∀ q, e.action ≠ .inquire q)
      (silent : events e.log = []) (rest : Announced n episodes told) :
      Announced n (e :: episodes) told

/-! ### What is announced -/

theorem settles_settled {α : Type} (id : UInt64) (kind : OperationKind)
    (result : Except OperationError α) : Settles id kind result (.settled id kind result) := by
  cases result with
  | ok a => exact .completed a
  | error e =>
    cases e with
    | authenticationRequired challenge => exact .authenticationRequired challenge
    | notFound url => exact .notFound url
    | _ => exact .failed (fun _ h => by cases h) (fun _ h => by cases h)

section

variable {σ α : Type} {h : Host (StateM σ)} {x y : Scene σ}

/-- No step of a plan announces anything. -/
theorem Course.events_eq_nil {p : Plan α} {log : List Interaction}
    {result : Except OperationError α} (course : Course h p x log result y) : events log = [] := by
  induction course with
  | done | fail | refused | unreadable => rfl
  | accepted _ _ ih | fetched _ _ ih | changed _ ih => exact ih

/-- No step of a plan counts as an operation. -/
theorem Course.nextId_eq {p : Plan α} {log : List Interaction}
    {result : Except OperationError α} (course : Course h p x log result y) :
    y.client.nextId = x.client.nextId := by
  induction course with
  | done | fail | unreadable => rfl
  | accepted sent _ ih =>
    rw [ih, sent.client_eq]
  | @refused _ _ _ _ _ _ _ z sent =>
    show z.client.nextId = _
    rw [sent.client_eq]
  | fetched _ _ ih => exact ih
  | changed _ ih => exact ih

theorem Asks.nextId_eq {nonce : String} {token : Option String}
    {answer : Except Refusal (Option Identity)} (asked : Asks h x nonce token answer y) :
    y.client.nextId = x.client.nextId := by
  rw [asked.client_eq]

theorem toNat_add_one {id : UInt64} {n : Nat} (h : id.toNat = (n + 1) % UInt64.size) :
    (id + 1).toNat = (n + 1 + 1) % UInt64.size := by
  rw [UInt64.toNat_add, h]
  simp

/-- One episode announces what it has to, and leaves the client with the number of operations
until then. -/
theorem Occurs.announced {e : Episode} (occurs : Occurs h x e y) {n : Nat}
    (number : x.client.nextId.toNat = (n + 1) % UInt64.size) :
    ∃ n', y.client.nextId.toNat = (n' + 1) % UInt64.size ∧
      ∀ {episodes told}, Announced n' episodes told →
        Announced n (e :: episodes) (events e.log ++ told) := by
  cases occurs with
  | @performed op log result z course =>
    have hnext : z.client.nextId = x.client.nextId + 1 := course.nextId_eq
    refine ⟨n + 1, (congrArg UInt64.toNat hnext).trans (toNat_add_one number), ?_⟩
    intro episodes told rest
    have hlog : events (.announced (.began x.client.nextId op.kind) ::
        (log ++ [.announced (.settled x.client.nextId op.kind result)])) =
        [.began x.client.nextId op.kind, .settled x.client.nextId op.kind result] := by
      rw [← List.singleton_append, events_append, events_append, course.events_eq_nil]
      rfl
    rw [hlog]
    exact .performed number course.events_eq_nil (settles_settled _ _ _) rest
  | cleared =>
    exact ⟨n, number, fun rest => .other (fun _ h => by cases h) (fun _ h => by cases h) rfl rest⟩
  | @inquired q nonce token answer z asked =>
    refine ⟨n, (congrArg UInt64.toNat asked.nextId_eq).trans number, fun rest => ?_⟩
    rw [events_append, events_announced]
    exact .inquired rfl rest
  | inquiredQuietly asked =>
    exact ⟨n, (congrArg UInt64.toNat asked.nextId_eq).trans number,
      fun rest => .other (fun _ h => by cases h) (fun _ h => by cases h) rfl rest⟩
  | challenged =>
    exact ⟨n, number, fun rest => .other (fun _ h => by cases h) (fun _ h => by cases h) rfl rest⟩
  | tokenMade =>
    exact ⟨n, number, fun rest => .other (fun _ h => by cases h) (fun _ h => by cases h) rfl rest⟩

theorem Announced.of_run (h : Host (StateM σ)) (actions : List Action) (x : Scene σ) {n : Nat}
    (number : x.client.nextId.toNat = (n + 1) % UInt64.size) :
    Announced n (run h actions x).1 (events ((run h actions x).1.flatMap Episode.log)) := by
  induction actions generalizing x n with
  | nil => exact .nil n
  | cons a rest ih =>
    obtain ⟨n', number', hannounced⟩ := (occurs_episode h a x).announced number
    rw [run, List.flatMap_cons, events_append]
    exact hannounced (ih (episode h a x).2 number')

/-- In every run, whatever comes of its operations, each of them announces its beginning before
its first call and its end, with what it came to, after its last one, under the next number; each
inquiry of the client announces that it was accepted or challenged exactly if it was; and nothing
else is announced. -/
theorem run_announced (h : Host (StateM σ)) (directory : String) (s : σ) (actions : List Action) :
    Announced 0 (run h actions ⟨.startingIn directory, s⟩).1
      (events ((run h actions ⟨.startingIn directory, s⟩).1.flatMap Episode.log)) :=
  .of_run h actions _ rfl

end

end RemoteFiles
