import RemoteFiles.Proofs.Auth.Turns
import RemoteFiles.Proofs.Client.Move
import RemoteFiles.Proofs.Client.Schedule
import RemoteFiles.Proofs.Service.Effects

/-!
# What a failure leaves behind

An operation that fails leaves the client as it was (`failed_operation_keeps`), with two
exceptions.  A challenge that it met and that can be read is in effect from then on
(`Course.session_kept`).  And a paste that wrote what was cut, but could not delete it at its old
place, has used it up (`Operation.Strands`): a plan puts back what it took only if the write is
refused (`Operation.plan_keeps`).

On a store in memory, the tree is afterwards what the requests that were carried out have made of
it (`Course.tree_eq`).
-/

namespace RemoteFiles

/-! ### The session -/

/-- The challenge that the last request met, if it met one that can be read. -/
def metChallenge? (log : List Interaction) : Option Auth.Challenge :=
  match (exchanges log).getLast? with
  | some (_, .error (.authenticationRequired (some raw))) => (Auth.Challenge.parse raw).toOption
  | _ => none

namespace Auth.Session

/-- The same credential is held, and the last accepted probe is remembered alike. -/
structure SameLogin (s s' : Session) : Prop where
  credential_eq : s'.credential = s.credential
  identity_eq : s'.identity = s.identity
  token_eq : s'.token = s.token

variable {s s' s'' : Session}

theorem SameLogin.refl (s : Session) : SameLogin s s := ⟨rfl, rfl, rfl⟩

theorem SameLogin.trans (h : SameLogin s s') (h' : SameLogin s' s'') : SameLogin s s'' :=
  ⟨h'.credential_eq.trans h.credential_eq, h'.identity_eq.trans h.identity_eq,
    h'.token_eq.trans h.token_eq⟩

theorem answer_sameLogin (s : Session) (clientNonce method uri : String) :
    SameLogin s (s.answer clientNonce method uri).2 := by
  refine ⟨answer_credential s clientNonce method uri, ?_, ?_⟩
  all_goals
    unfold answer
    split <;> rfl

theorem challenged_sameLogin (s : Session) (raw : Option String) :
    SameLogin s (s.challenged raw) := by
  refine ⟨challenged_credential s raw, ?_, ?_⟩
  all_goals
    unfold challenged
    split <;> rfl

end Auth.Session

section

variable {σ α : Type} {h : Host (StateM σ)} {x y : Scene σ}

theorem metChallenge?_accepted (nonce : String) (r : Request) (token : Option String)
    (body : Payload) (log : List Interaction) :
    metChallenge? (.drew nonce :: .submitted r token (.ok body) :: log) = metChallenge? log := by
  have hexchanges : exchanges (.drew nonce :: .submitted r token (.ok body) :: log) =
      (r, .ok body) :: exchanges log := rfl
  rw [metChallenge?, hexchanges, metChallenge?]
  cases exchanges log with
  | nil => rfl
  | cons exchange rest => rw [List.getLast?_cons_cons]

/-- The refusal of a request, seen from the session in which it came. -/
theorem refused_session_kept (s : Auth.Session) (nonce : String) (r : Request)
    (token : Option String) (refusal : Refusal) :
    s.SameLogin (Client.refused s refusal).2 ∧
      (Client.refused s refusal).2.challenge =
        (metChallenge? [.drew nonce, .submitted r token (.error refusal)]).getD s.challenge ∧
      ∀ challenge ∈ metChallenge? [.drew nonce, .submitted r token (.error refusal)],
        (Client.refused s refusal).1 = .authenticationRequired challenge.raw := by
  cases refusal with
  | notFound url => exact ⟨.refl s, rfl, fun _ hmem => by cases hmem⟩
  | transport status message => exact ⟨.refl s, rfl, fun _ hmem => by cases hmem⟩
  | authenticationRequired raw =>
    have hchallenge := challenged_challenge s raw
    cases raw with
    | none => exact ⟨.refl s, rfl, fun _ hmem => by cases hmem⟩
    | some raw =>
      refine ⟨Auth.Session.challenged_sameLogin s (some raw), hchallenge, fun challenge hmem => ?_⟩
      have hparse : (Auth.Challenge.parse raw).toOption = some challenge := hmem
      rw [Option.bind_some, hparse, Option.getD_some] at hchallenge
      exact congrArg (fun ch : Auth.Challenge => OperationError.authenticationRequired ch.raw)
        hchallenge

/-- Sending a request keeps all of a session but its count. -/
theorem Sends.session_kept {r : Request} {nonce : String} {token : Option String}
    {outcome : Outcome} (sent : Sends h x r nonce token outcome y) :
    x.client.session.SameLogin y.client.session ∧
      y.client.session.challenge = x.client.session.challenge := by
  have hanswer : (x.client.session.answer nonce r.verb.method
      (h.service.requestUri r.target)).2 = y.client.session := congrArg Prod.snd sent.answer_eq
  rw [← hanswer]
  exact ⟨Auth.Session.answer_sameLogin _ _ _ _, Auth.answer_challenge _ _ _ _⟩

/-- Following a plan keeps the login, and the challenge as well unless the plan ended because
another one was met. -/
theorem Course.session_kept {p : Plan α} {log : List Interaction}
    {result : Except OperationError α} (course : Course h p x log result y) :
    x.client.session.SameLogin y.client.session ∧
      y.client.session.challenge = (metChallenge? log).getD x.client.session.challenge ∧
      ∀ challenge ∈ metChallenge? log,
        result = .error (.authenticationRequired challenge.raw) := by
  induction course with
  | done a x => exact ⟨.refl _, rfl, fun _ hmem => by cases hmem⟩
  | fail e x => exact ⟨.refl _, rfl, fun _ hmem => by cases hmem⟩
  | accepted sent _ ih =>
    obtain ⟨hlogin, hchallenge⟩ := sent.session_kept
    obtain ⟨hrest, hend, hmet⟩ := ih
    rw [metChallenge?_accepted, ← hchallenge]
    exact ⟨hlogin.trans hrest, hend, hmet⟩
  | @refused r _ _ _ nonce token refusal y sent =>
    obtain ⟨hlogin, hchallenge⟩ := sent.session_kept
    obtain ⟨hrest, hend, hmet⟩ := refused_session_kept y.client.session nonce r token refusal
    rw [← hchallenge]
    exact ⟨hlogin.trans hrest, hend, fun challenge hmem => congrArg Except.error (hmet _ hmem)⟩
  | fetched _ _ ih => exact ih
  | unreadable _ => exact ⟨.refl _, rfl, fun _ hmem => by cases hmem⟩
  | changed _ ih => exact ih

end

/-! ### The clipboard -/

namespace Operation

/-- A paste has written the clipping that waited longest and was cut, but could not delete it at
its old place; `rest` waits behind it. -/
structure Strands (op : Operation) (w : Workspace) (log : List Interaction) (clipping : Clipping)
    (rest : Clipboard) : Prop where
  op_eq : op = paste
  oldest : w.clipboard.dequeue? = some (clipping, rest)
  isCut : clipping.isCut = true
  not_deleted : ∃ source receipt refusal, clipping.origin = some source ∧
    exchanges log = [
      (.write (Path.join w.directory clipping.name) (some clipping.content), .ok receipt),
      (.delete source, .error refusal)]

/-- The workspace `w'` is what a failure has to leave of `w`. -/
structure Keeps (op : Operation) (w : Workspace) (log : List Interaction) (w' : Workspace) :
    Prop where
  directory_eq : w'.directory = w.directory
  clipboard : (∃ clipping, op.Strands w log clipping w'.clipboard) ∨
    (¬∃ clipping rest, op.Strands w log clipping rest) ∧ w'.clipboard = w.clipboard

/-- What is kept at an end with an error, as a condition on ends of plans. -/
def KeepsOnFailure (op : Operation) (w : Workspace) (past : List Interaction)
    (result : Except OperationError op.Result) (w' : Workspace) (_ : Auth.Session) : Prop :=
  result.isOk = false → op.Keeps w past w'

section

variable {op : Operation} {w : Workspace} {past : List Interaction} {b : Event}

theorem keeps_same (hop : op ≠ paste) (log : List Interaction) : op.Keeps w log w :=
  ⟨rfl, .inr ⟨fun ⟨_, _, strands⟩ => hop strands.op_eq, rfl⟩⟩

/-- A plan of one request that is no paste. -/
theorem single_keeps (r : Request) (a : Payload → op.Result) (hop : op ≠ paste) :
    (Plan.submit r id fun body => .done (a body)).Meets (fun _ _ => True) (op.KeepsOnFailure w)
      past w :=
  .submit (fun _ => trivial) (fun _ _ _ _ _ => keeps_same hop _)
    fun _ _ _ => .done fun _ hfailed => by cases hfailed

theorem planList_keeps (directory : String) (path : Option String) :
    (planList directory).Meets (fun _ _ => True) ((list path).KeepsOnFailure w) past w := by
  refine .submit (fun _ => trivial) (fun _ _ _ _ _ => keeps_same (by simp) _)
    fun nonce token body => ?_
  split
  · exact .done fun _ hfailed => by cases hfailed
  · exact .fail fun _ _ => keeps_same (by simp) _

theorem planCopy_keeps (directory name : String) (newName : Option String) (isCut : Bool) :
    (planCopy directory name newName isCut).Meets (fun _ _ => True)
      ((copy name newName isCut).KeepsOnFailure w) past w := by
  unfold planCopy
  refine .submit (fun _ => trivial) (fun _ _ _ _ _ => keeps_same (by simp) _)
    fun nonce token content => ?_
  cases newName with
  | none => exact .change (.done fun _ hfailed => by cases hfailed)
  | some newName =>
    refine .submit (fun _ => trivial) (fun _ _ _ _ _ => keeps_same (by simp) _)
      fun nonce' token' receipt => ?_
    split_ifs
    · exact single_keeps _ _ (by simp)
    · exact .done fun _ hfailed => by cases hfailed

theorem planMove_keeps (source destination oldName newName : String) :
    (planMove source destination).Meets (fun _ _ => True)
      ((move oldName newName).KeepsOnFailure w) past w := by
  unfold planMove
  split_ifs
  · exact .done fun _ hfailed => by cases hfailed
  · refine .submit (fun _ => trivial) (fun _ _ _ _ _ => keeps_same (by simp) _)
      fun nonce token content => ?_
    refine .submit (fun _ => trivial) (fun _ _ _ _ _ => keeps_same (by simp) _)
      fun nonce' token' receipt => ?_
    exact single_keeps _ _ (by simp)

theorem planUpload_keeps (directory : String) (path : Disk.Path) :
    (planUpload directory path).Meets (fun _ _ => True) ((upload path).KeepsOnFailure w) past
      w := by
  unfold planUpload
  split
  · exact .fail fun _ _ => keeps_same (by simp) _
  · refine .readFile (fun _ _ _ => keeps_same (by simp) _) fun data => ?_
    exact single_keeps _ _ (by simp)

theorem planPaste_keeps :
    (planPaste w).Meets (fun _ _ => True) (paste.KeepsOnFailure w) [.announced b] w := by
  unfold planPaste
  split
  · exact .done fun _ hfailed => by cases hfailed
  · rename_i clipping rest hdequeue
    refine .change (.submit (fun _ => trivial) (fun nonce token refusal session _ => ?_)
      fun nonce token receipt => ?_)
    · -- the write was refused, and the clipping is back where it was
      refine ⟨rfl, .inr ⟨?_, Clipboard.restore_of_dequeue? hdequeue⟩⟩
      rintro ⟨_, _, -, -, -, _, _, _, -, hexchanges⟩
      have hlength : 1 = 2 := congrArg List.length hexchanges
      cases hlength
    · split
      · rename_i source hcut horigin
        split_ifs
        · exact .done fun _ hfailed => by cases hfailed
        · refine .submit (fun _ => trivial) (fun nonce' token' refusal session _ => ?_)
            fun _ _ _ => .done fun _ hfailed => by cases hfailed
          exact ⟨rfl, .inl ⟨clipping, rfl, hdequeue, hcut, source, receipt, refusal, horigin, rfl⟩⟩
      · exact .done fun _ hfailed => by cases hfailed

/-- Every operation that fails leaves its workspace as it has to. -/
theorem plan_keeps (op : Operation) (w : Workspace) (b : Event) :
    (op.plan w).Meets (fun _ _ => True) (op.KeepsOnFailure w) [.announced b] w := by
  cases op with
  | list path => exact planList_keeps _ path
  | changeDirectory path => exact .change (.done fun _ hfailed => by cases hfailed)
  | copy name newName isCut => exact planCopy_keeps _ name newName isCut
  | paste => exact planPaste_keeps
  | move oldName newName => exact planMove_keeps _ _ oldName newName
  | upload path => exact planUpload_keeps _ path
  | remove name | makeDirectory name | uploadBytes name data | download name
  | update name content => exact single_keeps _ _ (by simp)

end

end Operation

/-! ### The store -/

section

variable {σ α : Type} {h : Host (StateM σ)} {x y : Scene σ} {store : σ → Store}

/-- The tree of the store is what the requests that were carried out have made of it. -/
theorem Course.tree_eq {p : Plan α} {log : List Interaction} {result : Except OperationError α}
    (course : Course h p x log result y) (served : h.ServedBy store) :
    (store y.around).tree = ((store x.around).carryOutAll (carriedOut log)).tree := by
  induction course with
  | done | fail => rfl
  | accepted sent _ ih =>
    exact ih.trans (Store.carryOutAll_tree_congr (Store.tree_of_accepted (served.sent sent)) _)
  | refused sent =>
    have htree := Store.tree_of_refused (served.sent sent)
    exact htree
  | @fetched path _ x _ _ _ _ _ read _ ih =>
    have hstore := served.read_eq path x.around
    rw [read] at hstore
    rw [ih]
    exact Store.carryOutAll_tree_congr (congrArg Store.tree hstore) _
  | @unreadable path _ x _ _ read =>
    have hstore := served.read_eq path x.around
    rw [read] at hstore
    exact congrArg Store.tree hstore
  | changed _ ih => exact ih

/-! ### Operations that fail -/

theorem carriedOut_framed (b e : Event) (log : List Interaction) :
    carriedOut (.announced b :: (log ++ [.announced e])) = carriedOut log :=
  List.filterMap_append.trans (List.append_nil _)

theorem metChallenge?_framed (b e : Event) (log : List Interaction) :
    metChallenge? (.announced b :: (log ++ [.announced e])) = metChallenge? log := by
  have hexchanges : exchanges (.announced b :: (log ++ [.announced e])) = exchanges log :=
    exchanges_announced log e
  rw [metChallenge?, hexchanges, metChallenge?]

theorem Operation.Keeps.announced {op : Operation} {w w' : Workspace} {log : List Interaction}
    (keeps : op.Keeps w log w') (e : Event) : op.Keeps w (log ++ [.announced e]) w' := by
  have hstrands : ∀ clipping rest, op.Strands w (log ++ [.announced e]) clipping rest ↔
      op.Strands w log clipping rest := by
    intro clipping rest
    constructor
    · rintro ⟨hop, holdest, hcut, hdeleted⟩
      rw [exchanges_announced] at hdeleted
      exact ⟨hop, holdest, hcut, hdeleted⟩
    · rintro ⟨hop, holdest, hcut, hdeleted⟩
      rw [← exchanges_announced log e] at hdeleted
      exact ⟨hop, holdest, hcut, hdeleted⟩
  refine ⟨keeps.directory_eq, ?_⟩
  simp only [hstrands]
  exact keeps.clipboard

/-- What an operation that failed with the error `e` has to leave of a client. -/
structure Operation.KeepsClient (op : Operation) (before : Client) (log : List Interaction)
    (e : OperationError) (after : Client) : Prop where
  workspace : op.Keeps before.workspace log after.workspace
  login : before.session.SameLogin after.session
  /-- Another challenge is in effect only if the failure is that it was met. -/
  challenge_eq : after.session.challenge = (metChallenge? log).getD before.session.challenge
  met : ∀ challenge ∈ metChallenge? log, e = .authenticationRequired challenge.raw

theorem Occurs.keepsClient {op : Operation} {log : List Interaction} {e : OperationError}
    {c : Client} (occurs : Occurs h x ⟨.perform op, x.client, log, .error e, c⟩ y) :
    op.KeepsClient x.client log e c := by
  cases occurs with
  | @performed _ log _ z course =>
    have hworkspace := course.end_of_meets
      (op.plan_keeps x.client.workspace (.began x.client.nextId op.kind)) rfl
    obtain ⟨hlogin, hchallenge, hmet⟩ := course.session_kept
    refine ⟨hworkspace.announced _, hlogin, ?_, fun challenge hmem => ?_⟩
    · rw [metChallenge?_framed]
      exact hchallenge
    · rw [metChallenge?_framed] at hmem
      exact Except.error.inj (hmet challenge hmem)

theorem Occurs.tree_eq {op : Operation} {log : List Interaction}
    {result : Except OperationError op.Result} {c : Client}
    (occurs : Occurs h x ⟨.perform op, x.client, log, result, c⟩ y) (served : h.ServedBy store) :
    (store y.around).tree = ((store x.around).carryOutAll (carriedOut log)).tree := by
  cases occurs with
  | @performed _ log _ z course =>
    have hbegun : store (x.begun h op).around = store x.around := served.announce_eq _ _
    have hcourse := course.tree_eq served
    rw [hbegun] at hcourse
    rw [carriedOut_framed, ← hcourse]
    exact congrArg Store.tree (served.announce_eq _ _)

/-- An operation that fails, in any state and whatever its requests came to, leaves the client as
it was but for the challenge that it met and the clipping that it stranded.  On a store it leaves
the tree that the requests which were carried out have made of the one before. -/
theorem failed_operation_keeps (h : Host (StateM σ)) (op : Operation) (x : Scene σ)
    {e : OperationError} (failed : (episode h (.perform op) x).1.error? = some e) :
    op.KeepsClient x.client (episode h (.perform op) x).1.log e
        (episode h (.perform op) x).1.after ∧
      ∀ store, h.ServedBy store →
        (store (episode h (.perform op) x).2.around).tree =
          ((store x.around).carryOutAll (carriedOut (episode h (.perform op) x).1.log)).tree := by
  obtain ⟨log, result, y, hepisode, occurs, -⟩ := episode_spec h (.perform op) x
  rw [hepisode] at failed ⊢
  obtain rfl : result = .error e := by
    cases result with
    | ok a => cases failed
    | error e' => exact congrArg Except.error (Option.some.inj failed)
  exact ⟨occurs.keepsClient, fun store served => occurs.tree_eq served⟩

end

/-- A client in the directory `b` with the file `a` cut. -/
def cutWaiting : Client :=
  { Client.startingIn "/b/" with
    workspace := ⟨"/b/", ⟨[⟨"a", some "/a", ⟨⟨#[49]⟩, none⟩, true⟩]⟩⟩ }

/-- A store with the file `a` and the directory `b` that will not delete the file. -/
def undeletable : Store :=
  ((Store.empty.insertFile "/a" ⟨#[49]⟩).addDirectory "/b/").failNext .delete "/a"
    (.transport 500 "")

/-- The paste strands what was cut: it is written, but stays at its old place as well. -/
theorem failed_operation_keeps_of_stranded :
    let h := (Host.constant (.ok .empty) (.ok none)).withStore
    let paste := episode h (.perform .paste) ⟨cutWaiting, (undeletable, ())⟩
    paste.1.error? = some (.transport 500 "") ∧
      (∃ clipping, Operation.paste.Strands cutWaiting.workspace paste.1.log clipping .empty) ∧
      paste.2.around.1.tree = (undeletable.carryOutAll (carriedOut paste.1.log)).tree := by
  intro h paste
  have hfailed : paste.1.error? = some (.transport 500 "") := by decide +kernel
  obtain ⟨keeps, htree⟩ := failed_operation_keeps h .paste ⟨cutWaiting, (undeletable, ())⟩ hfailed
  have hclipboard : paste.1.after.workspace.clipboard = .empty := by decide +kernel
  have hstrands := keeps.workspace.clipboard.resolve_right fun hkept =>
    absurd (hclipboard.symm.trans hkept.2) (by decide)
  exact ⟨hfailed, hclipboard ▸ hstrands, htree Prod.fst (Host.withStore_servedBy _)⟩

end RemoteFiles
