import RemoteFiles.Proofs.Client.Run

/-!
# Schedules of operations

`Operation.schedule` lists the requests that an operation is made of, in order.  Whatever the
service and the local files answer, an operation sends the requests of its schedule one after
another, each of them once, until one is refused; it is completed exactly when the whole schedule
was accepted and what it had to read on its way could be read; and otherwise its error tells of
the last thing that happened (`perform_conforms`).

What is written depends on what was read before, so the schedule is a function of the content that
the service gave and of the content of the local file.
-/

namespace RemoteFiles

/-- A request to the service with its outcome. -/
def Interaction.exchange? : Interaction → Option (Request × Outcome)
  | submitted r _ outcome => some (r, outcome)
  | _ => none

/-- The content of a local file that was read. -/
def Interaction.data? : Interaction → Option ByteArray
  | fetched _ result => result.toOption
  | _ => none

/-- The requests to the service with their outcomes, in order. -/
def exchanges (log : List Interaction) : List (Request × Outcome) :=
  log.filterMap Interaction.exchange?

/-- Every request was accepted. -/
def AllAccepted (log : List Interaction) : Prop :=
  ∀ exchange ∈ exchanges log, exchange.2.isOk

/-- The body of the first request that was accepted. -/
def answered (log : List Interaction) : Payload :=
  ((exchanges log).findSome? fun exchange => exchange.2.toOption).getD .empty

/-- The content of the local file that was read. -/
def localData (log : List Interaction) : ByteArray :=
  (log.findSome? Interaction.data?).getD .empty

namespace Operation

/-- What was cut goes away at its old place, if it has another one. -/
def cleanup (isCut : Bool) (source destination : String) : List Request :=
  if isCut ∧ source ≠ destination then [.delete source] else []

/-- The requests of an operation begun in the workspace `w`, for which the service gives `content`
and the local file holds `data`. -/
def schedule (w : Workspace) (content : Payload) (data : ByteArray) : Operation → List Request
  | list (some path) => [.read (Path.resolve w.directory path)]
  | list none => [.read w.directory]
  | changeDirectory _ => []
  | remove name => [.delete (Path.join w.directory name)]
  | copy name none _ => [.read (Path.join w.directory name)]
  | copy name (some newName) isCut =>
    let source := Path.join w.directory name
    let destination := Path.join w.directory newName
    [.read source, .write destination (some content)] ++ cleanup isCut source destination
  | paste =>
    match w.clipboard.dequeue? with
    | none => []
    | some (clipping, _) =>
      let destination := Path.join w.directory clipping.name
      .write destination (some clipping.content) ::
        clipping.origin.toList.flatMap fun source => cleanup clipping.isCut source destination
  | move oldName newName =>
    let source := Path.join w.directory oldName
    let destination := Path.join w.directory newName
    if source = destination then []
    else [.read source, .write destination (some content), .delete source]
  | makeDirectory name => [.write (Path.joinDirectory w.directory (name.getD "")) none]
  | upload path =>
    match path.fileName?.bind Text.Glyph.toString? with
    | none => []
    | some name =>
      [.write (Path.join w.directory (String.ofList name)) (some (.ofBytes data))]
  | uploadBytes name data => [.write (Path.join w.directory name) (some (.ofBytes data))]
  | download name => [.read (Path.join w.directory name)]
  | update name content => [.update (Path.join w.directory name) content]

/-- The schedule of an operation for the contents that were read. -/
def scheduled (op : Operation) (w : Workspace) (log : List Interaction) : List Request :=
  op.schedule w (answered log) (localData log)

/-- What an operation had to read besides was read: the listing that came, or the local file. -/
def Understood (log : List Interaction) : Operation → Prop
  | list _ => ∃ listing, Listing.ofJson (answered log).data = .ok listing
  | upload path => ∃ data, .fetched path (.ok data) ∈ log
  | _ => True

/-- The error that an operation ends with when a request was refused; `inEffect` is the challenge
in effect after that. -/
def refusalError (inEffect : Auth.Challenge) : Refusal → OperationError
  | .authenticationRequired _ => .authenticationRequired inEffect.raw
  | .notFound url => .notFound url
  | .transport status message => .transport status message

/-- What an error of an operation tells of. -/
inductive Explains (op : Operation) (log : List Interaction) (inEffect : Auth.Challenge) :
    OperationError → Prop
  /-- The last request was refused. -/
  | refused {r refusal} (last : (exchanges log).getLast? = some (r, .error refusal)) :
      Explains op log inEffect (refusalError inEffect refusal)
  /-- The answer to the only request is no listing. -/
  | undecodable {path r body cause} (op_eq : op = list path)
      (only : exchanges log = [(r, .ok body)]) (decode : Listing.ofJson body.data = .error cause) :
      Explains op log inEffect (.protocol cause)
  /-- Nothing was sent, since the local path ends with no name. -/
  | unnamed {path} (op_eq : op = upload path) (none_sent : exchanges log = [])
      (no_name : path.fileName?.bind Text.Glyph.toString? = none) :
      Explains op log inEffect (.noFileName path)
  /-- Nothing was sent, since the local file could not be read. -/
  | unreadable {path fault} (op_eq : op = upload path) (none_sent : exchanges log = [])
      (read : .fetched path (.error fault) ∈ log) :
      Explains op log inEffect (.localFile fault)

/-- An operation begun in the workspace `w` went by its schedule. -/
structure Conforms (op : Operation) (w : Workspace) (log : List Interaction)
    (result : Except OperationError op.Result) (inEffect : Auth.Challenge) : Prop where
  in_order : (exchanges log).map Prod.fst <+: op.scheduled w log
  accepted : ∀ exchange ∈ (exchanges log).dropLast, exchange.2.isOk
  completed_iff : result.isOk ↔
    (exchanges log).map Prod.fst = op.scheduled w log ∧ AllAccepted log ∧ op.Understood log
  explained : ∀ e, result = .error e → op.Explains log inEffect e

end Operation

/-! ### Logs -/

section
variable {past : List Interaction} {r : Request} {token : Option String} {nonce : String}

theorem exchanges_sent (past : List Interaction) (nonce : String) (r : Request)
    (token : Option String) (outcome : Outcome) :
    exchanges (past ++ [.drew nonce, .submitted r token outcome]) =
      exchanges past ++ [(r, outcome)] := by
  rw [exchanges, List.filterMap_append]
  rfl

theorem exchanges_announced (log : List Interaction) (e : Event) :
    exchanges (log ++ [.announced e]) = exchanges log := by
  rw [exchanges, List.filterMap_append]
  exact List.append_nil _

theorem answered_announced (log : List Interaction) (e : Event) :
    answered (log ++ [.announced e]) = answered log := by
  rw [answered, exchanges_announced, answered]

theorem AllAccepted.of_nil (h : exchanges past = []) : AllAccepted past := by
  intro exchange hmem
  rw [h] at hmem
  exact absurd hmem List.not_mem_nil

theorem AllAccepted.sent (h : AllAccepted past) (body : Payload) :
    AllAccepted (past ++ [.drew nonce, .submitted r token (.ok body)]) := by
  intro exchange hmem
  rw [exchanges_sent, List.mem_append, List.mem_singleton] at hmem
  rcases hmem with hmem | rfl
  · exact h exchange hmem
  · rfl

end

theorem refused_eq (s : Auth.Session) (refusal : Refusal) :
    (Client.refused s refusal).1 =
      Operation.refusalError (Client.refused s refusal).2.challenge refusal := by
  cases refusal <;> rfl

namespace Operation

variable {op : Operation} {w w' : Workspace} {past : List Interaction}

theorem conforms_ok {a : op.Result} {inEffect : Auth.Challenge} (haccepted : AllAccepted past)
    (hschedule : op.scheduled w past = (exchanges past).map Prod.fst) (hread : op.Understood past) :
    op.Conforms w past (.ok a) inEffect where
  in_order := ⟨[], by rw [hschedule, List.append_nil]⟩
  accepted exchange hmem := haccepted exchange (List.dropLast_subset _ hmem)
  completed_iff := ⟨fun _ => ⟨hschedule.symm, haccepted, hread⟩, fun _ => rfl⟩
  explained e he := by cases he

/-- A request of the schedule is refused. -/
theorem conforms_refused {r : Request} {nonce : String} {token : Option String}
    {refusal : Refusal} {session : Auth.Session} (haccepted : AllAccepted past)
    (hschedule : ∀ more, (exchanges past).map Prod.fst ++ [r] <+: op.scheduled w (past ++ more)) :
    op.Conforms w (past ++ [.drew nonce, .submitted r token (.error refusal)])
      (.error (Client.refused session refusal).1) (Client.refused session refusal).2.challenge where
  in_order := by
    rw [exchanges_sent, List.map_append]
    exact hschedule _
  accepted exchange hmem := by
    rw [exchanges_sent, List.dropLast_concat] at hmem
    exact haccepted exchange hmem
  completed_iff := by
    constructor
    · intro hok
      cases hok
    · rintro ⟨-, hall, -⟩
      rw [AllAccepted, exchanges_sent] at hall
      have hlast := hall (r, .error refusal) (by simp)
      cases hlast
  explained e he := by
    obtain rfl := Except.error.inj he
    rw [refused_eq]
    exact .refused (by rw [exchanges_sent, List.getLast?_concat])

/-- What conforms at its end, as a condition on ends of plans. -/
def Ends (op : Operation) (w : Workspace) (past : List Interaction)
    (result : Except OperationError op.Result) (_ : Workspace) (session : Auth.Session) : Prop :=
  op.Conforms w past result session.challenge

/-- However a plan goes on after `past`, the operation has gone by its schedule when it ends. -/
abbrev EndsWell (op : Operation) (w : Workspace) (past : List Interaction) (w' : Workspace)
    (p : Plan op.Result) : Prop :=
  p.Meets (fun _ _ => True) (op.Ends w) past w'

theorem submit_ends {r : Request} {undo : Workspace → Workspace}
    {next : Payload → Plan op.Result} (haccepted : AllAccepted past)
    (hschedule : ∀ more, (exchanges past).map Prod.fst ++ [r] <+: op.scheduled w (past ++ more))
    (hnext : ∀ nonce token body,
      AllAccepted (past ++ [.drew nonce, .submitted r token (.ok body)]) →
        op.EndsWell w (past ++ [.drew nonce, .submitted r token (.ok body)]) w' (next body)) :
    op.EndsWell w past w' (.submit r undo next) :=
  .submit (fun _ => trivial) (fun _ _ _ _ => conforms_refused haccepted hschedule)
    fun nonce token body => hnext nonce token body (haccepted.sent body)

/-- The last request of the schedule. -/
theorem last_ends {r : Request} {undo : Workspace → Workspace} {a : Payload → op.Result}
    (haccepted : AllAccepted past)
    (hschedule : ∀ more, op.scheduled w (past ++ more) = (exchanges past).map Prod.fst ++ [r])
    (hread : ∀ more, op.Understood (past ++ more)) :
    op.EndsWell w past w' (.submit r undo fun body => .done (a body)) := by
  refine submit_ends haccepted (fun more => ?_) fun nonce token body hbody =>
    .done fun session => conforms_ok hbody ?_ (hread _)
  · exact ⟨[], by rw [hschedule, List.append_nil]⟩
  · rw [hschedule, exchanges_sent, List.map_append]
    rfl

/-- All requests were accepted, but what was read on the way was of no use. -/
theorem conforms_error {e : OperationError} {inEffect : Auth.Challenge}
    (haccepted : AllAccepted past)
    (hschedule : (exchanges past).map Prod.fst <+: op.scheduled w past)
    (hread : ¬ op.Understood past) (explains : op.Explains past inEffect e) :
    op.Conforms w past (.error e) inEffect where
  in_order := hschedule
  accepted exchange hmem := haccepted exchange (List.dropLast_subset _ hmem)
  completed_iff := by
    constructor
    · intro hok
      cases hok
    · rintro ⟨-, -, h⟩
      exact absurd h hread
  explained e' he := by
    obtain rfl := Except.error.inj he
    exact explains

/-! ### The plans

The paths of the longer plans are variables, tied to the names by equations: nothing here depends
on how paths are made. -/

variable {b : Event}

theorem planList_ends (directory : String) (path : Option String)
    (hschedule : ∀ log, (list path).scheduled w log = [.read directory]) :
    (list path).EndsWell w [.announced b] w (planList directory) := by
  refine submit_ends (.of_nil rfl) (fun more => ?_) fun nonce token body hbody => ?_
  · exact ⟨[], (hschedule _).symm⟩
  · -- the request was accepted, and the body is a listing or not
    split
    · rename_i listing hdecode
      exact .done fun session => conforms_ok hbody (hschedule _) ⟨listing, hdecode⟩
    · rename_i cause hdecode
      refine .fail fun session => conforms_error hbody ?_ ?_ (.undecodable rfl rfl hdecode)
      · exact ⟨[], (hschedule _).symm⟩
      · rintro ⟨listing, hlisting⟩
        exact absurd (hdecode.symm.trans hlisting) (by simp)

theorem planCopy_ends_of_none (source name : String) (isCut : Bool)
    (hsource : Path.join w.directory name = source) :
    (copy name none isCut).EndsWell w [.announced b] w
      (planCopy w.directory name none isCut) := by
  have hschedule : ∀ log, (copy name none isCut).scheduled w log = [.read source] := by
    intro log
    rw [scheduled, schedule, hsource]
  unfold planCopy
  rw [hsource]
  refine submit_ends (.of_nil rfl) (fun more => ?_) fun nonce token content hcontent => ?_
  · exact ⟨[], (hschedule _).symm⟩
  · exact .change (.done fun session => conforms_ok hcontent (hschedule _) trivial)

theorem planCopy_ends_of_some (source destination name newName : String) (isCut : Bool)
    (hsource : Path.join w.directory name = source)
    (hdestination : Path.join w.directory newName = destination) :
    (copy name (some newName) isCut).EndsWell w [.announced b] w
      (planCopy w.directory name (some newName) isCut) := by
  have hschedule : ∀ log, (copy name (some newName) isCut).scheduled w log =
      [.read source, .write destination (some (answered log))] ++
        cleanup isCut source destination := by
    intro log
    rw [scheduled, schedule, hsource, hdestination]
  unfold planCopy
  simp only [hsource, hdestination]
  refine submit_ends (.of_nil rfl) (fun more => ?_) fun nonce token content hcontent => ?_
  · rw [hschedule]
    exact ⟨_, rfl⟩
  refine submit_ends hcontent (fun more => ?_) fun nonce' token' receipt hreceipt => ?_
  · rw [hschedule]
    exact ⟨_, rfl⟩
  -- only what was cut to another place is deleted
  split_ifs with hcut
  · refine last_ends hreceipt (fun more => ?_) fun _ => trivial
    rw [hschedule, cleanup, if_pos ⟨hcut.1, hcut.2.symm⟩]
    rfl
  · refine .done fun session => conforms_ok hreceipt ?_ trivial
    rw [hschedule, cleanup, if_neg fun h => hcut ⟨h.1, h.2.symm⟩]
    rfl

theorem planPaste_ends : paste.EndsWell w [.announced b] w (planPaste w) := by
  unfold planPaste
  split
  · rename_i hempty
    refine .done fun session => conforms_ok (.of_nil rfl) ?_ trivial
    rw [scheduled, schedule, hempty]
    rfl
  · rename_i clipping rest hdequeue
    obtain ⟨destination, hdestination⟩ : ∃ destination,
      Path.join w.directory clipping.name = destination := ⟨_, rfl⟩
    have hschedule : ∀ log, paste.scheduled w log =
        .write destination (some clipping.content) :: clipping.origin.toList.flatMap
          fun source => cleanup clipping.isCut source destination := by
      intro log
      simp only [scheduled, schedule, hdequeue, hdestination]
    simp only [hdestination]
    refine .change (submit_ends (.of_nil rfl) (fun more => ?_)
      fun nonce token receipt hreceipt => ?_)
    · rw [hschedule]
      exact ⟨_, rfl⟩
    split
    · rename_i source hcut horigin
      simp only [hcut, horigin, Option.toList_some, List.flatMap_singleton] at hschedule
      split_ifs with hsame
      · refine .done fun session => conforms_ok hreceipt ?_ trivial
        rw [hschedule, cleanup, if_neg fun h => h.2 hsame]
        rfl
      · refine last_ends hreceipt (fun more => ?_) fun _ => trivial
        rw [hschedule, cleanup, if_pos ⟨rfl, hsame⟩]
        rfl
    · -- a copy stays where it is, and a cut without an origin has nothing to delete
      rename_i hkept
      refine .done fun session => conforms_ok hreceipt ?_ trivial
      rw [hschedule]
      have hnone : (clipping.origin.toList.flatMap fun source =>
          cleanup clipping.isCut source destination) = [] := by
        rw [List.flatMap_eq_nil_iff]
        intro source hsource
        rw [cleanup, if_neg]
        exact fun h => hkept source h.1 (Option.mem_toList.mp hsource)
      rw [hnone]
      rfl

theorem planMove_ends (source destination oldName newName : String)
    (hsource : Path.join w.directory oldName = source)
    (hdestination : Path.join w.directory newName = destination) :
    (move oldName newName).EndsWell w [.announced b] w (planMove source destination) := by
  have hschedule : ∀ log, (move oldName newName).scheduled w log =
      if source = destination then []
      else [.read source, .write destination (some (answered log)), .delete source] := by
    intro log
    rw [scheduled, schedule, hsource, hdestination]
  unfold planMove
  split_ifs with hsame
  · refine .done fun session => conforms_ok (.of_nil rfl) ?_ trivial
    rw [hschedule, if_pos hsame]
    rfl
  · simp only [hsame, if_false] at hschedule
    refine submit_ends (.of_nil rfl) (fun more => ?_) fun nonce token content hcontent => ?_
    · rw [hschedule]
      exact ⟨_, rfl⟩
    refine submit_ends hcontent (fun more => ?_) fun nonce' token' receipt hreceipt => ?_
    · rw [hschedule]
      exact ⟨_, rfl⟩
    refine last_ends hreceipt (fun more => ?_) fun _ => trivial
    rw [hschedule]
    rfl

theorem planUpload_ends (path : Disk.Path) :
    (upload path).EndsWell w [.announced b] w (planUpload w.directory path) := by
  unfold planUpload
  split
  · rename_i hname
    refine .fail fun session => conforms_error (.of_nil rfl) ?_ ?_ (.unnamed rfl rfl hname)
    · exact List.nil_prefix
    · rintro ⟨data, hdata⟩
      simp at hdata
  · rename_i name hname
    have hschedule : ∀ log, (upload path).scheduled w log =
        [.write (Path.join w.directory (String.ofList name))
          (some (.ofBytes (localData log)))] := by
      intro log
      simp only [scheduled, schedule, hname]
    refine .readFile (fun fault session => ?_) fun data => ?_
    · refine conforms_error (.of_nil rfl) ?_ ?_ (.unreadable rfl rfl (by simp))
      · exact List.nil_prefix
      · rintro ⟨data, hdata⟩
        simp at hdata
    · refine last_ends (.of_nil rfl) (fun more => ?_) fun more => ⟨data, by simp⟩
      rw [hschedule]
      rfl

theorem plan_ends (op : Operation) (w : Workspace) (b : Event) :
    op.EndsWell w [.announced b] w (op.plan w) := by
  cases op with
  | list path => cases path <;> exact planList_ends _ _ fun _ => rfl
  | changeDirectory path =>
    exact .change (.done fun session => conforms_ok (.of_nil rfl) rfl trivial)
  | copy name newName isCut =>
    cases newName with
    | none => exact planCopy_ends_of_none _ name isCut rfl
    | some newName => exact planCopy_ends_of_some _ _ name newName isCut rfl rfl
  | paste => exact planPaste_ends
  | move oldName newName => exact planMove_ends _ _ oldName newName rfl rfl
  | upload path => exact planUpload_ends path
  | remove name | makeDirectory name | uploadBytes name data | download name
  | update name content =>
    exact last_ends (.of_nil rfl) (fun _ => rfl) fun _ => trivial

/-! ### What operations do -/

/-- An announcement does not change how an operation went. -/
theorem Conforms.announced {log : List Interaction} {result : Except OperationError op.Result}
    {inEffect : Auth.Challenge} (h : op.Conforms w log result inEffect) (e : Event) :
    op.Conforms w (log ++ [.announced e]) result inEffect := by
  have hexchanges := exchanges_announced log e
  have hanswered := answered_announced log e
  have hdata : localData (log ++ [.announced e]) = localData log := by
    rw [localData, List.findSome?_append]
    exact congrArg (Option.getD · _) (Option.or_none)
  have hscheduled : op.scheduled w (log ++ [.announced e]) = op.scheduled w log := by
    rw [scheduled, hanswered, hdata, scheduled]
  have hread : op.Understood (log ++ [.announced e]) ↔ op.Understood log := by
    cases op <;> simp [Understood, hanswered]
  constructor
  · rw [hexchanges, hscheduled]
    exact h.in_order
  · rw [hexchanges]
    exact h.accepted
  · rw [AllAccepted, hexchanges, hscheduled, hread]
    exact h.completed_iff
  · intro e' he
    cases h.explained e' he with
    | refused last => exact .refused (hexchanges ▸ last)
    | undecodable op_eq only decode => exact .undecodable op_eq (hexchanges ▸ only) decode
    | unnamed op_eq none_sent no_name => exact .unnamed op_eq (hexchanges ▸ none_sent) no_name
    | unreadable op_eq none_sent read =>
      exact .unreadable op_eq (hexchanges ▸ none_sent) (List.mem_append_left _ read)

end Operation

variable {σ : Type}

theorem Course.probed_notMem {α : Type} {h : Host (StateM σ)} {p : Plan α} {x y : Scene σ}
    {log : List Interaction} {result : Except OperationError α} (hc : Course h p x log result y)
    (token : Option String) (answer : Except Refusal (Option Identity)) :
    .probed token answer ∉ log := by
  induction hc with
  | done | fail => exact List.not_mem_nil
  | refused | unreadable => simp
  | accepted _ _ ih | fetched _ _ ih => simp [ih]
  | changed _ ih => exact ih

theorem Occurs.conforms {h : Host (StateM σ)} {x y : Scene σ} {op : Operation}
    {log : List Interaction} {result : Except OperationError op.Result} {c : Client}
    (occurs : Occurs h x ⟨.perform op, x.client, log, result, c⟩ y) :
    op.Conforms x.client.workspace log result c.session.challenge ∧
      ∀ token answer, .probed token answer ∉ log := by
  cases occurs with
  | performed course =>
    have hend := course.end_of_meets (Operation.plan_ends op x.client.workspace
      (.began x.client.nextId op.kind))
    refine ⟨hend.announced (.settled x.client.nextId op.kind result), fun token answer => ?_⟩
    simp [course.probed_notMem]

/-- Every operation, begun in any state with any surroundings, goes by its schedule: it sends the
scheduled requests in order, nothing after a refusal and nothing else; it is completed exactly
if all of them were accepted and what it had to read besides was read; and an error tells why
not. -/
theorem perform_conforms (h : Host (StateM σ)) (op : Operation) (x : Scene σ) :
    ∃ log result y,
      episode h (.perform op) x = (⟨.perform op, x.client, log, result, y.client⟩, y) ∧
      op.Conforms x.client.workspace log result y.client.session.challenge ∧
      ∀ token answer, .probed token answer ∉ log := by
  obtain ⟨log, result, y, hepisode, occurs, -⟩ := episode_spec h (.perform op) x
  exact ⟨log, result, y, hepisode, occurs.conforms⟩

end RemoteFiles
