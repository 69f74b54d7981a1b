import RemoteFiles.Proofs.Client.Move
import RemoteFiles.Proofs.Client.Provenance
import RemoteFiles.Proofs.Service.History

/-!
# What a paste removes

A paste deletes what was cut at its old place.  On a store, the log of a run tells what the store
answered and all that happened to it (`Occurs.answered`, `after_run`), so what a file is when it
is deleted can be read off the log.

A paste that deletes has before that written the content of the clipping, and an earlier cut had
read this content at the place that is deleted (`Occurs.cutAndPasted`).  What is removed there is
this content, unless other content was stored in between (`paste_removes`): the clipboard holds
what was read, and a paste does not read again (`paste_removes_written_not`).
-/

namespace RemoteFiles

variable {σ τ α : Type}

/-- All that passed in some episodes. -/
def logOf (episodes : List Episode) : List Interaction := episodes.flatMap Episode.log

/-! ### Runs on a store -/

section
variable {rest : Host (StateM τ)} {x y : Scene (Store × τ)}

theorem Sends.answered {r : Request} {nonce : String} {token : Option String} {outcome : Outcome}
    (sent : Sends rest.withStore x r nonce token outcome y) :
    (Interaction.submitted r token outcome).AnsweredBy x.around.1 ∧
      (Interaction.submitted r token outcome).replay x.around.1 = y.around.1 :=
  Prod.ext_iff.mp sent.store_eq

/-- What passes on the course of a plan is what the store answers, and all that happens to it. -/
theorem Course.answered {p : Plan α} {log : List Interaction} {result : Except OperationError α}
    (hc : Course rest.withStore p x log result y) :
    x.around.1.Answered log ∧ x.around.1.after log = y.around.1 := by
  induction hc with
  | done | fail => exact ⟨trivial, rfl⟩
  | accepted sent _ ih =>
    obtain ⟨hanswer, hstore⟩ := sent.answered
    rw [← hstore] at ih
    exact ⟨⟨trivial, hanswer, ih.1⟩, ih.2⟩
  | refused sent =>
    obtain ⟨hanswer, hstore⟩ := sent.answered
    exact ⟨⟨trivial, hanswer, trivial⟩, hstore⟩
  | fetched read _ ih =>
    obtain ⟨-, rfl⟩ := Prod.mk.inj read
    exact ⟨⟨trivial, ih.1⟩, ih.2⟩
  | unreadable read =>
    obtain ⟨-, rfl⟩ := Prod.mk.inj read
    exact ⟨⟨trivial, trivial⟩, rfl⟩
  | changed _ ih => exact ih

theorem Asks.answered {nonce : String} {token : Option String}
    {answer : Except Refusal (Option Identity)}
    (asks : Asks rest.withStore x nonce token answer y) :
    (Interaction.probed token answer).AnsweredBy x.around.1 ∧
      (Interaction.probed token answer).replay x.around.1 = y.around.1 := by
  obtain ⟨w, hnonce, hprobe⟩ := asks.probe_eq
  obtain ⟨-, rfl⟩ := Prod.mk.inj hnonce
  obtain ⟨hanswer, haround⟩ := Prod.mk.inj hprobe
  exact ⟨hanswer, congrArg Prod.fst haround⟩

/-- Announcements do not touch the store. -/
theorem Scene.told_store (x : Scene (Store × τ)) (outcome : ProbeOutcome) :
    (x.told rest.withStore outcome).around.1 = x.around.1 := by
  cases outcome <;> rfl

/-- Events leave a store as it is. -/
theorem Store.answered_announced (s : Store) (events : List Event) :
    s.Answered (events.map .announced) ∧ s.after (events.map .announced) = s := by
  induction events with
  | nil => exact ⟨trivial, rfl⟩
  | cons e events ih => exact ⟨⟨trivial, ih.1⟩, ih.2⟩

/-- Whatever occurs with a store, its log tells the answers of the store and all that happened to
it. -/
theorem Occurs.answered {e : Episode} (occurs : Occurs rest.withStore x e y) :
    x.around.1.Answered e.log ∧ x.around.1.after e.log = y.around.1 := by
  cases occurs with
  | @performed op log result y course =>
    obtain ⟨hlog, hafter⟩ := course.answered
    refine ⟨⟨trivial, (Store.answered_append _ _ _).mpr ⟨hlog, trivial, trivial⟩⟩, ?_⟩
    show Store.after _ (log ++ [_]) = _
    rw [Store.after_append]
    exact hafter
  | cleared | challenged => exact ⟨trivial, rfl⟩
  | @inquired q nonce token answer y asked =>
    obtain ⟨hanswer, hstore⟩ := asked.answered
    obtain ⟨hevents, hafter⟩ := y.around.1.answered_announced
      (y.probed token answer).1.event?.toList
    rw [← hstore] at hevents hafter
    refine ⟨⟨trivial, hanswer, hevents⟩, ?_⟩
    rw [Scene.told_store]
    exact hafter.trans hstore
  | inquiredQuietly asked =>
    obtain ⟨hanswer, hstore⟩ := asked.answered
    exact ⟨⟨trivial, hanswer, trivial⟩, hstore⟩
  | tokenMade drawn made =>
    obtain ⟨-, rfl⟩ := Prod.mk.inj drawn
    exact ⟨⟨trivial, trivial⟩, rfl⟩

/-- The episodes so far have made of the store `s` what it is, and what is on the clipboard was
queued by them. -/
structure RanFrom (s : Store) (past : List Episode) (x : Scene (Store × τ)) : Prop where
  queued : AllQueued past x.client
  answered : s.Answered (logOf past)
  store_eq : s.after (logOf past) = x.around.1

theorem RanFrom.step {s : Store} {past : List Episode} {e : Episode} (ran : RanFrom s past x)
    (occurs : Occurs rest.withStore x e y) : RanFrom s (past ++ [e]) y := by
  obtain ⟨hlog, hafter⟩ := occurs.answered
  have hlogs : logOf (past ++ [e]) = logOf past ++ e.log := by
    rw [logOf, List.flatMap_append, List.flatMap_singleton, logOf]
  refine ⟨ran.queued.step occurs, ?_, ?_⟩
  · rw [hlogs, Store.answered_append, ran.store_eq]
    exact ⟨ran.answered, hlog⟩
  · rw [hlogs, Store.after_append, ran.store_eq]
    exact hafter

theorem RanFrom.startingIn (directory : String) (s : Store) (t : τ) :
    RanFrom s [] ⟨.startingIn directory, (s, t)⟩ :=
  ⟨AllQueued.startingIn directory, trivial, rfl⟩

/-- Replaying what passed in a run gives the store that the run leaves. -/
theorem after_run (rest : Host (StateM τ)) (directory : String) (s : Store) (t : τ)
    (actions : List Action) :
    s.after (logOf (run rest.withStore actions ⟨.startingIn directory, (s, t)⟩).1) =
      (run rest.withStore actions ⟨.startingIn directory, (s, t)⟩).2.around.1 := by
  have ran := run_scene_invariant_end rest.withStore (P := RanFrom s)
    (fun ran occurs => ran.step occurs) actions _ [] (RanFrom.startingIn directory s t)
  exact ran.store_eq

end

/-! ### Pastes of what was cut -/

/-- A paste deletes nothing but the origin of what waited longest, if that was cut. -/
def PastesCut (w : Workspace) (_ : List Interaction) (r : Request) : Prop :=
  ∀ source, r = .delete source → ∃ clipping, clipping.isCut = true ∧
    w.clipboard.Offers clipping source clipping.content

theorem planPaste_pastesCut (w : Workspace) (past : List Interaction) :
    (Operation.planPaste w).Meets (PastesCut w) (fun _ _ _ _ => True) past w := by
  unfold Operation.planPaste
  split
  · exact .done fun _ => trivial
  · rename_i clipping rest hdequeue
    refine .change (.submit (fun _ source hr => by cases hr) (fun _ _ _ _ => trivial)
      fun nonce token receipt => ?_)
    split
    · rename_i source hcut horigin
      split_ifs with hsame
      · exact .done fun _ => trivial
      · refine .submit (fun _ source' hr => ?_) (fun _ _ _ _ => trivial)
          fun _ _ _ => .done fun _ => trivial
        obtain rfl : source = source' := by injection hr
        exact ⟨clipping, hcut, ⟨rest, hdequeue⟩, horigin, rfl⟩
    · exact .done fun _ => trivial

/-- What waited longest waited alone in front. -/
theorem Clipboard.Offers.clipping_eq {b : Clipboard} {clipping clipping' : Clipping}
    {source source' : String} {content content' : Payload}
    (offers : b.Offers clipping source content) (offers' : b.Offers clipping' source' content') :
    clipping' = clipping := by
  obtain ⟨rest, hrest⟩ := offers.oldest
  obtain ⟨rest', hrest'⟩ := offers'.oldest
  rw [hrest] at hrest'
  exact (Prod.mk.inj (Option.some.inj hrest')).1.symm

/-- After `earlier` episodes a paste, in which `before` has passed, has written the content of a
clipping to another place than its origin `source`, where an earlier cut had read it; `since` is
all that has passed after that reading. -/
structure CutAndPasted (earlier : List Episode) (before : List Interaction) (clipping : Clipping)
    (source : String) (since : List Interaction) : Prop where
  isCut : clipping.isCut = true
  origin_eq : clipping.origin = some source
  written : ∃ start destination token receipt tail, destination ≠ source ∧
    before = start ++
      .submitted (.write destination (some clipping.content)) token (.ok receipt) :: tail
  read : ∃ past cut between first token last, earlier = past ++ cut :: between ∧
    cut.Queues clipping ∧
    cut.log = first ++ .submitted (.read source) token (.ok clipping.content) :: last ∧
    since = last ++ logOf between ++ before

/-- A paste that deletes has cut and pasted. -/
theorem Occurs.cutAndPasted {h : Host (StateM σ)} {x y : Scene σ} {earlier : List Episode}
    {e : Episode} {before after : List Interaction} {source : String} {token : Option String}
    {outcome : Outcome} (occurs : Occurs h x e y) (hqueued : AllQueued earlier x.client)
    (hop : e.action = .perform .paste)
    (hlog : e.log = before ++ .submitted (.delete source) token outcome :: after) :
    ∃ clipping since, CutAndPasted earlier before clipping source since := by
  obtain ⟨clipping, hcut, offers⟩ :=
    occurs.request_of_meets hop (planPaste_pastesCut x.client.workspace _) hlog source rfl
  obtain ⟨start, tail, destination, content, token', receipt, hne, hbefore, clipping', offers'⟩ :=
    occurs.request_of_meets hop (plan_deletes .paste x.client.workspace _) hlog rfl source rfl
  obtain rfl := offers.clipping_eq offers'
  obtain rfl := offers'.content_eq
  obtain ⟨cut, hmem, queues⟩ := hqueued _ offers.mem
  obtain ⟨past, between, hearlier⟩ := List.append_of_mem hmem
  obtain ⟨source', horigin, token'', hread⟩ := queues.fetched
  obtain rfl : source = source' := Option.some.inj (offers.origin_eq.symm.trans horigin)
  obtain ⟨first, last, hsplit⟩ := List.append_of_mem hread
  exact ⟨clipping', _, hcut, horigin, ⟨start, destination, token', receipt, tail, hne, hbefore⟩,
    past, cut, between, first, token'', last, hearlier, queues, hsplit, rfl⟩

/-- All that has passed before a paste deletes, as what passed before the reading of the cut, that
reading, and what has passed since. -/
theorem CutAndPasted.split {earlier : List Episode} {before since : List Interaction}
    {clipping : Clipping} {source : String}
    (pasted : CutAndPasted earlier before clipping source since) :
    ∃ log token, logOf earlier ++ before =
      log ++ .submitted (.read source) token (.ok clipping.content) :: since := by
  obtain ⟨past, cut, between, first, token, last, rfl, -, hcut, rfl⟩ := pasted.read
  refine ⟨logOf past ++ first, token, ?_⟩
  rw [logOf, List.flatMap_append, List.flatMap_cons, hcut]
  simp [logOf]

/-- **Cut and paste**: when a paste removes the file that was cut, it has before that written
elsewhere what the cut read there.  That is the content of the removed file, unless other content
was stored there in between: then the content that was stored last is removed.  No other file is
removed. -/
theorem paste_removes (rest : Host (StateM τ)) (directory : String) (s : Store) (t : τ)
    (actions : List Action) {earlier later : List Episode} {e : Episode}
    {before after : List Interaction} {source : String} {token : Option String}
    {receipt : Payload} {removed : ByteArray}
    (hrun : (run rest.withStore actions ⟨.startingIn directory, (s, t)⟩).1 =
      earlier ++ e :: later)
    (hop : e.action = .perform .paste)
    (hlog : e.log = before ++ .submitted (.delete source) token (.ok receipt) :: after)
    (hfile : (s.after (logOf earlier ++ before)).file? source = some removed) :
    ∃ clipping since, CutAndPasted earlier before clipping source since ∧
      removed = (lastStored? source since).getD clipping.content.data ∧
      ∀ path, (s.after (logOf earlier ++ before ++
          [.submitted (.delete source) token (.ok receipt)])).file? path =
        if path = source then none else (s.after (logOf earlier ++ before)).file? path := by
  obtain ⟨x, y, occurs, ran⟩ := run_scene_invariant rest.withStore (P := RanFrom s)
    (fun ran occurs => ran.step occurs) actions _ [] (RanFrom.startingIn directory s t) hrun
  rw [List.nil_append] at ran
  have hanswered : s.Answered
      (logOf earlier ++ before ++ .submitted (.delete source) token (.ok receipt) :: after) := by
    have hepisode := occurs.answered.1
    rw [hlog, ← ran.store_eq] at hepisode
    rw [List.append_assoc]
    exact (Store.answered_append _ _ _).mpr ⟨ran.answered, hepisode⟩
  obtain ⟨clipping, since, pasted⟩ := occurs.cutAndPasted ran.queued hop hlog
  refine ⟨clipping, since, pasted, ?_, Store.file?_after_delete hanswered hfile⟩
  obtain ⟨log, readToken, hsplit⟩ := pasted.split
  have hbefore := ((Store.answered_append _ _ _).mp hanswered).1
  rw [hsplit] at hbefore hfile
  exact Store.file?_after_read hbefore hfile

/-- A store with the files `a` and `b/x`. -/
def twoFiles : Store := (Store.empty.insertFile "/a" ⟨#[49]⟩).insertFile "/b/x" .empty

/-- The file `a` is cut, then stored anew, and then pasted in the directory `b`. -/
def storedBeforePaste : List Action :=
  [.perform (.copy "a" none true), .perform (.uploadBytes "a" ⟨#[50]⟩),
    .perform (.changeDirectory "b"), .perform .paste]

/-- What passes before the paste deletes: it writes what was cut. -/
def writtenBeforeDelete : List Interaction :=
  [.announced (.began 4 .paste), .drew "0",
    .submitted (.write "/b/a" (some ⟨⟨#[49]⟩, some "application/octet-stream"⟩)) none
      (.ok (Store.writeReceipt "/b/a")), .drew "0"]

/-- What was stored after the cut is what is removed. -/
theorem paste_removes_of_stored :
    let h := (Host.constant (.ok .empty) (.ok none)).withStore
    ∃ earlier e after,
      (run h storedBeforePaste ⟨.startingIn "/", (twoFiles, ())⟩).1 = earlier ++ [e] ∧
      e.log = writtenBeforeDelete ++ .submitted (.delete "/a") none (.ok .empty) :: after ∧
      ∃ clipping since, CutAndPasted earlier writtenBeforeDelete clipping "/a" since ∧
        ⟨#[50]⟩ = (lastStored? "/a" since).getD clipping.content.data := by
  intro h
  obtain ⟨earlier, e, after, hrun, hop, hlog, hfile⟩ : ∃ earlier e after,
      (run h storedBeforePaste ⟨.startingIn "/", (twoFiles, ())⟩).1 = earlier ++ e :: [] ∧
        e.action = .perform .paste ∧
        e.log = writtenBeforeDelete ++ .submitted (.delete "/a") none (.ok .empty) :: after ∧
        (twoFiles.after (logOf earlier ++ writtenBeforeDelete)).file? "/a" = some ⟨#[50]⟩ :=
    ⟨[_, _, _], _, [.announced (.completed 4 .paste)], rfl, rfl, by decide +kernel,
      by decide +kernel⟩
  obtain ⟨clipping, since, pasted, hremoved, -⟩ := paste_removes _ _ _ _ _ hrun hop hlog hfile
  exact ⟨earlier, e, after, hrun, hlog, clipping, since, pasted, hremoved⟩

/-- What a paste removes need not be what it has just written. -/
theorem paste_removes_written_not :
    ¬∀ (s : Store) (actions : List Action) (earlier later : List Episode) (e : Episode)
      (start tail after : List Interaction) (source destination : String)
      (content receipt receipt' : Payload) (token token' : Option String) (removed : ByteArray),
      let h := (Host.constant (.ok .empty) (.ok none)).withStore
      let before := start ++
        .submitted (.write destination (some content)) token (.ok receipt) :: tail
      (run h actions ⟨.startingIn "/", (s, ())⟩).1 = earlier ++ e :: later →
      e.action = .perform .paste →
      e.log = before ++ .submitted (.delete source) token' (.ok receipt') :: after →
      (s.after (logOf earlier ++ before)).file? source = some removed →
      removed = content.data := by
  intro hall
  have hequal := hall twoFiles storedBeforePaste [_, _, _] [] _
    [.announced (.began 4 .paste), .drew "0"] [.drew "0"] [.announced (.completed 4 .paste)]
    "/a" "/b/a" ⟨⟨#[49]⟩, some "application/octet-stream"⟩ (Store.writeReceipt "/b/a") .empty
    none none ⟨#[50]⟩ rfl rfl (by decide +kernel) (by decide +kernel)
  exact absurd hequal (by decide)

end RemoteFiles
