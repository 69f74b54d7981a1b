import RemoteFiles.Proofs.Client.Run
import RemoteFiles.Proofs.Service.Files

/-!
# Moves in a store

What a completed move does to the files of a store in memory, for every store, every client and
every pair of names (`Course.moved`).  A move reads, writes and deletes one target, and the store
answers the reading of a directory with a listing and deletes a directory with all that is in it.
So a move of a file loses no content, but a move of a directory loses every file in it
(`move_keeps_iff`).
-/

namespace RemoteFiles

variable {σ τ α : Type}

/-! ### Hosts with a store -/

/-- Does something with the store. -/
def Store.alone (act : StateM Store α) : StateM (Store × τ) α :=
  fun w => ((act w.1).1, ((act w.1).2, w.2))

/-- Does something beside the store. -/
def Store.beside (act : StateM τ α) : StateM (Store × τ) α :=
  fun w => ((act w.2).1, (w.1, (act w.2).2))

/-- A host whose service is a store, with the local files, nonces and subscribers of another
host. -/
def Host.withStore (rest : Host (StateM τ)) : Host (StateM (Store × τ)) where
  service := Store.service.lift Store.alone
  disk := rest.disk.lift Store.beside
  clientNonce := Store.beside rest.clientNonce
  announce e := Store.beside (rest.announce e)

/-- Requests are answered by a store in the surroundings, which nothing else that an operation does
has to do with. -/
structure Host.ServedBy (h : Host (StateM σ)) (store : σ → Store) : Prop where
  submit_eq : ∀ r token s, (store s).submit r token =
    ((h.service.submit r token s).1, store (h.service.submit r token s).2)
  clientNonce_eq : ∀ s, store (h.clientNonce s).2 = store s
  read_eq : ∀ path s, store (h.disk.read path s).2 = store s
  announce_eq : ∀ e s, store (h.announce e s).2 = store s

theorem Host.withStore_servedBy (rest : Host (StateM τ)) : rest.withStore.ServedBy Prod.fst :=
  ⟨fun _ _ _ => rfl, fun _ => rfl, fun _ _ => rfl, fun _ _ => rfl⟩

/-- A request is answered by the store as it is when the request is sent. -/
theorem Host.ServedBy.sent {h : Host (StateM σ)} {store : σ → Store} (served : h.ServedBy store)
    {x y : Scene σ} {r : Request} {nonce : String} {token : Option String} {outcome : Outcome}
    (sent : Sends h x r nonce token outcome y) :
    (store x.around).submit r token = (outcome, store y.around) := by
  obtain ⟨s, hnonce, hsubmit⟩ := sent.submit_eq
  have hstore := served.clientNonce_eq x.around
  rw [hnonce] at hstore
  rw [← hstore, served.submit_eq, hsubmit]

theorem Sends.store_eq {rest : Host (StateM τ)} {x y : Scene (Store × τ)} {r : Request}
    {nonce : String} {token : Option String} {outcome : Outcome}
    (sent : Sends rest.withStore x r nonce token outcome y) :
    x.around.1.submit r token = (outcome, y.around.1) :=
  rest.withStore_servedBy.sent sent

/-! ### Completed moves -/

/-- A completed move has read, written and deleted. -/
theorem Course.of_move {h : Host (StateM σ)} {source destination : String} {x y : Scene σ}
    {log : List Interaction} (hne : source ≠ destination)
    (hc : Course h (Operation.planMove source destination) x log (.ok ()) y) :
    ∃ n₁ n₂ n₃ t₁ t₂ t₃ content receipt body x₁ x₂,
      Sends h x (.read source) n₁ t₁ (.ok content) x₁ ∧
      Sends h x₁ (.write destination (some content)) n₂ t₂ (.ok receipt) x₂ ∧
      Sends h x₂ (.delete source) n₃ t₃ (.ok body) y := by
  rw [Operation.planMove, if_neg hne] at hc
  cases hc with
  | accepted read rest =>
    cases rest with
    | accepted written rest =>
      cases rest with
      | accepted deleted rest =>
        cases rest
        exact ⟨_, _, _, _, _, _, _, _, _, _, _, read, written, deleted⟩

/-- The files after a completed move of a source to another place, by the files before it. -/
def Store.Moved (s s' : Store) (source destination : String) : Prop :=
  ∃ content : ByteArray, (∀ data, s.file? source = some data → content = data) ∧
    ∀ path, s'.file? path =
      if s.takes source path then none
      else if path = destination then some content
      else s.file? path

theorem Course.moved {rest : Host (StateM τ)} {source destination : String}
    {x y : Scene (Store × τ)} {log : List Interaction} (hne : source ≠ destination)
    (hc : Course rest.withStore (Operation.planMove source destination) x log (.ok ()) y) :
    x.around.1.Moved y.around.1 source destination := by
  obtain ⟨n₁, n₂, n₃, t₁, t₂, t₃, content, receipt, body, x₁, x₂, read, written, deleted⟩ :=
    hc.of_move hne
  have hread := Store.file?_of_read read.store_eq
  have hwrite := Store.file?_of_write written.store_eq
  have hdelete := Store.file?_of_delete deleted.store_eq
  have hsource : x₂.around.1.file? source = x.around.1.file? source := by
    rw [hwrite, if_neg hne, hread]
  refine ⟨content.data, fun data => Store.data_of_read read.store_eq, fun path => ?_⟩
  rw [hdelete, Store.takes_congr hsource, hwrite, hread]

/-- What was stored is still stored: every file but the source and the destination has its
content, and the destination has that of the source. -/
structure Store.Keeps (s s' : Store) (source destination : String) : Prop where
  others : ∀ path data, path ≠ source → path ≠ destination → s.file? path = some data →
    s'.file? path = some data
  moved : source ≠ destination → ∀ data, s.file? source = some data →
    s'.file? destination = some data

theorem Store.Moved.keeps_iff {s s' : Store} {source destination : String}
    (hmoved : s.Moved s' source destination) (hne : source ≠ destination) :
    s.Keeps s' source destination ↔
      (s.file? source).isSome ∨ ∀ path, path ≠ destination → (s.file? path).isSome →
        Store.isBelow (Store.directoryKey source) path = false := by
  obtain ⟨content, hcontent, hfile⟩ := hmoved
  cases hsource : s.file? source with
  | some data =>
    -- the source is a file, and the delete takes it alone
    have htakes : ∀ path, s.takes source path = (path == source) := fun path => by
      rw [Store.takes, hsource]
      rfl
    refine iff_of_true ⟨fun path data' hpath hdestination hdata => ?_, fun _ data' hdata => ?_⟩
      (.inl rfl)
    · rw [hfile, htakes, beq_false_of_ne hpath, if_neg (by simp), if_neg hdestination, hdata]
    · rw [hfile, htakes, beq_false_of_ne hne.symm, if_neg (by simp), if_pos rfl,
        hcontent data' hdata]
  | none =>
    have htakes : ∀ path, s.takes source path =
        Store.isBelow (Store.directoryKey source) path := fun path => by
      rw [Store.takes, hsource]
      rfl
    constructor
    · intro hkeeps
      refine .inr fun path hdestination hsome => ?_
      obtain ⟨data, hdata⟩ := Option.isSome_iff_exists.mp hsome
      have hpath : path ≠ source := by
        rintro rfl
        rw [hsource] at hdata
        cases hdata
      have hkept := hkeeps.others path data hpath hdestination hdata
      rw [hfile, htakes] at hkept
      cases hbelow : Store.isBelow (Store.directoryKey source) path with
      | false => rfl
      | true =>
        rw [hbelow, if_pos rfl] at hkept
        cases hkept
    · rintro (hfalse | hnone)
      · cases hfalse
      · refine ⟨fun path data hpath hdestination hdata => ?_, fun _ data hdata => ?_⟩
        · have hbelow := hnone path hdestination (Option.isSome_of_eq_some hdata)
          rw [hfile, htakes, hbelow, if_neg (by simp), if_neg hdestination, hdata]
        · rw [hsource] at hdata
          cases hdata

/-- **Moves**: a completed move in a store keeps what was stored exactly if its source and its
destination are one, or its source is a file, or no file but the destination is in the directory
that its source names. -/
theorem move_keeps_iff (rest : Host (StateM τ)) (c : Client) (s : Store) (t : τ)
    (oldName newName : String)
    (hok : (Client.perform rest.withStore (.move oldName newName) c (s, t)).1.1 = .ok ()) :
    s.Keeps (Client.perform rest.withStore (.move oldName newName) c (s, t)).2.1
        (Path.join c.directory oldName) (Path.join c.directory newName) ↔
      Path.join c.directory oldName = Path.join c.directory newName ∨
        (s.file? (Path.join c.directory oldName)).isSome ∨
        ∀ path, path ≠ Path.join c.directory newName → (s.file? path).isSome →
          Store.isBelow (Store.directoryKey (Path.join c.directory oldName)) path = false := by
  obtain ⟨log, result, y, course, hperform, -⟩ :=
    exists_performed rest.withStore (.move oldName newName) ⟨c, (s, t)⟩
  have hmove : Client.perform rest.withStore (.move oldName newName) c (s, t) =
      ((result, y.client), _) := hperform
  rw [hmove] at hok ⊢
  obtain rfl : result = .ok () := hok
  have hcourse : Course rest.withStore
      (Operation.planMove (Path.join c.directory oldName) (Path.join c.directory newName)) _ log
      (.ok ()) y := course
  -- the announcement at the end does not touch the store
  show s.Keeps y.around.1 _ _ ↔ _
  generalize Path.join c.directory oldName = source at hcourse ⊢
  generalize Path.join c.directory newName = destination at hcourse ⊢
  by_cases hsame : source = destination
  · refine iff_of_true ?_ (.inl hsame)
    rw [Operation.planMove, if_pos hsame] at hcourse
    cases hcourse
    exact ⟨fun path data _ _ hdata => hdata, fun hne => absurd hsame hne⟩
  · have hmoved : s.Moved y.around.1 source destination := hcourse.moved hsame
    rw [hmoved.keeps_iff hsame]
    exact (or_iff_right hsame).symm

/-- A file that is moved beside another one is kept, and so is the other one. -/
theorem move_keeps_iff_of_file :
    let s := (Store.empty.insertFile "/a" ⟨#[49]⟩).insertFile "/c" ⟨#[50]⟩
    let h := (Host.constant (.ok .empty) (.ok none)).withStore
    (Client.perform h (.move "a" "b") (.startingIn "/") (s, ())).1.1 = .ok () ∧
      s.Keeps (Client.perform h (.move "a" "b") (.startingIn "/") (s, ())).2.1 "/a" "/b" := by
  intro s h
  have hok : (Client.perform h (.move "a" "b") (.startingIn "/") (s, ())).1.1 = .ok () := by
    decide +kernel
  refine ⟨hok, ?_⟩
  have hkeeps := (move_keeps_iff _ _ _ _ _ _ hok).mpr (.inr (.inl (by decide +kernel)))
  exact hkeeps

/-- The directory that is moved here holds a file, and the file is lost. -/
theorem move_of_directory_keeps_not :
    ¬∀ (s : Store) (oldName newName : String),
      let h := (Host.constant (.ok .empty) (.ok none)).withStore
      let c := Client.startingIn "/"
      (Client.perform h (.move oldName newName) c (s, ())).1.1 = .ok () →
        s.Keeps (Client.perform h (.move oldName newName) c (s, ())).2.1
          (Path.join c.directory oldName) (Path.join c.directory newName) := by
  intro hall
  have hkeeps := hall (Store.empty.insertFile "/d/x" ⟨#[49]⟩) "d" "e" (by decide +kernel)
  have hkept := hkeeps.others "/d/x" ⟨#[49]⟩ (by decide +kernel) (by decide +kernel)
    (by decide +kernel)
  exact absurd hkept (by decide +kernel)

end RemoteFiles
