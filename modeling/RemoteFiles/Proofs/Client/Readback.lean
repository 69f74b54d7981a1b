import RemoteFiles.Proofs.Client.Places
import RemoteFiles.Proofs.Client.Relocation
import RemoteFiles.Proofs.Listing.Encoding
import RemoteFiles.Proofs.Service.Removal

/-!
# What was written is read back

On an open store, a client that has uploaded bytes under a name gets them back under that name, and
every other file is as it was; a client that has copied a file to a name gets the content of the
file there, whether or not the file was cut.  If the name is plain, the listing of the working
directory shows it as a file with its size (`writes_read_back`).

A write is accepted only if the directory of its target is there (`parentKey_mem_of_write`), and so
the directory is there to be listed.  From then on nothing depends on how the file came to be where
it is: `Scene.shows` says what is seen of any file by its name.  On the way to the listing, the path
of the file is cut back to its name (`childName?_append`), written as JSON and read again.
-/

namespace RemoteFiles

variable {τ : Type}

/-! ### Listings of a store -/

namespace Store

variable {s s' : Store} {dir name target : String} {data : ByteArray} {token : Option String}

/-- Behind the path of its directory, a plain name is the name of a child. -/
theorem childName?_append (dir : String) (plain : Path.IsPlain name.toList) :
    childName? dir (dir ++ name) = some name := by
  have hbelow : isBelow dir (dir ++ name) = true := by
    rw [isBelow, String.toList_append, List.isPrefixOf_iff_prefix]
    exact List.prefix_append _ _
  have hrest : (dir ++ name).toList.drop dir.length = name.toList := by
    rw [String.toList_append, ← String.length_toList, List.drop_left]
  have hname : (name.toList.reverse.dropWhile (· == '/')).reverse = name.toList := by
    have hdrop := Path.IsTarget.dropWhile_of_plain plain.reverse []
    rw [List.append_nil] at hdrop
    rw [hdrop, List.reverse_reverse]
  have hchild : ¬(name.toList = [] ∨ name.toList.contains '/' = true) := by
    rw [not_or, List.contains_iff_mem]
    exact ⟨plain.ne_nil, plain.no_slash⟩
  simp only [childName?, if_pos hbelow, hrest, hname]
  rw [if_neg hchild, String.ofList_toList]

/-- The entry for a file of some size. -/
def fileEntry (name : String) (size : Nat) : Entry :=
  ⟨name, some (toString size ++ " B"), some fileCode, none⟩

/-- A file with a plain name is shown in its directory. -/
theorem fileEntry_mem_listing (plain : Path.IsPlain name.toList)
    (hdata : s.file? (dir ++ name) = some data) :
    fileEntry name data.size ∈ (s.listing dir).entries := by
  obtain ⟨before, after, hfiles, -⟩ := List.lookup_eq_some_iff.mp hdata
  have hmem : (dir ++ name, data) ∈ s.files := by
    rw [hfiles]
    exact List.mem_append_right before List.mem_cons_self
  -- in a listing, the files stand behind the directories
  refine List.mem_append_right _ (List.mem_filterMap.mpr ⟨_, hmem, ?_⟩)
  simp only [childName?_append dir plain, Option.map_some, fileEntry]

/-- Where there is no file, a directory is read as its listing. -/
theorem IsOpen.submit_read_directory (h : s.IsOpen) (hnone : s.file? target = none)
    (hmem : directoryKey target ∈ s.directories) (token : Option String) :
    (s.submit (.read target) token).1 =
      .ok ⟨(s.listing (directoryKey target)).toJson, some jsonContentType⟩ := by
  rw [submit, h.receive_eq]
  rw [file?] at hnone
  simp only [carryOut, contentOf, file?, hnone, hasDirectory, List.contains_iff_mem.mpr hmem,
    if_true]
  rfl

/-! ### Stored files -/

/-- In an open store, there is a file with this content in a directory of the store. -/
structure Stores (s : Store) (target : String) (data : ByteArray) : Prop where
  isOpen : s.IsOpen
  file_eq : s.file? target = some data
  parent : parentKey target ∈ s.directories

/-- What is written is in a directory of the store. -/
theorem parentKey_mem_of_write {content : Option Payload} {body : Payload}
    (h : s.submit (.write target content) token = (.ok body, s')) :
    parentKey target ∈ s.directories := by
  have hcarried := isOk_carryOut_of_accepted h
  by_contra hparent
  have hcontains : s.directories.contains (parentKey target) = false :=
    Bool.eq_false_iff.mpr fun hcontains => hparent (List.contains_iff_mem.mp hcontains)
  simp only [carryOut, store, hcontains] at hcarried
  exact Bool.false_ne_true hcarried

theorem stores_of_write {content body : Payload} (hopen : s.IsOpen)
    (h : s.submit (.write target (some content)) token = (.ok body, s')) :
    s'.Stores target content.data where
  isOpen := hopen.of_submit h
  file_eq := by rw [file?_of_write h, if_pos rfl]
  parent := by
    rw [directories_of_accepted h (by simp) (by simp)]
    exact parentKey_mem_of_write h

/-- When another file is deleted, it stays. -/
theorem Stores.of_delete {source : String} {body : Payload} (stores : s.Stores target data)
    (hsource : (s.file? source).isSome) (hne : target ≠ source)
    (h : s.submit (.delete source) token = (.ok body, s')) : s'.Stores target data where
  isOpen := stores.isOpen.of_submit h
  file_eq := by rw [(withoutFile_of_delete h hsource).files, if_neg hne, stores.file_eq]
  parent := by
    rw [(withoutFile_of_delete h hsource).directories_eq]
    exact stores.parent

end Store

/-- In normal form, the path of a directory ends with a slash. -/
theorem Path.IsNormalDirectory.directoryKey_eq {dir : String} (h : IsNormalDirectory dir) :
    Store.directoryKey dir = dir := by
  obtain ⟨names, -, hdir⟩ := h
  rw [Store.directoryKey, if_pos]
  rw [hdir, behindSlashes_append]
  simp

/-! ### What is seen of a file -/

namespace Scene

/-- What an operation gives, and the scene after it. -/
def perform {σ : Type} (h : Host (StateM σ)) (op : Operation) (x : Scene σ) :
    Except OperationError op.Result × Scene σ :=
  let out := Client.perform h op x.client x.around
  (out.1.1, ⟨out.1.2, out.2⟩)

/-- In the directory where the client stands, a file with this content is seen under a name: the
content comes back, and unless a file stands in the way of the directory itself, a plain name is
listed as a file of this size. -/
structure Shows (h : Host (StateM (Store × τ))) (y : Scene (Store × τ)) (directory name : String)
    (data : ByteArray) : Prop where
  directory_eq : y.client.directory = directory
  download : (y.perform h (.download name)).1 = .ok data
  listed : Path.IsPlain name.toList → y.around.1.file? directory = none →
    ∃ entries, (y.perform h (.list none)).1 = .ok entries ∧
      Store.fileEntry name data.size ∈ entries

variable {rest : Host (StateM τ)} {x y : Scene (Store × τ)} {directory name : String}
  {data : ByteArray}

theorem exists_perform {σ : Type} (h : Host (StateM σ)) (op : Operation) (x : Scene σ) :
    ∃ log result z, Course h (op.plan x.client.workspace) (x.begun h op) log result z ∧
      x.perform h op = (result, z.announced h (.settled x.client.nextId op.kind result)) := by
  obtain ⟨log, result, z, course, plain, -⟩ := exists_performed h op x
  refine ⟨log, result, z, course, ?_⟩
  rw [perform, plain]
  rfl

/-- A stored file is downloaded by its name. -/
theorem perform_download (stores : y.around.1.Stores (Path.join y.client.directory name) data) :
    (y.perform rest.withStore (.download name)).1 = .ok data := by
  obtain ⟨log, result, z, course, hperform⟩ := y.exists_perform rest.withStore (.download name)
  obtain ⟨token, log', y', -, -, later⟩ :=
    course.of_accepted (stores.isOpen.submit_read stores.file_eq)
  rw [hperform]
  exact later.of_done.1

/-- The working directory is listed as the store has it. -/
theorem perform_list (hopen : y.around.1.IsOpen)
    (hnormal : Path.IsNormalDirectory y.client.directory)
    (hnone : y.around.1.file? y.client.directory = none)
    (hmem : y.client.directory ∈ y.around.1.directories) :
    (y.perform rest.withStore (.list none)).1 =
      .ok (y.around.1.listing y.client.directory).entries := by
  obtain ⟨log, result, z, course, hperform⟩ := y.exists_perform rest.withStore (.list none)
  have hkey := hnormal.directoryKey_eq
  have hread := hopen.submit_read_directory hnone (hkey.symm ▸ hmem)
  rw [hkey] at hread
  obtain ⟨token, log', y', -, -, later⟩ := course.of_accepted hread
  simp only [Listing.ofJson_toJson] at later
  rw [hperform]
  exact later.of_done.1

/-- Whatever is stored at the path of a name is seen by the name. -/
theorem shows (hnormal : Path.IsNormalDirectory directory)
    (hdirectory : y.client.directory = directory)
    (stores : y.around.1.Stores (Path.join directory name) data) :
    y.Shows rest.withStore directory name data where
  directory_eq := hdirectory
  download := perform_download (hdirectory ▸ stores)
  listed plain hnone := by
    -- a plain name is right inside the directory, which is there because it holds a file
    obtain ⟨hopen, hdata, hparent⟩ := stores
    rw [hnormal.join_of_isPlain plain] at hdata hparent
    rw [hnormal.parentKey_append plain] at hparent
    subst hdirectory
    exact ⟨_, perform_list hopen hnormal hnone hparent, Store.fileEntry_mem_listing plain hdata⟩

end Scene

/-! ### Uploads and copies -/

section
variable {rest : Host (StateM τ)} {x z : Scene (Store × τ)} {log : List Interaction}
  {directory name : String} {data : ByteArray}

/-- A write as the last step of a plan, when it is completed, has stored its content and nothing
else. -/
theorem Course.of_finish_write {α : Type} {target : String} {content : Payload} {a a' : α}
    (hc : Course rest.withStore (Operation.finish (.write target (some content)) a) x log (.ok a')
      z) (hopen : x.around.1.IsOpen) :
    z.client.workspace = x.client.workspace ∧ z.around.1.Stores target content.data ∧
      ∀ path, path ≠ target → z.around.1.file? path = x.around.1.file? path := by
  cases hc with
  | accepted written later =>
    obtain ⟨-, rfl⟩ := later.of_done
    refine ⟨written.workspace_eq, Store.stores_of_write hopen written.store_eq,
      fun path hpath => ?_⟩
    rw [Store.file?_of_write written.store_eq, if_neg hpath]

/-- A completed copy of a file to a name has stored the content of the file there. -/
theorem Course.of_copy {source : String} {isCut : Bool}
    (hc : Course rest.withStore (Operation.planCopy directory source (some name) isCut) x log
      (.ok ()) z) (hopen : x.around.1.IsOpen)
    (hdata : x.around.1.file? (Path.join directory source) = some data) :
    z.client.workspace = x.client.workspace ∧
      z.around.1.Stores (Path.join directory name) data := by
  -- only the two paths matter from here on
  simp only [Operation.planCopy] at hc
  generalize Path.join directory source = source at hc hdata
  generalize Path.join directory name = destination at hc ⊢
  cases hc with
  | @accepted _ _ _ _ _ _ content y₁ _ _ _ read later =>
    have hcontent : content.data = data := Store.data_of_read read.store_eq hdata
    cases later with
    | @accepted _ _ _ _ _ _ _ y₂ _ _ _ written later =>
      have stores := Store.stores_of_write (hopen.of_submit read.store_eq) written.store_eq
      rw [hcontent] at stores
      have hworkspace := written.workspace_eq.trans read.workspace_eq
      split at later
      · -- what is deleted is the file that was read, since the write went elsewhere
        rename_i hcut
        have hsource : (y₂.around.1.file? source).isSome := by
          rw [Store.file?_of_write written.store_eq, if_neg hcut.2.symm,
            Store.file?_of_read read.store_eq]
          exact Option.isSome_of_eq_some hdata
        cases later with
        | accepted deleted later =>
          obtain ⟨-, rfl⟩ := later.of_done
          exact ⟨deleted.workspace_eq.trans hworkspace,
            stores.of_delete hsource hcut.2 deleted.store_eq⟩
      · obtain ⟨-, rfl⟩ := later.of_done
        exact ⟨hworkspace, stores⟩

/-- **Reading back**: after every run of a client, as long as nothing but its tree decides about
requests to the store, and for all names and bytes: when bytes were uploaded under a name, they are
seen under that name, and no other file has changed; and when a file was copied to a name, its
content is seen under that name, even if the file was cut. -/
theorem writes_read_back (rest : Host (StateM τ)) (directory : String) (s : Store) (t : τ)
    (actions : List Action) (name : String)
    (hopen : (run rest.withStore actions ⟨.startingIn directory, (s, t)⟩).2.around.1.IsOpen) :
    let x := (run rest.withStore actions ⟨.startingIn directory, (s, t)⟩).2
    (∀ data, let out := x.perform rest.withStore (.uploadBytes name data)
      out.1 = .ok () → out.2.Shows rest.withStore x.client.directory name data ∧
        ∀ path, path ≠ Path.join x.client.directory name →
          out.2.around.1.file? path = x.around.1.file? path) ∧
    ∀ source isCut data, let out := x.perform rest.withStore (.copy source (some name) isCut)
      out.1 = .ok () → x.around.1.file? (Path.join x.client.directory source) = some data →
        out.2.Shows rest.withStore x.client.directory name data := by
  intro x
  have hnormal : Path.IsNormalDirectory x.client.directory :=
    (run_invariant_end rest.withStore (P := fun _ c => c.workspace.IsNormal)
      (fun hx occurs => occurs.isNormal hx) actions ⟨.startingIn directory, (s, t)⟩ []
      (Client.isNormal_startingIn directory)).directory
  refine ⟨fun data => ?_, fun source isCut data => ?_⟩
  · obtain ⟨log, result, z, course, hperform⟩ :=
      x.exists_perform rest.withStore (.uploadBytes name data)
    rw [hperform]
    rintro out rfl
    obtain ⟨hworkspace, stores, hothers⟩ := Course.of_finish_write course hopen
    exact ⟨Scene.shows hnormal (congrArg Workspace.directory hworkspace) stores, hothers⟩
  · obtain ⟨log, result, z, course, hperform⟩ :=
      x.exists_perform rest.withStore (.copy source (some name) isCut)
    rw [hperform]
    rintro out rfl hdata
    obtain ⟨hworkspace, stores⟩ := Course.of_copy course hopen hdata
    exact Scene.shows hnormal (congrArg Workspace.directory hworkspace) stores

/-- A name with a quotation mark and a line break goes into the listing and out of it again, and a
file that is cut is found under a winding name. -/
theorem writes_read_back_of_quoted :
    let rest := Host.constant (.ok .empty) (.ok none)
    let s := Store.empty.insertFile "/d/x" ⟨#[49]⟩
    let x := (run rest.withStore [.perform (.changeDirectory "d")] ⟨.startingIn "/", (s, ())⟩).2
    let y := (x.perform rest.withStore (.uploadBytes "\"\n" ⟨#[50, 51]⟩)).2
    let z := (x.perform rest.withStore (.copy "x" (some "é/../y") true)).2
    x.around.1.IsOpen ∧ y.Shows rest.withStore "/d/" "\"\n" ⟨#[50, 51]⟩ ∧
      y.around.1.file? "/d/x" = some ⟨#[49]⟩ ∧
      (∃ entries, (y.perform rest.withStore (.list none)).1 = .ok entries ∧
        ⟨"\"\n", some "2 B", some 8, none⟩ ∈ entries) ∧
      z.Shows rest.withStore "/d/" "é/../y" ⟨#[49]⟩ ∧ z.around.1.file? "/d/x" = none := by
  intro rest s x y z
  have hopen : x.around.1.IsOpen := ⟨by decide +kernel, by decide +kernel⟩
  have hdirectory : x.client.directory = "/d/" := by decide +kernel
  obtain ⟨hupload, -⟩ := writes_read_back rest "/" s () [.perform (.changeDirectory "d")] "\"\n"
    hopen
  obtain ⟨-, hcopy⟩ := writes_read_back rest "/" s () [.perform (.changeDirectory "d")] "é/../y"
    hopen
  obtain ⟨hy, hothers⟩ := hupload ⟨#[50, 51]⟩ (by decide +kernel)
  have hz := hcopy "x" true ⟨#[49]⟩ (by decide +kernel) (by decide +kernel)
  have hlisted := hy.listed (Path.isPlain_toList_iff.mpr (by decide)) (by decide +kernel)
  rw [hdirectory] at hy hz
  refine ⟨hopen, hy, ?_, hlisted, hz, by decide +kernel⟩
  exact (hothers "/d/x" (by decide +kernel)).trans (by decide +kernel)

end

end RemoteFiles
