import RemoteFiles.Proofs.Client.Move
import RemoteFiles.Proofs.Path.Joins
import RemoteFiles.Proofs.Service.Effects
import Mathlib.Data.List.TakeWhile

/-!
# Files cut in one directory and pasted in another

On an open store nothing stands in the way of cutting files one after another, changing to another
directory and pasting as often: every operation succeeds, the names come back in the order in which
they were cut, and the files have changed their directory (`cut_paste_relocates`).

Cutting reads, so the store stays as it is and the clippings hold what it held (`answers_cuts`).  A
paste writes the content of the oldest clipping and deletes its origin (`answers_paste`).  What is
written is never the origin of a clipping that still waits, since the directories differ
(`append_ne_append`), and so each paste finds what the next one needs (`answers_pastes`).
-/

namespace RemoteFiles

variable {σ τ α : Type}

/-! ### Names in directories -/

namespace Path

variable {dir other name name' : String}

theorem IsPlain.reverse {name : List Char} (plain : IsPlain name) : IsPlain name.reverse where
  ne_nil := mt List.reverse_eq_nil_iff.mp plain.ne_nil
  ne_dot := mt List.reverse_eq_iff.mp plain.ne_dot
  ne_dots := mt List.reverse_eq_iff.mp plain.ne_dots
  no_slash := mt List.mem_reverse.mp plain.no_slash

theorem IsPlain.forall_ne_slash {name : List Char} (plain : IsPlain name) :
    ∀ c ∈ name, (c != '/') = true := by
  intro c hc
  rw [bne_iff_ne]
  rintro rfl
  exact plain.no_slash hc

/-- A plain name is its own last segment. -/
theorem IsPlain.lastSegment_eq (plain : IsPlain name.toList) :
    Operation.lastSegment name = name := by
  have hdrop := IsTarget.dropWhile_of_plain plain.reverse []
  rw [List.append_nil] at hdrop
  rw [Operation.lastSegment, hdrop,
    List.takeWhile_eq_self_iff.mpr plain.reverse.forall_ne_slash, List.reverse_reverse,
    String.ofList_toList]

namespace IsNormalDirectory

/-- A plain name is in the directory that it is written behind. -/
theorem parentKey_append (h : IsNormalDirectory dir) (plain : IsPlain name.toList) :
    Store.parentKey (dir ++ name) = dir := by
  obtain ⟨names, -, hdir⟩ := h
  -- from its end, the path is the name, then the last slash of the directory
  have hreverse : dir.toList.reverse = '/' :: (behindSlashes names).reverse := by
    rw [hdir, behindSlashes_append, List.reverse_append]
    rfl
  have htrimmed : (dir ++ name).toList.reverse.dropWhile (· == '/') =
      name.toList.reverse ++ dir.toList.reverse := by
    rw [String.toList_append, List.reverse_append]
    exact IsTarget.dropWhile_of_plain plain.reverse _
  have hkey : (name.toList.reverse ++ dir.toList.reverse).dropWhile (· != '/') =
      dir.toList.reverse := by
    rw [List.dropWhile_append_of_pos plain.reverse.forall_ne_slash, hreverse]
    rfl
  simp only [Store.parentKey, htrimmed, hkey]
  rw [hreverse]
  dsimp only
  rw [← hreverse, List.reverse_reverse, String.ofList_toList]

/-- Different directories have no entry in common. -/
theorem append_ne_append (h : IsNormalDirectory dir) (h' : IsNormalDirectory other)
    (hne : dir ≠ other) (plain : IsPlain name.toList) (plain' : IsPlain name'.toList) :
    dir ++ name ≠ other ++ name' := by
  intro heq
  have hparent := congrArg Store.parentKey heq
  rw [h.parentKey_append plain, h'.parentKey_append plain'] at hparent
  exact hne hparent

end IsNormalDirectory

end Path

/-! ### Answers -/

/-- What was asked for and what was replied. -/
abbrev Answer := Σ a : Action, a.Reply

/-- What an episode was asked for and has replied. -/
def Episode.answer (e : Episode) : Answer := ⟨e.action, e.reply⟩

/-- Carried out in the scene `x` one after another, the actions get these replies and leave the
scene `y`. -/
def Answers (h : Host (StateM σ)) (x : Scene σ) (answers : List Answer) (y : Scene σ) : Prop :=
  ∃ episodes, run h (answers.map Sigma.fst) x = (episodes, y) ∧
    episodes.map Episode.answer = answers

namespace Answers

variable {h : Host (StateM σ)} {x y z : Scene σ} {answers more : List Answer}

theorem nil (x : Scene σ) : Answers h x [] x := ⟨[], rfl, rfl⟩

theorem append (first : Answers h x answers y) (rest : Answers h y more z) :
    Answers h x (answers ++ more) z := by
  obtain ⟨episodes, hrun, hanswers⟩ := first
  obtain ⟨episodes', hrun', hanswers'⟩ := rest
  refine ⟨episodes ++ episodes', ?_, by rw [List.map_append, hanswers, hanswers']⟩
  rw [List.map_append, run_append, hrun]
  dsimp only
  rw [hrun']

/-- What is carried out goes the course of its plan. -/
theorem exists_of_perform (h : Host (StateM σ)) (op : Operation) (x : Scene σ) :
    ∃ log result y, Course h (op.plan x.client.workspace) (x.begun h op) log result y ∧
      Answers h x [⟨.perform op, result⟩]
        (y.announced h (.settled x.client.nextId op.kind result)) := by
  obtain ⟨log, result, y, course, -, recorded⟩ := exists_performed h op x
  have hact : Client.act h.recorded (.perform op) x.client ⟨x.around, []⟩ = _ := recorded
  obtain ⟨passed, hepisode⟩ : ∃ passed, episode h (.perform op) x =
      (⟨.perform op, x.client, passed, result, y.client⟩,
        y.announced h (.settled x.client.nextId op.kind result)) :=
    ⟨_, by rw [episode, hact]; rfl⟩
  refine ⟨log, result, y, course, [⟨.perform op, x.client, passed, result, y.client⟩], ?_, rfl⟩
  rw [List.map_singleton, run, hepisode, run]

end Answers

/-! ### Operations on an open store -/

section
variable {rest : Host (StateM τ)} {x z : Scene (Store × τ)}

/-- What is known to be accepted is accepted. -/
theorem Course.of_accepted {r : Request} {undo : Workspace → Workspace} {next : Payload → Plan α}
    {log : List Interaction} {result : Except OperationError α} {body : Payload}
    (hc : Course rest.withStore (.submit r undo next) x log result z)
    (hok : ∀ token, (x.around.1.submit r token).1 = .ok body) :
    ∃ token log' y, x.around.1.submit r token = (.ok body, y.around.1) ∧
      y.client.workspace = x.client.workspace ∧
      Course rest.withStore (next body) y log' result z := by
  cases hc with
  | @accepted _ _ _ _ _ token _ y log' _ _ sent later =>
    have hsubmit := sent.store_eq
    have hbody := hok token
    rw [hsubmit] at hbody
    obtain rfl := Except.ok.inj hbody
    exact ⟨token, log', y, hsubmit, sent.workspace_eq, later⟩
  | @refused _ _ _ _ _ token _ _ sent =>
    have hbody := hok token
    rw [sent.store_eq] at hbody
    cases hbody

/-- What is queued when a file of a directory is cut. -/
def cutFrom (directory name : String) (data : ByteArray) : Clipping :=
  ⟨name, some (directory ++ name), ⟨data, some "application/octet-stream"⟩, true⟩

/-- A file that is there is cut, and the store stays as it is. -/
theorem Course.of_cut {directory name : String} {data : ByteArray} {log : List Interaction}
    {result : Except OperationError Unit}
    (hc : Course rest.withStore (Operation.planCopy directory name none true) x log result z)
    (hdir : Path.IsNormalDirectory directory) (plain : Path.IsPlain name.toList)
    (hopen : x.around.1.IsOpen)
    (hdata : x.around.1.file? (directory ++ name) = some data) :
    result = .ok () ∧
      z.client.workspace = { x.client.workspace with
        clipboard := x.client.clipboard.enqueue (cutFrom directory name data) } ∧
      z.around.1.IsOpen ∧ z.around.1.tree = x.around.1.tree := by
  simp only [Operation.planCopy, hdir.join_of_isPlain plain, plain.lastSegment_eq] at hc
  obtain ⟨token, log', y, hread, hworkspace, later⟩ := hc.of_accepted (hopen.submit_read hdata)
  obtain ⟨rfl, rfl⟩ := later.of_change.of_done
  refine ⟨rfl, ?_, hopen.of_submit hread, Store.tree_of_accepted hread⟩
  rw [Scene.change, hworkspace]
  rfl

/-- What was cut elsewhere is pasted: its content is written and its origin is deleted. -/
theorem Course.of_paste {directory name source : String} {content : Payload}
    {waiting : List Clipping} {log : List Interaction}
    {result : Except OperationError (Option String)}
    (hc : Course rest.withStore
      (Operation.planPaste ⟨directory, ⟨⟨name, some source, content, true⟩ :: waiting⟩⟩) x log
      result z)
    (hdir : Path.IsNormalDirectory directory) (plain : Path.IsPlain name.toList)
    (hopen : x.around.1.IsOpen) (hmem : directory ∈ x.around.1.directories)
    (hsource : (x.around.1.file? source).isSome) (hne : source ≠ directory ++ name) :
    result = .ok (some name) ∧
      z.client.workspace = { x.client.workspace with clipboard := ⟨waiting⟩ } ∧
      z.around.1.IsOpen ∧ z.around.1.directories = x.around.1.directories ∧
      ∀ path, z.around.1.file? path =
        if path = source then none
        else if path = directory ++ name then some content.data
        else x.around.1.file? path := by
  have hparent : Store.parentKey (directory ++ name) ∈ x.around.1.directories := by
    rwa [hdir.parentKey_append plain]
  simp only [Operation.planPaste, Clipboard.dequeue?, hdir.join_of_isPlain plain, if_neg hne] at hc
  obtain ⟨token, log', y, hwrite, hworkspace, later⟩ :=
    hc.of_change.of_accepted (hopen.submit_write hparent content)
  have hwritten := Store.file?_of_write hwrite
  have hopen' : y.around.1.IsOpen := Store.IsOpen.of_submit hopen hwrite
  -- the write goes elsewhere, so what is deleted is still a file
  have hsource' : (y.around.1.file? source).isSome := by
    rw [hwritten, if_neg hne]
    exact hsource
  obtain ⟨token', log'', y', hdelete, hworkspace', later⟩ :=
    later.of_accepted (hopen'.submit_delete hsource')
  obtain ⟨rfl, rfl⟩ := later.of_done
  refine ⟨rfl, ?_, hopen'.of_submit hdelete, ?_, fun path => ?_⟩
  · rw [hworkspace', hworkspace]
    rfl
  · have hkept := Store.directories_of_accepted hwrite (by simp) (by simp)
    refine (Store.directories_of_accepted hdelete (by simp) ?_).trans hkept
    rintro target ⟨⟩
    exact hsource'
  · rw [Store.file?_of_delete hdelete, Store.takes, if_pos hsource', hwritten]
    simp only [beq_iff_eq]
    rfl

end

/-! ### Files that change their directory -/

/-- The files after some have changed their directory, by the files before. -/
structure Store.Relocates (s s' : Store) (old new : String) (names : List String) : Prop where
  arrived : ∀ name ∈ names, s'.file? (new ++ name) = s.file? (old ++ name)
  gone : ∀ name ∈ names, s'.file? (old ++ name) = none
  others : ∀ path, (∀ name ∈ names, path ≠ old ++ name ∧ path ≠ new ++ name) →
    s'.file? path = s.file? path
  directories_eq : s'.directories = s.directories

namespace Store.Relocates

variable {s s' s'' : Store} {old new name : String} {names : List String}
  (hold : Path.IsNormalDirectory old) (hnew : Path.IsNormalDirectory new) (hne : old ≠ new)

theorem nil (s : Store) (old new : String) : s.Relocates s old new [] where
  arrived := List.forall_mem_nil _
  gone := List.forall_mem_nil _
  others _ _ := rfl
  directories_eq := rfl

/-- It is the tree alone that matters. -/
theorem of_tree_eq (htree : s'.tree = s.tree) (r : s'.Relocates s'' old new names) :
    s.Relocates s'' old new names := by
  have hfile := file?_of_tree_eq htree
  have hdirectories : s'.directories = s.directories := congrArg Prod.snd htree
  exact ⟨fun name hname => (r.arrived name hname).trans (hfile _), r.gone,
    fun path hpath => (r.others path hpath).trans (hfile path),
    r.directories_eq.trans hdirectories⟩

include hold hnew hne

/-- Files of other names stay as they are in both directories. -/
theorem kept (r : s.Relocates s' old new names) (hname : name ∉ names)
    (plain : ∀ other ∈ name :: names, Path.IsPlain other.toList) :
    s'.file? (old ++ name) = s.file? (old ++ name) ∧
      s'.file? (new ++ name) = s.file? (new ++ name) := by
  rw [List.forall_mem_cons] at plain
  -- within a directory the names differ, and otherwise the directories do
  have hother : ∀ other ∈ names, ∀ dir : String, dir ++ name ≠ dir ++ other := by
    rintro other hmem dir heq
    rw [(String.append_right_inj dir).mp heq] at hname
    exact hname hmem
  refine ⟨r.others _ fun other hmem => ⟨hother other hmem old, ?_⟩,
    r.others _ fun other hmem => ⟨?_, hother other hmem new⟩⟩
  · exact hold.append_ne_append hnew hne plain.1 (plain.2 other hmem)
  · exact hnew.append_ne_append hold hne.symm plain.1 (plain.2 other hmem)

/-- When one file changes its directory, the others stay where they are. -/
theorem kept_later (first : s.Relocates s' old new [name]) (hnodup : (name :: names).Nodup)
    (plain : ∀ other ∈ name :: names, Path.IsPlain other.toList) :
    ∀ other ∈ names, s'.file? (old ++ other) = s.file? (old ++ other) := by
  obtain ⟨hname, -⟩ := List.nodup_cons.mp hnodup
  rw [List.forall_mem_cons] at plain
  intro other hmem
  have hother : other ∉ [name] := by
    rw [List.mem_singleton]
    rintro rfl
    exact hname hmem
  have hplain : ∀ each ∈ [other, name], Path.IsPlain each.toList := by
    simp [plain.1, plain.2 other hmem]
  exact (first.kept hold hnew hne hother hplain).1

/-- One more file changes its directory before the others do. -/
theorem cons (first : s.Relocates s' old new [name]) (later : s'.Relocates s'' old new names)
    (hnodup : (name :: names).Nodup)
    (plain : ∀ other ∈ name :: names, Path.IsPlain other.toList) :
    s.Relocates s'' old new (name :: names) := by
  have hname : name ∉ names := (List.nodup_cons.mp hnodup).1
  obtain ⟨hgone, harrived⟩ := later.kept hold hnew hne hname plain
  have hlater := first.kept_later hold hnew hne hnodup plain
  refine ⟨List.forall_mem_cons.mpr ⟨?_, fun other hmem => ?_⟩,
    List.forall_mem_cons.mpr ⟨?_, later.gone⟩, fun path hpath => ?_, ?_⟩
  · exact harrived.trans (first.arrived name (List.mem_singleton_self name))
  · exact (later.arrived other hmem).trans (hlater other hmem)
  · exact hgone.trans (first.gone name (List.mem_singleton_self name))
  · rw [List.forall_mem_cons] at hpath
    exact (later.others path hpath.2).trans
      (first.others path (List.forall_mem_singleton.mpr hpath.1))
  · exact later.directories_eq.trans first.directories_eq

end Store.Relocates

/-! ### Answers on an open store -/

section
variable (rest : Host (StateM τ)) {x : Scene (Store × τ)}

/-- The answer to a cut that is queued. -/
def cutAnswer (name : String) : Answer := ⟨.perform (.copy name none true), .ok ()⟩

/-- The answer to a change of the directory. -/
def changeAnswer (path directory : String) : Answer :=
  ⟨.perform (.changeDirectory path), .ok directory⟩

/-- The answer to a paste of what has a name. -/
def pasteAnswer (name : String) : Answer := ⟨.perform .paste, .ok (some name)⟩

theorem answers_change (path : String) :
    ∃ y, Answers rest.withStore x [changeAnswer path (Path.resolve x.client.directory path)] y ∧
      y.client.workspace = { x.client.workspace with
        directory := Path.resolve x.client.directory path } ∧
      y.around.1 = x.around.1 := by
  obtain ⟨log, result, y, course, answers⟩ :=
    Answers.exists_of_perform rest.withStore (.changeDirectory path) x
  obtain ⟨rfl, rfl⟩ := course.of_change.of_done
  exact ⟨_, answers, rfl, rfl⟩

theorem answers_cut {directory name : String} {data : ByteArray}
    (hdir : Path.IsNormalDirectory directory) (hdirectory : x.client.directory = directory)
    (hopen : x.around.1.IsOpen) (plain : Path.IsPlain name.toList)
    (hdata : x.around.1.file? (directory ++ name) = some data) :
    ∃ y, Answers rest.withStore x [cutAnswer name] y ∧
      y.client.workspace = ⟨directory, x.client.clipboard.enqueue (cutFrom directory name data)⟩ ∧
      y.around.1.IsOpen ∧ y.around.1.tree = x.around.1.tree := by
  obtain ⟨log, result, y, course, answers⟩ :=
    Answers.exists_of_perform rest.withStore (.copy name none true) x
  have hcut : Course rest.withStore
      (Operation.planCopy x.client.directory name none true) _ log result y := course
  rw [hdirectory] at hcut
  obtain ⟨rfl, hworkspace, hopen', htree⟩ := hcut.of_cut hdir plain hopen hdata
  refine ⟨_, answers, ?_, hopen', htree⟩
  rw [← hdirectory] at hworkspace ⊢
  exact hworkspace

/-- Files of a directory that are cut wait on the clipboard behind what waited before, and the store
stays as it is. -/
theorem answers_cuts {directory : String} {names : List String} {data : String → ByteArray}
    (hdir : Path.IsNormalDirectory directory) (hdirectory : x.client.directory = directory)
    (hopen : x.around.1.IsOpen) (plain : ∀ name ∈ names, Path.IsPlain name.toList)
    (hdata : ∀ name ∈ names, x.around.1.file? (directory ++ name) = some (data name)) :
    ∃ y, Answers rest.withStore x (names.map cutAnswer) y ∧
      y.client.workspace = ⟨directory,
        ⟨x.client.clipboard.toList ++ names.map fun name => cutFrom directory name (data name)⟩⟩ ∧
      y.around.1.IsOpen ∧ y.around.1.tree = x.around.1.tree := by
  induction names generalizing x with
  | nil =>
    refine ⟨x, Answers.nil x, ?_, hopen, rfl⟩
    rw [List.map_nil, List.append_nil, ← hdirectory]
    rfl
  | cons name names ih =>
    rw [List.forall_mem_cons] at plain hdata
    obtain ⟨y, hcut, hworkspace, hopen', htree⟩ :=
      answers_cut rest hdir hdirectory hopen plain.1 hdata.1
    -- one cut has only read, and the other files are still there
    have hfile := Store.file?_of_tree_eq htree
    obtain ⟨z, hcuts, hworkspace', hopen'', htree'⟩ :=
      ih (congrArg Workspace.directory hworkspace) hopen' plain.2
        fun other hother => (hfile _).trans (hdata.2 other hother)
    refine ⟨z, hcut.append hcuts, ?_, hopen'', htree'.trans htree⟩
    rw [hworkspace', Client.clipboard, hworkspace, Clipboard.toList_enqueue, List.append_assoc]
    rfl

theorem answers_paste {old new name : String} {data : ByteArray} {waiting : List Clipping}
    (hold : Path.IsNormalDirectory old) (hnew : Path.IsNormalDirectory new) (hne : old ≠ new)
    (plain : Path.IsPlain name.toList)
    (hworkspace : x.client.workspace = ⟨new, ⟨cutFrom old name data :: waiting⟩⟩)
    (hopen : x.around.1.IsOpen) (hmem : new ∈ x.around.1.directories)
    (hdata : x.around.1.file? (old ++ name) = some data) :
    ∃ y, Answers rest.withStore x [pasteAnswer name] y ∧
      y.client.workspace = ⟨new, ⟨waiting⟩⟩ ∧ y.around.1.IsOpen ∧
      x.around.1.Relocates y.around.1 old new [name] := by
  obtain ⟨log, result, y, course, answers⟩ :=
    Answers.exists_of_perform rest.withStore .paste x
  have hpaste : Course rest.withStore (Operation.planPaste x.client.workspace) _ log result y :=
    course
  rw [hworkspace] at hpaste
  have hplaces := hold.append_ne_append hnew hne plain plain
  obtain ⟨rfl, hworkspace', hopen', hdirectories, hfile⟩ :=
    hpaste.of_paste hnew plain hopen hmem (Option.isSome_of_eq_some hdata) hplaces
  refine ⟨_, answers, ?_, hopen', ?_, ?_, fun path hpath => ?_, hdirectories⟩
  · rw [show (x.begun rest.withStore .paste).client.workspace = _ from hworkspace] at hworkspace'
    exact hworkspace'
  · refine List.forall_mem_singleton.mpr ?_
    rw [hdata]
    exact (hfile _).trans ((if_neg hplaces.symm).trans (if_pos rfl))
  · refine List.forall_mem_singleton.mpr ?_
    exact (hfile _).trans (if_pos rfl)
  · obtain ⟨hsource, hdestination⟩ := List.forall_mem_singleton.mp hpath
    exact (hfile path).trans ((if_neg hsource).trans (if_neg hdestination))

/-- What was cut in one directory and waits to be pasted is relocated to the other. -/
theorem answers_pastes {old new : String} {names : List String} {data : String → ByteArray}
    (hold : Path.IsNormalDirectory old) (hnew : Path.IsNormalDirectory new) (hne : old ≠ new)
    (hnodup : names.Nodup) (plain : ∀ name ∈ names, Path.IsPlain name.toList)
    (hworkspace : x.client.workspace =
      ⟨new, ⟨names.map fun name => cutFrom old name (data name)⟩⟩)
    (hopen : x.around.1.IsOpen) (hmem : new ∈ x.around.1.directories)
    (hdata : ∀ name ∈ names, x.around.1.file? (old ++ name) = some (data name)) :
    ∃ y, Answers rest.withStore x (names.map pasteAnswer) y ∧
      y.client.workspace = ⟨new, .empty⟩ ∧
      x.around.1.Relocates y.around.1 old new names := by
  induction names generalizing x with
  | nil => exact ⟨x, Answers.nil x, hworkspace, .nil x.around.1 old new⟩
  | cons name names ih =>
    obtain ⟨hplain, hplain'⟩ := List.forall_mem_cons.mp plain
    obtain ⟨hname, hnames⟩ := List.forall_mem_cons.mp hdata
    obtain ⟨y, hpaste, hworkspace', hopen', first⟩ :=
      answers_paste rest hold hnew hne hplain hworkspace hopen hmem hname
    have hmem' : new ∈ y.around.1.directories := by rwa [first.directories_eq]
    -- what still waits is found at its origin as before
    have hdata' : ∀ other ∈ names, y.around.1.file? (old ++ other) = some (data other) := by
      intro other hother
      rw [first.kept_later hold hnew hne hnodup plain other hother]
      exact hnames other hother
    obtain ⟨z, hpastes, hempty, later⟩ :=
      ih (List.nodup_cons.mp hnodup).2 hplain' hworkspace' hopen' hmem' hdata'
    exact ⟨z, hpaste.append hpastes, hempty, first.cons hold hnew hne later hnodup plain⟩

end

/-! ### Cut, change the directory, paste -/

/-- Cuts files in the working directory, changes to another one and pastes as often. -/
def cutsAndPastes (names : List String) (path : String) : List Action :=
  names.map (fun name => .perform (.copy name none true)) ++
    .perform (.changeDirectory path) :: names.map fun _ => .perform .paste

/-- **Relocation**: on an open store, distinct files of a directory that are cut there, one after
another, and pasted in another directory change to it under their names.  Everything succeeds, the
names come back in the order of the cuts, nothing is left on the clipboard, and no other file and no
directory changes. -/
theorem cut_paste_relocates (rest : Host (StateM τ)) (c : Client) (s : Store) (t : τ)
    {old new path : String} {names : List String} (hdirectory : c.directory = old)
    (hclipboard : c.clipboard = .empty) (hold : Path.IsNormalDirectory old)
    (hpath : Path.resolve old path = new) (hne : old ≠ new) (hopen : s.IsOpen)
    (hmem : new ∈ s.directories) (hnodup : names.Nodup)
    (plain : ∀ name ∈ names, Path.IsPlain name.toList)
    (hfiles : ∀ name ∈ names, (s.file? (old ++ name)).isSome) :
    ∃ episodes y,
      run rest.withStore (cutsAndPastes names path) ⟨c, (s, t)⟩ = (episodes, y) ∧
      episodes.map Episode.answer =
        names.map cutAnswer ++ changeAnswer path new :: names.map pasteAnswer ∧
      y.client.workspace = ⟨new, .empty⟩ ∧ s.Relocates y.around.1 old new names := by
  have hnew : Path.IsNormalDirectory new := hpath ▸ Path.isNormalDirectory_resolve old path
  let data (name : String) : ByteArray := (s.file? (old ++ name)).getD .empty
  have hdata : ∀ name ∈ names, s.file? (old ++ name) = some (data name) := by
    intro name hname
    obtain ⟨content, hcontent⟩ := Option.isSome_iff_exists.mp (hfiles name hname)
    simp only [data, hcontent, Option.getD_some]
  obtain ⟨x₁, cuts, hworkspace₁, hopen₁, htree⟩ :=
    answers_cuts rest (x := ⟨c, (s, t)⟩) hold hdirectory hopen plain hdata
  have hdirectory₁ : x₁.client.directory = old := congrArg Workspace.directory hworkspace₁
  obtain ⟨x₂, change, hworkspace₂, hstore₂⟩ := answers_change rest (x := x₁) path
  rw [hdirectory₁, hpath] at change hworkspace₂
  rw [hworkspace₁, hclipboard] at hworkspace₂
  -- neither cuts nor the change of the directory touch the tree
  rw [← hstore₂] at hopen₁ htree
  obtain ⟨hfiles₂, hdirectories₂⟩ := Prod.mk.inj htree
  have hmem₂ : new ∈ x₂.around.1.directories := by rwa [hdirectories₂]
  have hdata₂ : ∀ name ∈ names, x₂.around.1.file? (old ++ name) = some (data name) := by
    intro name hname
    rw [Store.file?, hfiles₂]
    exact hdata name hname
  obtain ⟨y, pastes, hworkspace, relocates⟩ :=
    answers_pastes rest hold hnew hne hnodup plain hworkspace₂ hopen₁ hmem₂ hdata₂
  obtain ⟨episodes, hrun, hanswers⟩ := cuts.append (change.append pastes)
  refine ⟨episodes, y, ?_, hanswers, hworkspace, relocates.of_tree_eq htree⟩
  rw [← hrun, cutsAndPastes]
  simp only [List.map_append, List.map_map, List.map_cons, Function.comp_def]
  rfl

/-- Two files are pasted in a directory that has a file of the name of one of them. -/
theorem cut_paste_relocates_of_two :
    let h := (Host.constant (.ok .empty) (.ok none)).withStore
    let s := ((Store.empty.insertFile "/a/x" ⟨#[49]⟩).insertFile "/a/y" ⟨#[50]⟩).insertFile "/b/y"
      ⟨#[51]⟩
    ∃ episodes y,
      run h (cutsAndPastes ["x", "y"] "../b") ⟨.startingIn "/a", (s, ())⟩ = (episodes, y) ∧
      episodes.map Episode.answer =
        [cutAnswer "x", cutAnswer "y", changeAnswer "../b" "/b/", pasteAnswer "x",
          pasteAnswer "y"] ∧
      y.client.workspace = ⟨"/b/", .empty⟩ ∧ s.Relocates y.around.1 "/a/" "/b/" ["x", "y"] ∧
      y.around.1.file? "/b/y" = some ⟨#[50]⟩ := by
  intro h s
  have hold : Path.IsNormalDirectory "/a/" := Path.isNormalDirectory_normalize "/a"
  obtain ⟨episodes, y, hrun, hanswers, hworkspace, relocates⟩ :=
    cut_paste_relocates (Host.constant (.ok .empty) (.ok none)) (.startingIn "/a") s () (by decide)
      rfl hold (show Path.resolve "/a/" "../b" = "/b/" by decide) (by decide) ⟨rfl, rfl⟩
      (by decide +kernel) (show ["x", "y"].Nodup by decide)
      (fun name hname => Path.isPlain_toList_iff.mpr (by
        revert name
        decide))
      (by decide +kernel)
  exact ⟨episodes, y, hrun, hanswers, hworkspace, relocates,
    (relocates.arrived "y" (by decide)).trans (by decide +kernel)⟩

end RemoteFiles
