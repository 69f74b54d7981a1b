import RemoteFiles.Disk.Tree
import RemoteFiles.Program.Run

/-!
# The program in a world of files

A `World` is a tree of files, the requests that were sent so far, and whatever else there is.
`Machine.inWorld` puts a machine there: its files are those of the tree, and every request is
written down before the network answers it.

What is built from the operations on files does the same to the files of a world as to a tree alone
(`Config.load_inWorld`, `Config.save_inWorld`), and touches nothing else.
-/

namespace RemoteFiles

/-! ### Files seen from wider surroundings -/

section

variable {m n : Type → Type} [Monad m] [Monad n] {up : {α : Type} → m α → n α}
  (hpure : ∀ {α : Type} (a : α), up (pure a) = pure a)
  (hbind : ∀ {α β : Type} (act : m α) (next : α → m β),
    up (act >>= next) = up act >>= fun a => up (next a))
include hbind

/-- One thing after another, if what comes next is the same seen from the wider surroundings. -/
theorem bind_lift {α β : Type} {act : m α} {next : α → m β} {wide : α → n β}
    (h : ∀ a, wide a = up (next a)) : up act >>= wide = up (act >>= next) := by
  rw [hbind, funext h]

include hpure

namespace Disk

variable (d : Disk m)

theorem readText_lift (p : Path) : (d.lift up).readText p = up (d.readText p) := by
  refine bind_lift hbind fun result => ?_
  cases result with
  | error fault => exact (hpure _).symm
  | ok data =>
    dsimp only
    split
    all_goals exact (hpure _).symm

theorem settle_lift (p : Path) (result : Except DiskFault Unit) :
    settle (d.lift up) p result = up (settle d p result) := by
  cases result with
  | ok => exact (hpure _).symm
  | error fault =>
    refine bind_lift hbind fun isThere => ?_
    split
    all_goals exact (hpure _).symm

theorem makeBackwards_lift (absolute : Bool) (pieces : List Piece) :
    makeBackwards (d.lift up) absolute pieces = up (makeBackwards d absolute pieces) := by
  have hsettle : ∀ p, (d.lift up).makeDirectory p >>= settle (d.lift up) p =
      up (d.makeDirectory p >>= settle d p) :=
    fun p => bind_lift hbind (settle_lift hpure hbind d p)
  rw [makeBackwards.eq_def, makeBackwards.eq_def d]
  -- no induction on the pieces, for of those above more than one may be trimmed
  match pieces with
  | [] =>
    dsimp only
    split
    · exact hsettle _
    · exact (hpure _).symm
  | _ :: rest =>
    refine bind_lift hbind fun result => ?_
    split
    · rw [makeBackwards_lift absolute (Path.trimmed absolute rest)]
      refine bind_lift hbind fun above => ?_
      cases above with
      | ok => exact hsettle _
      | error fault => exact (hpure _).symm
    · exact settle_lift hpure hbind d _ _
termination_by pieces.length
decreasing_by
  have := Path.length_trimmed_le absolute rest
  simp only [List.length_cons]
  omega

end Disk

namespace Config

variable (d : Disk m) (path : Disk.Path)

theorem load_lift : load (d.lift up) path = up (load d path) := by
  refine bind_lift hbind fun isThere => ?_
  split
  · rw [Disk.readText_lift hpure hbind]
    refine bind_lift hbind fun text => ?_
    cases text with
    | error fault => exact (hpure _).symm
    | ok text =>
      dsimp only
      split
      all_goals exact (hpure _).symm
  · exact (hpure _).symm

theorem makeParents_lift : makeParents (d.lift up) path = up (makeParents d path) := by
  unfold makeParents
  split
  · exact (hpure _).symm
  · unfold Disk.makeDirectories
    rw [Disk.makeBackwards_lift hpure hbind]
    refine bind_lift hbind fun result => ?_
    cases result with
    | ok => exact (hpure _).symm
    | error fault => exact (hpure _).symm

theorem save_lift (c : Config) : c.save (d.lift up) path = up (c.save d path) := by
  unfold save
  rw [makeParents_lift hpure hbind]
  refine bind_lift hbind fun made => ?_
  cases made with
  | error fault => exact (hpure _).symm
  | ok =>
    dsimp only
    split
    · exact (hpure _).symm
    · refine bind_lift hbind fun written => ?_
      cases written with
      | ok => exact (hpure _).symm
      | error fault => exact (hpure _).symm

end Config

end

/-! ### Worlds -/

/-- A tree of files, the requests that were sent, the first one first, and the rest. -/
structure World (σ : Type) where
  files : Disk.Tree
  sent : List Http.Request
  rest : σ

variable {σ α β : Type}

namespace World

/-- Does something with the files. -/
def onFiles (act : StateM Disk.Tree α) : StateM (World σ) α :=
  fun s => ((act s.files).1, { s with files := (act s.files).2 })

/-- Does something that has to do neither with files nor with requests. -/
def elsewhere (act : StateM σ α) : StateM (World σ) α :=
  fun s => ((act s.rest).1, { s with rest := (act s.rest).2 })

/-- Writes down a request and does what follows from it. -/
def sending (r : Http.Request) (act : StateM σ α) : StateM (World σ) α :=
  fun s => ((act s.rest).1, { s with sent := s.sent ++ [r], rest := (act s.rest).2 })

theorem onFiles_pure (a : α) : (onFiles (pure a) : StateM (World σ) α) = pure a := rfl

theorem onFiles_bind (act : StateM Disk.Tree α) (next : α → StateM Disk.Tree β) :
    (onFiles (act >>= next) : StateM (World σ) β) = onFiles act >>= fun a => onFiles (next a) :=
  rfl

end World

open World (onFiles elsewhere sending)

/-- The machine in a world: with the files there, and writing down what it sends. -/
def Machine.inWorld (w : Machine (StateM σ)) : Machine (StateM (World σ)) where
  environment := w.environment
  disk := Disk.Tree.disk.lift onFiles
  network := ⟨fun seconds r => sending r (w.network.exchange seconds r)⟩
  clientNonce := elsewhere w.clientNonce
  terminal := {
    write := fun data => elsewhere (w.terminal.write data)
    complain := fun line => elsewhere (w.terminal.complain line)
    askPassword := fun user => elsewhere (w.terminal.askPassword user) }

/-- A machine without files, variables, services, and anyone to ask. -/
def bareMachine : Machine (StateM Unit) where
  environment := ⟨[]⟩
  disk := {
    isThere := fun _ => pure false
    isDirectory := fun _ => pure false
    read := fun _ => pure (.error .notFound)
    write := fun _ _ => pure (.error .notFound)
    makeDirectory := fun _ => pure (.error .notFound) }
  network := ⟨fun _ _ => pure (.error .noResponse)⟩
  clientNonce := pure ""
  terminal := {
    write := fun _ => pure ()
    complain := fun _ => pure ()
    askPassword := fun _ => pure (.error "") }

namespace Config

theorem load_inWorld (w : Machine (StateM σ)) (path : Disk.Path) :
    load w.inWorld.disk path = onFiles (load Disk.Tree.disk path) :=
  load_lift World.onFiles_pure World.onFiles_bind _ path

theorem save_inWorld (w : Machine (StateM σ)) (c : Config) (path : Disk.Path) :
    c.save w.inWorld.disk path = onFiles (c.save Disk.Tree.disk path) :=
  save_lift World.onFiles_pure World.onFiles_bind _ path c

end Config

end RemoteFiles
