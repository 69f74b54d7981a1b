import RemoteFiles.Payload

/-!
# The clipboard

What was copied or cut waits here until it is pasted: first in, first out.  Entries of one name
stand side by side.  An entry that could not be pasted goes back to the front.
-/

namespace RemoteFiles

/-- Content that waits to be pasted. -/
structure Clipping where
  /-- The name that it will be pasted under. -/
  name : String
  /-- The path that it was read from. -/
  origin : Option String
  content : Payload
  /-- What was cut is deleted at its origin once it is pasted. -/
  isCut : Bool
  deriving DecidableEq

/-- The waiting content, oldest first. -/
structure Clipboard where
  toList : List Clipping
  deriving DecidableEq

namespace Clipboard

/-- A clipboard on which nothing waits. -/
def empty : Clipboard := ⟨[]⟩

/-- Adds content behind all that waits. -/
def enqueue (b : Clipboard) (c : Clipping) : Clipboard := ⟨b.toList ++ [c]⟩

/-- Takes the oldest content. -/
def dequeue? (b : Clipboard) : Option (Clipping × Clipboard) :=
  match b.toList with
  | [] => none
  | c :: cs => some (c, ⟨cs⟩)

/-- Puts content back in front of all that waits. -/
def restore (b : Clipboard) (c : Clipping) : Clipboard := ⟨c :: b.toList⟩

/-- How much waits. -/
def size (b : Clipboard) : Nat := b.toList.length

/-- The names of what waits, oldest first. -/
def names (b : Clipboard) : List String := b.toList.map (·.name)

@[simp] theorem toList_enqueue (b : Clipboard) (c : Clipping) :
    (b.enqueue c).toList = b.toList ++ [c] := rfl

@[simp] theorem toList_restore (b : Clipboard) (c : Clipping) :
    (b.restore c).toList = c :: b.toList := rfl

/-- Restoring what was taken undoes the taking. -/
theorem restore_of_dequeue? {b b' : Clipboard} {c : Clipping} (h : b.dequeue? = some (c, b')) :
    b'.restore c = b := by
  obtain ⟨cs⟩ := b
  cases cs with
  | nil => simp [dequeue?] at h
  | cons d ds =>
    simp only [dequeue?, Option.some.injEq, Prod.mk.injEq] at h
    obtain ⟨rfl, rfl⟩ := h
    rfl

end Clipboard

end RemoteFiles
