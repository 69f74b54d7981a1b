import RemoteFiles.Listing
import RemoteFiles.Proofs.Json.Objects
import Mathlib.Logic.Relation

/-!
# Listings in other words

A listing is read off the values under its known keys and those of its entries (`Listing.said?`),
and of its entries those with a name are kept.  So it does not matter how its text is worded:
blanks, the order of members, members with other keys, `null` for what is missing, and entries
without a name change nothing (`listing_ignores_wording`).
-/

namespace RemoteFiles

open Json (Node Member Reading Spelled Spaced said? under)
open RemoteFiles.Text (Glyph)
open RemoteFiles.Text.Glyph (ofList)

/-! ### Entries -/

namespace Entry.Draft

def putName (d : Draft) (name : Option String) : Draft := { d with name := name }

def putSize (d : Draft) (size : Option String) : Draft := { d with size := size }

def putKind (d : Draft) (kind : Option UInt32) : Draft := { d with kind := kind }

def putMime (d : Draft) (mime : Option String) : Draft := { d with mime := mime }

/-- The fields of an entry after its name. -/
def detailReadings : List (Reading Draft) := [
  .ofPut "size" false (Node.optional? Node.string?) putSize,
  .ofPut "type" false (Node.optional? Node.code?) putKind,
  .ofPut "mime" false (Node.optional? Node.string?) putMime]

/-- The fields of an entry of a listing. -/
def looseReadings : List (Reading Draft) :=
  .ofPut "name" false (Node.optional? Node.string?) putName :: detailReadings

theorem decodes_detailFields :
    List.Forall₂ Json.Field.Decodes detailFields detailReadings :=
  .cons (Reading.decodes_ofPut Json.decodes_string.option "size" false putSize) <|
    .cons (Reading.decodes_ofPut Json.decodes_uint32.option "type" false putKind) <|
    .cons (Reading.decodes_ofPut Json.decodes_string.option "mime" false putMime) .nil

theorem decodes_looseShape :
    List.Forall₂ Json.Field.Decodes looseShape.fields looseReadings :=
  .cons (Reading.decodes_ofPut Json.decodes_string.option "name" false putName)
    decodes_detailFields

theorem pairwise_detailReadings : detailReadings.Pairwise Reading.Independent := by
  simp only [detailReadings, List.pairwise_cons, List.forall_mem_cons]
  refine ⟨⟨?_, ?_, List.forall_mem_nil _⟩, ⟨?_, List.forall_mem_nil _⟩, List.forall_mem_nil _,
    .nil⟩ <;> exact Reading.independent_ofPut (by decide) fun _ _ _ => rfl

theorem pairwise_looseReadings : looseReadings.Pairwise Reading.Independent := by
  refine .cons ?_ pairwise_detailReadings
  simp only [detailReadings, List.forall_mem_cons]
  refine ⟨?_, ?_, ?_, List.forall_mem_nil _⟩ <;>
    exact Reading.independent_ofPut (by decide) fun _ _ _ => rfl

/-- What an object says as an entry of a listing: everything may be missing or `null`. -/
def said? (members : List Member) : Option Draft :=
  if Spelled members then do
    let name ← Json.said? (Node.optional? Node.string?) none "name" members
    let size ← Json.said? (Node.optional? Node.string?) none "size" members
    let kind ← Json.said? (Node.optional? Node.code?) none "type" members
    let mime ← Json.said? (Node.optional? Node.string?) none "mime" members
    some ⟨name, size, kind, mime⟩
  else none

/-- The fields after the name, whatever the name is. -/
theorem gather?_detailReadings (name : Option String) (members : List Member) :
    Reading.gather? [] members detailReadings ⟨name, none, none, none⟩ = (do
      let size ← Json.said? (Node.optional? Node.string?) none "size" members
      let kind ← Json.said? (Node.optional? Node.code?) none "type" members
      let mime ← Json.said? (Node.optional? Node.string?) none "mime" members
      some ⟨name, size, kind, mime⟩) := by
  refine (Reading.gather?_ofPut rfl members).trans (Option.bind_congr fun size _ => ?_)
  refine (Reading.gather?_ofPut rfl members).trans (Option.bind_congr fun kind _ => ?_)
  exact (Reading.gather?_ofPut rfl members).trans (Option.bind_congr fun mime _ => rfl)

theorem ofMembers?_looseReadings (members : List Member) :
    Reading.ofMembers? looseReadings [] looseShape.empty members = said? members := by
  rw [Reading.ofMembers?_eq pairwise_looseReadings, said?]
  refine if_congr Iff.rfl ?_ rfl
  exact (Reading.gather?_ofPut rfl members).trans
    (Option.bind_congr fun name _ => gather?_detailReadings name members)

/-- The names of the fields of an entry. -/
def fieldNames : List String := ["name", "size", "type", "mime"]

/-- Another wording of an entry says the same. -/
theorem said?_reworded {members members' : List Member}
    (h : Json.Reworded fieldNames fieldNames members members') :
    said? members = said? members' := by
  have hnullable : ∀ key ∈ fieldNames, ∃ r, Reading.find? looseReadings key = some r ∧
      r.means looseShape.empty .null = some looseShape.empty := by
    simp only [fieldNames, List.forall_mem_cons]
    exact ⟨⟨_, rfl, rfl⟩, ⟨_, rfl, rfl⟩, ⟨_, rfl, rfl⟩, ⟨_, rfl, rfl⟩, List.forall_mem_nil _⟩
  have hoptional : ∀ r ∈ looseReadings, r.name ∈ fieldNames → r.required = false := by
    simp only [looseReadings, detailReadings, List.forall_mem_cons]
    exact ⟨fun _ => rfl, fun _ => rfl, fun _ => rfl, fun _ => rfl, List.forall_mem_nil _⟩
  rw [← ofMembers?_looseReadings, ← ofMembers?_looseReadings]
  exact Reading.ofMembers?_reworded pairwise_looseReadings rfl hnullable hoptional h

/-- An item of a listing's content as an entry. -/
def ofNode? : Node → Option Draft := looseShape.ofNode? looseReadings

theorem ofNode?_object (members : List Member) : ofNode? (.object members) = said? members :=
  ofMembers?_looseReadings members

/-- What a listing keeps of an entry: nothing if it has no name. -/
def kept (d : Draft) : List Entry := Option.toList d.entry?

/-- The entries with a name among the items of a content. -/
def named? (items : List Node) : Option (List Entry) :=
  (items.mapM ofNode?).map (·.filterMap entry?)

theorem named?_append (items items' : List Node) :
    named? (items ++ items') =
      (named? items).bind fun es => (named? items').map (es ++ ·) := by
  rw [named?, named?, named?, List.mapM_append]
  cases items.mapM ofNode? <;> cases items'.mapM ofNode? <;> simp [bind]

theorem named?_cons (v : Node) (items : List Node) :
    named? (v :: items) =
      (ofNode? v).bind fun d => (named? items).map (d.kept ++ ·) := by
  rw [named?, named?, List.mapM_cons]
  cases ofNode? v with
  | none => rfl
  | some d =>
    cases items.mapM ofNode? with
    | none => rfl
    | some ds => cases hd : d.entry? <;> simp [bind, kept, hd]

end Entry.Draft

/-! ### Listings -/

namespace Listing

def Draft.putDirectory (d : Draft) (directory : Option String) : Draft :=
  { d with directory := directory }

def Draft.putEntries (d : Draft) (entries : List Entry.Draft) : Draft :=
  { d with entries := entries }

/-- The fields of a listing. -/
def readings : List (Reading Draft) := [
  .ofPut "name" false (Node.optional? Node.string?) Draft.putDirectory,
  .ofPut "content" false (Node.items? Entry.Draft.ofNode?) Draft.putEntries]

theorem decodes_shape : List.Forall₂ Json.Field.Decodes shape.fields readings :=
  .cons (Reading.decodes_ofPut Json.decodes_string.option "name" false Draft.putDirectory) <|
    .cons (Reading.decodes_ofPut (Json.Decodes.array (Json.Shape.decodes_read
      Entry.Draft.decodes_looseShape)) "content" false Draft.putEntries) .nil

theorem pairwise_readings : readings.Pairwise Reading.Independent := by
  refine .cons ?_ (.cons (List.forall_mem_nil _) .nil)
  simp only [List.forall_mem_cons]
  exact ⟨Reading.independent_ofPut (by decide) fun _ _ _ => rfl, List.forall_mem_nil _⟩

/-- What an object says as a listing. -/
def said? (members : List Member) : Option Draft :=
  if Spelled members then do
    let directory ← Json.said? (Node.optional? Node.string?) none "name" members
    let entries ← Json.said? (Node.items? Entry.Draft.ofNode?) [] "content" members
    some ⟨directory, entries⟩
  else none

theorem ofMembers?_readings (members : List Member) :
    Reading.ofMembers? readings [] shape.empty members = said? members := by
  rw [Reading.ofMembers?_eq pairwise_readings, said?]
  refine if_congr Iff.rfl ?_ rfl
  refine (Reading.gather?_ofPut rfl members).trans (Option.bind_congr fun directory _ => ?_)
  exact (Reading.gather?_ofPut rfl members).trans (Option.bind_congr fun entries _ => rfl)

/-- The listing of a draft: what has no name is dropped. -/
def Draft.listing (d : Draft) : Listing :=
  ⟨d.directory, d.entries.filterMap Entry.Draft.entry?⟩

/-- A text of an object is read as what the object says. -/
theorem ofJson_object {members : List Member} {text : List Char}
    (h : Spaced (Node.object members).tokens text) :
    (ofJson (String.ofList text).toUTF8).toOption = (said? members).map Draft.listing := by
  have hread := Json.Shape.readAll_tokens decodes_shape h
  have hsaid : shape.ofNode? readings (.object members) = said? members :=
    ofMembers?_readings members
  rw [hsaid] at hread
  rw [ofJson, Glyph.ofBytes_toUTF8, Glyph.ofString, String.toList_ofList, ← hread]
  change _ = (shape.readAll (text.map Glyph.char)).toOption.map Draft.listing
  cases shape.readAll (text.map Glyph.char) <;> rfl

/-! ### Other wordings -/

/-- Another wording of a listing: of its own members, of one of its entries, or with one more
entry that has no name. -/
inductive Reworded : List Member → List Member → Prop
  | members {members members' : List Member}
      (h : Json.Reworded ["name", "content"] ["name"] members members') :
      Reworded members members'
  | entry (front back : List Member) {k : Json.Spelling} (hk : k.string? = some "content")
      (before after : List Node) {members members' : List Member}
      (h : Json.Reworded Entry.Draft.fieldNames Entry.Draft.fieldNames members members') :
      Reworded (front ++ (k, .array (before ++ .object members :: after)) :: back)
        (front ++ (k, .array (before ++ .object members' :: after)) :: back)
  | nameless (front back : List Member) {k : Json.Spelling} (hk : k.string? = some "content")
      (before after : List Node) {members : List Member} {d : Entry.Draft}
      (hd : Entry.Draft.said? members = some d) (hname : d.name = none) :
      Reworded (front ++ (k, .array (before ++ after)) :: back)
        (front ++ (k, .array (before ++ .object members :: after)) :: back)

/-- The members of a listing may be reordered. -/
theorem said?_perm {members members' : List Member} (h : members.Perm members') :
    said? members = said? members' := by
  rw [← ofMembers?_readings, ← ofMembers?_readings]
  exact Reading.ofMembers?_perm pairwise_readings h _

/-- A listing is read off its content and the members around it. -/
theorem said?_content (front back : List Member) {k : Json.Spelling}
    (hk : k.string? = some "content") (items : List Node) :
    (said? (front ++ (k, .array items) :: back)).map Draft.listing =
      if Spelled (front ++ back) ∧ under "content" (front ++ back) = [] then
        (Json.said? (Node.optional? Node.string?) none "name" (front ++ back)).bind fun directory =>
          (Entry.Draft.named? items).map (⟨directory, ·⟩)
      else none := by
  have hname : k.string? ≠ some "name" := by
    rw [hk]
    decide
  -- the content may as well stand in front of all other members
  rw [said?_perm List.perm_middle, said?, Json.said?_cons_of_ne hname, Json.said?_cons_of_eq hk]
  simp only [Json.spelled_cons hk]
  by_cases hspelled : Spelled (front ++ back)
  · by_cases hother : under "content" (front ++ back) = []
    · have hitems : Node.items? Entry.Draft.ofNode? (.array items) =
          items.mapM Entry.Draft.ofNode? := rfl
      rw [if_pos hspelled, if_pos hother, if_pos ⟨hspelled, hother⟩, hitems]
      cases Json.said? (Node.optional? Node.string?) none "name" (front ++ back) with
      | none => rfl
      | some directory =>
        rw [Option.bind_some, Entry.Draft.named?]
        cases items.mapM Entry.Draft.ofNode? <;> rfl
    · rw [if_pos hspelled, if_neg hother, if_neg fun h => hother h.2]
      cases Json.said? (Node.optional? Node.string?) none "name" (front ++ back) <;> rfl
  · rw [if_neg hspelled, if_neg fun h => hspelled h.1]
    rfl

/-- Another wording gives the same listing. -/
theorem said?_reworded {members members' : List Member} (h : Reworded members members') :
    (said? members).map Draft.listing = (said? members').map Draft.listing := by
  cases h with
  | members h =>
    -- the content is the one field that may not be `null`
    have hnullable : ∀ key ∈ ["name"], ∃ r, Reading.find? readings key = some r ∧
        r.means shape.empty .null = some shape.empty := by
      simp only [List.forall_mem_cons]
      exact ⟨⟨_, rfl, rfl⟩, List.forall_mem_nil _⟩
    have hoptional : ∀ r ∈ readings, r.name ∈ ["name"] → r.required = false := by
      simp only [readings, List.forall_mem_cons]
      exact ⟨fun _ => rfl, fun _ => rfl, List.forall_mem_nil _⟩
    rw [← ofMembers?_readings, ← ofMembers?_readings,
      Reading.ofMembers?_reworded pairwise_readings rfl hnullable hoptional h]
  | entry front back hk before after h =>
    rw [said?_content front back hk, said?_content front back hk, Entry.Draft.named?_append,
      Entry.Draft.named?_append, Entry.Draft.named?_cons, Entry.Draft.named?_cons,
      Entry.Draft.ofNode?_object, Entry.Draft.ofNode?_object, Entry.Draft.said?_reworded h]
  | nameless front back hk before after hd hname =>
    have hkept : ∀ d : Entry.Draft, d.name = none → d.kept = [] := by
      rintro ⟨_, size, kind, mime⟩ rfl
      rfl
    rw [said?_content front back hk, said?_content front back hk, Entry.Draft.named?_append,
      Entry.Draft.named?_append, Entry.Draft.named?_cons, Entry.Draft.ofNode?_object, hd,
      Option.bind_some, hkept _ hname]
    simp

theorem said?_wording {members members' : List Member}
    (h : Relation.EqvGen Reworded members members') :
    (said? members).map Draft.listing = (said? members').map Draft.listing := by
  induction h with
  | rel _ _ h => exact said?_reworded h
  | refl => rfl
  | symm _ _ _ ih => exact ih.symm
  | trans _ _ _ _ _ ih ih' => exact ih.trans ih'

/-- **The wording of a listing does not matter**: two bodies whose objects differ in the order of
members, in members with other keys, in `null` for what is missing, or in entries without a name,
and whose blanks stand anywhere, are read alike; and what is read are the entries with a name, in
their order and with what each of them says, and the path that the listing says. -/
theorem listing_ignores_wording {members members' : List Member}
    (h : Relation.EqvGen Reworded members members') {text text' : List Char}
    (htext : Spaced (Node.object members).tokens text)
    (htext' : Spaced (Node.object members').tokens text') :
    (ofJson (String.ofList text).toUTF8).toOption =
        (ofJson (String.ofList text').toUTF8).toOption ∧
      ∀ d, said? members = some d →
        ofJson (String.ofList text').toUTF8 =
          .ok ⟨d.directory, d.entries.filterMap Entry.Draft.entry?⟩ := by
  have hsame := said?_wording h
  constructor
  · rw [ofJson_object htext, ofJson_object htext', hsame]
  · intro d hd
    have hread := ofJson_object htext'
    rw [← hsame, hd] at hread
    exact Json.eq_ok_of_toOption hread

def nameKey : Json.Spelling := .asIs ['n', 'a', 'm', 'e']

def typeKey : Json.Spelling := .asIs ['t', 'y', 'p', 'e']

def contentKey : Json.Spelling := .asIs ['c', 'o', 'n', 't', 'e', 'n', 't']

def otherKey : Json.Spelling := .asIs ['x']

/-- An entry `f` with an integer as its type. -/
def typedFile (n : Int) : List Member :=
  [(nameKey, .string (.asIs ['f'])), (typeKey, .number (.ofInt n))]

/-- A listing of one file. -/
def oneFile : List Member := [
  (nameKey, .string (.asIs ['d'])),
  (contentKey, .array [.object (typedFile 8)])]

/-- The same with an entry that has no name, another member, and the path at the end. -/
def oneFileReworded : List Member := [
  (contentKey, .array [.object [], .object (typedFile 8)]),
  (otherKey, .array [.array [.object []]]),
  (nameKey, .string (.asIs ['d']))]

theorem listing_ignores_wording_of_oneFile :
    Relation.EqvGen Reworded oneFile oneFileReworded ∧
      ofJson (String.ofList (Json.spread [' '] (Node.object oneFileReworded).tokens)).toUTF8 =
        .ok ⟨some "d", [⟨"f", none, some 8, none⟩]⟩ := by
  have hcontent : contentKey.string? = some "content" := rfl
  have hother : otherKey.string? = some "x" := rfl
  have hempty : Entry.Draft.said? [] = some ⟨none, none, none, none⟩ := rfl
  have hnameless := Reworded.nameless [oneFile[0]] [] hcontent [] [.object (typedFile 8)] hempty rfl
  have hunknown : Json.Reworded ["name", "content"] ["name"] _ _ :=
    .unknown [oneFile[0]] [oneFileReworded[0]] hother (by decide) (.array [.array [.object []]])
  have horder : Json.Reworded ["name", "content"] ["name"] _ _ :=
    .order (List.reverse_perm oneFileReworded)
  have h : Relation.EqvGen Reworded oneFile oneFileReworded :=
    .trans _ _ _ (.rel _ _ hnameless) (.trans _ _ _ (.rel _ _ (.members hunknown))
      (.rel _ _ (.members horder)))
  have hblank : Json.IsBlank [' '] := by
    simp [Json.IsBlank]
  refine ⟨h, ?_⟩
  exact (listing_ignores_wording h (Node.spaced_tokens (List.forall_mem_nil _) _)
    (Node.spaced_tokens hblank _)).2 ⟨some "d", [⟨some "f", none, some 8, none⟩]⟩ rfl

end Listing

end RemoteFiles
