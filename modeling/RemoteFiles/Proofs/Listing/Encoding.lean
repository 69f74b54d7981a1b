import RemoteFiles.Listing
import RemoteFiles.Proofs.Json.Records
import Mathlib.Data.List.Nodup

/-!
# Listings read back

A listing that was written as the service sends it is read back with its entries in their order;
what ends the entries is dropped, and a directory without a path comes back with an empty one
(`listing_reads_back`).  So a second writing gives the same bytes.
-/

namespace RemoteFiles

open Json (Value ReadsBack written)
open Json.Shape (Fills fills_field)
open RemoteFiles.Text (Glyph)

namespace Entry

/-- A member that may be missing fills its field in, with nothing if it is missing. -/
theorem fills_member? {α β : Type} {shape : Json.Shape α} {name : String} {required : Bool}
    {write : β → Value} {read : List Glyph → Except Json.Fault (Json.Parsed (Option β))}
    (put : α → Option β → α)
    (found : shape.fields.find? (·.name == name) = some ⟨name, fun a gs => do
      let (o, rest) ← read gs
      .ok (put a o, rest), required⟩)
    (reads : ∀ b, ReadsBack read (write b).render (some b)) (o : Option β) {a : α}
    (hnone : put a none = a) : shape.Fills a (written (member? name write o)) (put a o) := by
  cases o with
  | none =>
    rw [hnone]
    exact .done a
  | some b => exact fills_field put found (reads b) a

theorem readsBack_optionString (s : String) :
    ReadsBack (Json.readOption Json.readString) (Value.string s).render (some s) := by
  rw [Value.render]
  exact (Json.readsBack_string s).some (by simp [Json.renderString])

theorem readsBack_optionCode (code : UInt32) :
    ReadsBack (Json.readOption Json.readUInt32) (codeValue code).render (some code) := by
  obtain ⟨c, cs, hdigits, hc⟩ := Text.exists_cons_toDigits code.toNat
  have hrender : (codeValue code).render = Nat.toDigits 10 code.toNat := by
    rw [codeValue, Value.render, Json.Number.render, String.toList_ofList]
  rw [hrender]
  refine (Json.readsBack_uint32 code).some ?_
  rw [hdigits, List.head?_cons]
  exact fun h => Text.ne_of_isDigit hc (by decide) (Option.some.inj h)

/-- The entry that a draft is made from. -/
def draft (e : Entry) : Draft := ⟨some e.name, e.size, e.kind, e.mime⟩

/-- The members of an entry, as the service orders them. -/
def sortedMembers (e : Entry) : List (String × Value) :=
  member? "mime" .string e.mime ++ ("name", .string e.name) ::
    (member? "size" .string e.size ++ member? "type" codeValue e.kind)

theorem fills_sortedMembers (e : Entry) :
    Draft.looseShape.Fills ⟨none, none, none, none⟩ (written e.sortedMembers) e.draft := by
  have hmime : Draft.looseShape.Fills ⟨none, none, none, none⟩
      (written (member? "mime" .string e.mime)) ⟨none, none, none, e.mime⟩ :=
    fills_member? (fun (d : Draft) mime => { d with mime := mime }) rfl readsBack_optionString
      e.mime rfl
  have hname : Draft.looseShape.Fills ⟨none, none, none, e.mime⟩
      (written [("name", .string e.name)]) ⟨some e.name, none, none, e.mime⟩ :=
    fills_field (fun (d : Draft) name => { d with name := name }) rfl
      (readsBack_optionString e.name) _
  have hsize : Draft.looseShape.Fills ⟨some e.name, none, none, e.mime⟩
      (written (member? "size" .string e.size)) ⟨some e.name, e.size, none, e.mime⟩ :=
    fills_member? (fun (d : Draft) size => { d with size := size }) rfl readsBack_optionString
      e.size rfl
  have hkind : Draft.looseShape.Fills ⟨some e.name, e.size, none, e.mime⟩
      (written (member? "type" codeValue e.kind)) e.draft :=
    fills_member? (fun (d : Draft) kind => { d with kind := kind }) rfl readsBack_optionCode
      e.kind rfl
  have h := hmime.append (hname.append (hsize.append hkind))
  simpa [sortedMembers, written, draft] using h

theorem nodup_sortedMembers (e : Entry) :
    ((written e.sortedMembers).map Prod.fst).Nodup := by
  obtain ⟨name, size, kind, mime⟩ := e
  cases size <;> cases kind <;> cases mime <;> simp [sortedMembers, member?, written]

theorem Draft.hasRequired_looseShape (members : List (String × List Char)) :
    Draft.looseShape.HasRequired [] members := by
  simp [Json.Shape.HasRequired, looseShape, detailFields]

theorem readsBack_toSortedJson (e : Entry) :
    ReadsBack Draft.looseShape.read e.toSortedJson.render e.draft := by
  have hrender : e.toSortedJson.render = Json.objectText (written e.sortedMembers) :=
    Json.render_object _
  rw [hrender]
  exact Json.Shape.readsBack_object e.fills_sortedMembers (e.nodup_sortedMembers.filter _)
    (Draft.hasRequired_looseShape _)

/-- What ends the entries is read as a draft without a name. -/
theorem readsBack_sentinel :
    ReadsBack Draft.looseShape.read (Value.object []).render ⟨none, none, none, none⟩ := by
  rw [Json.render_object]
  exact Json.Shape.readsBack_object (.done _) List.nodup_nil (Draft.hasRequired_looseShape _)

end Entry

namespace Listing

/-- The listing as it is read: the sentinel is still there. -/
def draft (l : Listing) : Draft :=
  ⟨some (l.directory.getD ""), l.entries.map Entry.draft ++ [⟨none, none, none, none⟩]⟩

theorem filterMap_draft (l : Listing) :
    l.draft.entries.filterMap Entry.Draft.entry? = l.entries := by
  have hdrafts : Entry.Draft.entry? ∘ Entry.draft = some := rfl
  rw [draft, List.filterMap_append, List.filterMap_map, hdrafts, List.filterMap_some]
  exact List.append_nil _

theorem readsBack_entries (entries : List Entry) :
    ReadsBack (Json.readArray Entry.Draft.looseShape.read)
      (Value.array (entries.map Entry.toSortedJson ++ [.object []])).render
      (entries.map Entry.draft ++ [⟨none, none, none, none⟩]) := by
  rw [Json.render_array, List.map_append, List.map_map]
  refine Json.readsBack_array (List.rel_append ?_ (.cons Entry.readsBack_sentinel .nil))
  exact List.forall₂_map_left_iff.mpr (List.forall₂_map_right_iff.mpr
    (List.forall₂_same.mpr fun e _ => e.readsBack_toSortedJson))

/-- The members of a listing, as the service orders them. -/
def members (l : Listing) : List (String × Value) := [
  ("content", .array (l.entries.map Entry.toSortedJson ++ [.object []])),
  ("method", .string "GET"),
  ("name", .string (l.directory.getD "")),
  ("result", .string "OK")]

theorem skips_string (s : String) : Json.Skips (Value.string s).render := by
  rw [Value.render]
  exact Json.skips_string s

theorem fills_members (l : Listing) : shape.Fills ⟨none, []⟩ (written l.members) l.draft := by
  have hcontent : shape.Fills ⟨none, []⟩
      (written [("content", .array (l.entries.map Entry.toSortedJson ++ [.object []]))])
      ⟨none, l.draft.entries⟩ :=
    fills_field (fun (d : Draft) entries => { d with entries := entries }) rfl
      (readsBack_entries l.entries) _
  have hname : shape.Fills ⟨none, l.draft.entries⟩
      (written [("name", .string (l.directory.getD ""))]) l.draft :=
    fills_field (fun (d : Draft) directory => { d with directory := directory }) rfl
      (Entry.readsBack_optionString (l.directory.getD "")) _
  have hend : shape.Fills l.draft (written [("result", .string "OK")]) l.draft :=
    .unknown rfl (skips_string "OK") (.done _)
  exact hcontent.append (.unknown rfl (skips_string "GET") (hname.append hend))

theorem readsBack_toJsonValue (l : Listing) :
    ReadsBack shape.read l.toJsonValue.render l.draft := by
  have hrender : l.toJsonValue.render = Json.objectText (written l.members) :=
    Json.render_object _
  rw [hrender]
  refine Json.Shape.readsBack_object l.fills_members ?_ ?_
  · exact List.Nodup.filter _ (by simp [members, written])
  · simp [Json.Shape.HasRequired, shape]

theorem ofJson_toJson (l : Listing) :
    ofJson l.toJson = .ok ⟨some (l.directory.getD ""), l.entries⟩ := by
  have hread : shape.readAll (Glyph.ofBytes l.toJson) = .ok l.draft := by
    rw [toJson, Glyph.ofBytes_toUTF8, Value.toText, Glyph.ofString, String.toList_ofList]
    exact Json.Shape.readAll_of_readsBack l.readsBack_toJsonValue
  rw [ofJson, hread]
  dsimp only
  rw [filterMap_draft]
  rfl

/-- **A listing is read back**: reading the bytes of any listing gives its entries in their order
and the path of its directory, an empty one if it has none; and writing what was read gives the
same bytes again. -/
theorem listing_reads_back (l : Listing) :
    ∃ l', ofJson l.toJson = .ok l' ∧ l'.entries = l.entries ∧
      l'.directory = some (l.directory.getD "") ∧ l'.toJson = l.toJson :=
  ⟨_, l.ofJson_toJson, rfl, rfl, rfl⟩

end Listing

end RemoteFiles
