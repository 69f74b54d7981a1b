import RemoteFiles.Identity
import RemoteFiles.Proofs.Listing.Encoding
import RemoteFiles.Proofs.Listing.Wordings

/-!
# Entries and identities read back, and type codes

An entry leaves out what it does not have, and an identity writes `null` for it; both come back as
they were (`Entry.ofJson_toJson`, `Identity.ofJson_toJson`).  An integer as the type of an entry is
read as exactly this code if it has 32 bits, and makes the entry and every listing with it malformed
otherwise (`records_read_back_and_codes_are_exact`).
-/

namespace RemoteFiles

open Json (Node Member Reading Spelled Spaced Literal Value ReadsBack written under)
open Json.Shape (Fills fills_field)
open RemoteFiles.Text (Glyph)
open RemoteFiles.Text.Glyph (ofList)

/-! ### What was written -/

namespace Entry

/-- The members of an entry in the order of its fields. -/
def members (e : Entry) : List (String × Value) :=
  ("name", .string e.name) ::
    (member? "size" .string e.size ++ member? "type" codeValue e.kind ++
      member? "mime" .string e.mime)

theorem fills_members (e : Entry) :
    Draft.strictShape.Fills ⟨none, none, none, none⟩ (written e.members) e.draft := by
  have hname : Draft.strictShape.Fills ⟨none, none, none, none⟩
      (written [("name", .string e.name)]) ⟨some e.name, none, none, none⟩ :=
    fills_field (fun (d : Draft) name => { d with name := some name }) rfl
      (by rw [Value.render]; exact Json.readsBack_string e.name) _
  have hsize : Draft.strictShape.Fills ⟨some e.name, none, none, none⟩
      (written (member? "size" .string e.size)) ⟨some e.name, e.size, none, none⟩ :=
    fills_member? (fun (d : Draft) size => { d with size := size }) rfl readsBack_optionString
      e.size rfl
  have hkind : Draft.strictShape.Fills ⟨some e.name, e.size, none, none⟩
      (written (member? "type" codeValue e.kind)) ⟨some e.name, e.size, e.kind, none⟩ :=
    fills_member? (fun (d : Draft) kind => { d with kind := kind }) rfl readsBack_optionCode
      e.kind rfl
  have hmime : Draft.strictShape.Fills ⟨some e.name, e.size, e.kind, none⟩
      (written (member? "mime" .string e.mime)) e.draft :=
    fills_member? (fun (d : Draft) mime => { d with mime := mime }) rfl readsBack_optionString
      e.mime rfl
  have h := hname.append (hsize.append (hkind.append hmime))
  simpa [members, written, draft] using h

theorem nodup_members (e : Entry) : ((written e.members).map Prod.fst).Nodup := by
  obtain ⟨name, size, kind, mime⟩ := e
  cases size <;> cases kind <;> cases mime <;> simp [members, member?, written]

theorem hasRequired_members (e : Entry) :
    Draft.strictShape.HasRequired [] (written e.members) := by
  simp [Json.Shape.HasRequired, Draft.strictShape, Draft.detailFields, members, written]

/-- An entry that was written is read as itself. -/
theorem ofJson_toJson (e : Entry) : ofJson e.toJson.toText = .ok e := by
  have hrender : e.toJson.render = Json.objectText (written e.members) := Json.render_object _
  have hread : ReadsBack Draft.strictShape.read e.toJson.render e.draft := by
    rw [hrender]
    exact Json.Shape.readsBack_object e.fills_members (e.nodup_members.filter _)
      e.hasRequired_members
  have hall : Draft.strictShape.readAll (Glyph.ofString e.toJson.toText) = .ok e.draft := by
    rw [Value.toText, Glyph.ofString, String.toList_ofList]
    exact Json.Shape.readAll_of_readsBack hread
  rw [ofJson, hall]
  rfl

end Entry

namespace Identity

theorem readsBack_optionalText (o : Option String) :
    ReadsBack (Json.readOption Json.readString) (optionalText o).render o := by
  cases o with
  | some s => exact Entry.readsBack_optionString s
  | none =>
    rw [optionalText, Value.render]
    refine ⟨⟨'n', _, rfl, by decide, by decide⟩, fun rest _ => ?_⟩
    have hword := Json.word_append "ull".toList rest
    change (Json.word "ull".toList (ofList "ull".toList ++ rest) >>= _) = _
    rw [hword]
    rfl

def members (i : Identity) : List (String × Value) := [
  ("principal", .string i.principal), ("group", optionalText i.group),
  ("home", optionalText i.home)]

theorem fills_members (i : Identity) : shape.Fills ⟨"", none, none⟩ (written i.members) i := by
  have hprincipal : shape.Fills ⟨"", none, none⟩ (written [("principal", .string i.principal)])
      ⟨i.principal, none, none⟩ :=
    fills_field (fun (i : Identity) principal => { i with principal := principal }) rfl
      (by rw [Value.render]; exact Json.readsBack_string i.principal) _
  have hgroup : shape.Fills ⟨i.principal, none, none⟩ (written [("group", optionalText i.group)])
      ⟨i.principal, i.group, none⟩ :=
    fills_field (fun (i : Identity) group => { i with group := group }) rfl
      (readsBack_optionalText i.group) _
  have hhome : shape.Fills ⟨i.principal, i.group, none⟩ (written [("home", optionalText i.home)])
      i :=
    fills_field (fun (i : Identity) home => { i with home := home }) rfl
      (readsBack_optionalText i.home) _
  exact hprincipal.append (hgroup.append hhome)

/-- An identity that was written is read as itself. -/
theorem ofJson_toJson (i : Identity) : ofJson i.toJson.toText = .ok i := by
  have hrender : i.toJson.render = Json.objectText (written i.members) := Json.render_object _
  have hread : ReadsBack shape.read i.toJson.render i := by
    rw [hrender]
    refine Json.Shape.readsBack_object i.fills_members (List.Nodup.filter _ ?_) ?_
    · simp [members, written]
    · simp [Json.Shape.HasRequired, shape, members, written]
  have hall : shape.readAll (Glyph.ofString i.toJson.toText) = .ok i := by
    rw [Value.toText, Glyph.ofString, String.toList_ofList]
    exact Json.Shape.readAll_of_readsBack hread
  rw [ofJson, hall]
  rfl

end Identity

/-! ### Type codes -/

namespace Entry

/-- The name of an entry that must have one. -/
def Draft.putFirst (d : Draft) (name : String) : Draft := { d with name := some name }

/-- The fields of an entry on its own. -/
def Draft.strictReadings : List (Reading Draft) :=
  .ofPut "name" true Node.string? putFirst :: detailReadings

theorem Draft.decodes_strictShape :
    List.Forall₂ Json.Field.Decodes strictShape.fields strictReadings :=
  .cons (Reading.decodes_ofPut Json.decodes_string "name" true putFirst) decodes_detailFields

theorem Draft.pairwise_strictReadings : strictReadings.Pairwise Reading.Independent := by
  refine .cons ?_ pairwise_detailReadings
  simp only [detailReadings, List.forall_mem_cons]
  refine ⟨?_, ?_, ?_, List.forall_mem_nil _⟩ <;>
    exact Reading.independent_ofPut (by decide) fun _ _ _ => rfl

/-- The entry of a draft that has a name. -/
def Draft.named (d : Draft) : Entry := ⟨d.name.getD "", d.size, d.kind, d.mime⟩

/-- A text of an object is read as the entry that the object is. -/
theorem ofJson_object {members : List Member} {text : List Char}
    (h : Spaced (Node.object members).tokens text) :
    (ofJson (String.ofList text)).toOption =
      (Reading.ofMembers? Draft.strictReadings [] Draft.strictShape.empty members).map
        Draft.named := by
  have hread := Json.Shape.readAll_tokens Draft.decodes_strictShape h
  change _ = Reading.ofMembers? Draft.strictReadings [] Draft.strictShape.empty members at hread
  rw [ofJson, Glyph.ofString, String.toList_ofList, ← hread]
  change _ = (Draft.strictShape.readAll (text.map Glyph.char)).toOption.map Draft.named
  cases Draft.strictShape.readAll (text.map Glyph.char) <;> rfl

/-- A type in an entry that has none adds its code, if it is one, whatever the name is read as. -/
theorem Draft.ofMembers?_type {first : Reading Draft}
    (hpairwise : (first :: detailReadings).Pairwise Reading.Independent)
    (hname : first.name = "name")
    (hfirst : ∀ kind, first.Keeps (putKind · kind))
    {k : Json.Spelling} (hk : k.string? = some "type") {front back : List Member}
    (habsent : under "type" (front ++ back) = []) (l : Literal) (a : Draft) :
    Reading.ofMembers? (first :: detailReadings) [] a (front ++ (k, .number l) :: back) =
      l.code?.bind fun code =>
        (Reading.ofMembers? (first :: detailReadings) [] a (front ++ back)).map
          (putKind · (some code)) := by
  let type : Reading Draft := .ofPut "type" false (Node.optional? Node.code?) putKind
  have hfind : Reading.find? (first :: detailReadings) "type" = some type := by
    rw [Reading.find?, List.find?_cons, hname]
    rfl
  have hmeans : type.means a (.number l) = (l.code?.map some).map (putKind a) := rfl
  rw [Reading.ofMembers?_perm hpairwise List.perm_middle]
  cases hcode : l.code? with
  | none =>
    -- the type is read first and refused, whatever the other members say
    rw [Reading.ofMembers?, hk]
    dsimp only [bind, Option.bind_some]
    rw [hfind]
    dsimp only
    rw [hmeans, hcode]
    rfl
  | some code =>
    rw [Option.bind_some]
    rw [hcode] at hmeans
    refine Reading.ofMembers?_insert hpairwise hk hfind ?_ habsent hmeans ?_
    · rw [List.forall_mem_cons, hname]
      refine ⟨fun h => absurd h (by decide), ?_⟩
      simp only [detailReadings, List.forall_mem_cons]
      exact ⟨fun _ => rfl, fun _ => rfl, fun _ => rfl, List.forall_mem_nil _⟩
    · rw [List.forall_mem_cons]
      refine ⟨fun _ => hfirst (some code), ?_⟩
      simp only [detailReadings, List.forall_mem_cons]
      exact ⟨fun _ => Reading.keeps_ofPut fun _ _ => rfl, fun h => absurd rfl h,
        fun _ => Reading.keeps_ofPut fun _ _ => rfl, List.forall_mem_nil _⟩

end Entry

/-- What comes of an integer as a type code: it is the code of what is read, or it has no 32 bits
and nothing is read. -/
def ReadsCode {α : Type} (n : Int) (make : UInt32 → α) (result : Except ProtocolError α) : Prop :=
  (∃ code : UInt32, (code.toNat : Int) = n ∧ result = .ok (make code)) ∨
    ((n < 0 ∨ 0x100000000 ≤ n) ∧ ∃ reason, result = .error (.malformedListing reason))

theorem readsCode_of_toOption {α : Type} {n : Int} {make : UInt32 → α}
    {result : Except ProtocolError α}
    (herror : ∀ e, result = .error e → ∃ reason, e = .malformedListing reason)
    (h : result.toOption = (Literal.ofInt n).code?.map make) : ReadsCode n make result := by
  rw [Literal.code?_ofInt] at h
  by_cases hrange : 0 ≤ n ∧ n < 0x100000000
  · left
    rw [if_pos hrange] at h
    refine ⟨UInt32.ofNat n.toNat, ?_, ?_⟩
    · rw [UInt32.toNat_ofNat_of_lt' (by rw [UInt32.size]; omega)]
      omega
    · exact Json.eq_ok_of_toOption h
  · right
    rw [if_neg hrange] at h
    refine ⟨by omega, ?_⟩
    cases result with
    | error e =>
      obtain ⟨reason, rfl⟩ := herror e rfl
      exact ⟨reason, rfl⟩
    | ok a => cases h

namespace Entry

theorem malformed_of_ofJson {text : String} {e : ProtocolError} (h : ofJson text = .error e) :
    ∃ reason, e = .malformedListing reason := by
  rw [ofJson] at h
  split at h
  · cases h
  · cases h
    exact ⟨_, rfl⟩

/-- An integer as the type of an entry that is valid without one. -/
theorem readsCode_ofJson (n : Int) {k : Json.Spelling} (hk : k.string? = some "type")
    {front back : List Member} (habsent : under "type" (front ++ back) = [])
    {plain typed : List Char} (hplain : Spaced (Node.object (front ++ back)).tokens plain)
    (htyped : Spaced (Node.object (front ++ (k, .number (.ofInt n)) :: back)).tokens typed)
    {e : Entry} (he : ofJson (String.ofList plain) = .ok e) :
    ReadsCode n (fun code => { e with kind := some code }) (ofJson (String.ofList typed)) := by
  refine readsCode_of_toOption (fun _ => malformed_of_ofJson) ?_
  have hread := ofJson_object hplain
  rw [he] at hread
  obtain ⟨d, hd, rfl⟩ := Option.map_eq_some_iff.mp hread.symm
  rw [Draft.strictReadings] at hd
  rw [ofJson_object htyped, Draft.strictReadings,
    Draft.ofMembers?_type Draft.pairwise_strictReadings rfl
      (fun _ => Reading.keeps_ofPut fun _ _ => rfl) hk habsent, hd]
  cases (Literal.ofInt n).code? <;> rfl

end Entry

namespace Listing

theorem malformed_of_ofJson {body : ByteArray} {e : ProtocolError} (h : ofJson body = .error e) :
    ∃ reason, e = .malformedListing reason := by
  rw [ofJson] at h
  split at h
  · cases h
  · cases h
    exact ⟨_, rfl⟩

/-- What an entry says with an integer as its type. -/
theorem said?_type (n : Int) {k : Json.Spelling} (hk : k.string? = some "type")
    {front back : List Member} (habsent : under "type" (front ++ back) = []) :
    Entry.Draft.said? (front ++ (k, .number (.ofInt n)) :: back) =
      (Literal.ofInt n).code?.bind fun code =>
        (Entry.Draft.said? (front ++ back)).map fun d => d.putKind (some code) := by
  rw [← Entry.Draft.ofMembers?_looseReadings, ← Entry.Draft.ofMembers?_looseReadings]
  exact Entry.Draft.ofMembers?_type Entry.Draft.pairwise_looseReadings rfl
    (fun _ => Reading.keeps_ofPut fun _ _ => rfl) hk habsent (.ofInt n) _

/-- An integer as the type of an entry of a listing that is valid without one. -/
theorem readsCode_ofJson (n : Int) {k : Json.Spelling} (hk : k.string? = some "type")
    {front back : List Member} (habsent : under "type" (front ++ back) = [])
    {outer outer' : List Member} {c : Json.Spelling} (hc : c.string? = some "content")
    {before after : List Node} {plain typed : List Char}
    (hplain : Spaced (Node.object (outer ++
      (c, .array (before ++ .object (front ++ back) :: after)) :: outer')).tokens plain)
    (htyped : Spaced (Node.object (outer ++ (c, .array (before ++
      .object (front ++ (k, .number (.ofInt n)) :: back) :: after)) :: outer')).tokens typed)
    {l : Listing} (hl : ofJson (String.ofList plain).toUTF8 = .ok l) :
    ∃ d es es', Entry.Draft.said? (front ++ back) = some d ∧
      Entry.Draft.named? before = some es ∧ Entry.Draft.named? after = some es' ∧
      l.entries = es ++ (d.kept ++ es') ∧
      ReadsCode n
        (fun code => ⟨l.directory, es ++ ((d.putKind (some code)).kept ++ es')⟩)
        (ofJson (String.ofList typed).toUTF8) := by
  have hread := ofJson_object hplain
  rw [hl, said?_content _ _ hc] at hread
  -- the listing without the type tells what stands around the entry
  split at hread
  · rename_i hothers
    obtain ⟨directory, hdirectory, hread⟩ := Option.bind_eq_some_iff.mp hread.symm
    obtain ⟨entries, hentries, rfl⟩ := Option.map_eq_some_iff.mp hread
    rw [Entry.Draft.named?_append, Entry.Draft.named?_cons, Entry.Draft.ofNode?_object] at hentries
    obtain ⟨es, hes, hmiddle⟩ := Option.bind_eq_some_iff.mp hentries
    obtain ⟨_, hbehind, rfl⟩ := Option.map_eq_some_iff.mp hmiddle
    obtain ⟨d, hd, hafter⟩ := Option.bind_eq_some_iff.mp hbehind
    obtain ⟨es', hes', rfl⟩ := Option.map_eq_some_iff.mp hafter
    refine ⟨d, es, es', hd, hes, hes', rfl, ?_⟩
    refine readsCode_of_toOption (fun _ => malformed_of_ofJson) ?_
    rw [ofJson_object htyped, said?_content _ _ hc, if_pos hothers, hdirectory,
      Entry.Draft.named?_append, Entry.Draft.named?_cons, Entry.Draft.ofNode?_object,
      said?_type n hk habsent, hes, hes', hd]
    cases (Literal.ofInt n).code? <;> rfl
  · cases hread

end Listing

/-- **Entries and identities come back as they were, and type codes are exact**: what was written
for any entry and any identity is read as the same; and an integer as the type of an entry that is
valid without one is read, in the entry and in any listing with it, as exactly this code if it has
32 bits, and refused as malformed otherwise. -/
theorem records_read_back_and_codes_are_exact :
    (∀ e : Entry, Entry.ofJson e.toJson.toText = .ok e) ∧
    (∀ i : Identity, Identity.ofJson i.toJson.toText = .ok i) ∧
    ∀ (n : Int) (k : Json.Spelling) (front back : List Member), k.string? = some "type" →
      under "type" (front ++ back) = [] →
      (∀ (plain typed : List Char) (e : Entry),
        Spaced (Node.object (front ++ back)).tokens plain →
        Spaced (Node.object (front ++ (k, .number (.ofInt n)) :: back)).tokens typed →
        Entry.ofJson (String.ofList plain) = .ok e →
        ReadsCode n (fun code => { e with kind := some code })
          (Entry.ofJson (String.ofList typed))) ∧
      ∀ (c : Json.Spelling) (outer outer' : List Member) (before after : List Node)
        (plain typed : List Char) (l : Listing), c.string? = some "content" →
        Spaced (Node.object (outer ++
          (c, .array (before ++ .object (front ++ back) :: after)) :: outer')).tokens plain →
        Spaced (Node.object (outer ++ (c, .array (before ++
          .object (front ++ (k, .number (.ofInt n)) :: back) :: after)) :: outer')).tokens typed →
        Listing.ofJson (String.ofList plain).toUTF8 = .ok l →
        ∃ d es es', Entry.Draft.said? (front ++ back) = some d ∧
          Entry.Draft.named? before = some es ∧ Entry.Draft.named? after = some es' ∧
          l.entries = es ++ (d.kept ++ es') ∧
          ReadsCode n
            (fun code => ⟨l.directory, es ++ ((d.putKind (some code)).kept ++ es')⟩)
            (Listing.ofJson (String.ofList typed).toUTF8) := by
  refine ⟨Entry.ofJson_toJson, Identity.ofJson_toJson, ?_⟩
  intro n k front back hk habsent
  constructor
  · intro plain typed e hplain htyped he
    exact Entry.readsCode_ofJson n hk habsent hplain htyped he
  · intro c outer outer' before after plain typed l hc hplain htyped hl
    exact Listing.readsCode_ofJson n hk habsent hc hplain htyped hl

theorem records_read_back_and_codes_are_exact_of_typedFile :
    ReadsCode 0x100000000 (fun code => ⟨"f", none, some code, none⟩)
      (Entry.ofJson (String.ofList
        (Json.spread [] (Node.object (Listing.typedFile 0x100000000)).tokens))) ∧
    ReadsCode 0xFFFFFFFF (fun code => ⟨none, [⟨"f", none, some code, none⟩]⟩)
      (Listing.ofJson (String.ofList (Json.spread [] (Node.object [(Listing.contentKey,
        .array [.object (Listing.typedFile 0xFFFFFFFF)])]).tokens)).toUTF8) := by
  have hblank : Json.IsBlank [] := List.forall_mem_nil _
  let untyped : List Member := (Listing.typedFile 0).dropLast
  let listing : List Member := [(Listing.contentKey, .array [.object untyped])]
  have hplain := Node.spaced_tokens hblank (.object untyped)
  have hlisted := Node.spaced_tokens hblank (.object listing)
  have hentry : Entry.ofJson (String.ofList (Json.spread [] (Node.object untyped).tokens)) =
      .ok ⟨"f", none, none, none⟩ :=
    Json.eq_ok_of_toOption (Entry.ofJson_object hplain)
  have hlisting : Listing.ofJson (String.ofList (Json.spread [] (Node.object
      listing).tokens)).toUTF8 = .ok ⟨none, [⟨"f", none, none, none⟩]⟩ :=
    Json.eq_ok_of_toOption (Listing.ofJson_object hlisted)
  constructor
  · exact (records_read_back_and_codes_are_exact.2.2 0x100000000 Listing.typeKey untyped [] rfl
      rfl).1 _ _ _ hplain (Node.spaced_tokens hblank _) hentry
  · obtain ⟨d, es, es', hd, hes, hes', -, hcode⟩ :=
      (records_read_back_and_codes_are_exact.2.2 0xFFFFFFFF Listing.typeKey untyped [] rfl
        rfl).2 Listing.contentKey [] [] [] [] _ _ _ rfl hlisted (Node.spaced_tokens hblank _)
        hlisting
    obtain rfl := Option.some.inj (hd.symm.trans
      (show _ = some (⟨some "f", none, none, none⟩ : Entry.Draft) from rfl))
    obtain rfl := Option.some.inj (hes.symm.trans (show _ = some [] from rfl))
    obtain rfl := Option.some.inj (hes'.symm.trans (show _ = some [] from rfl))
    exact hcode

end RemoteFiles
