import RemoteFiles.Proofs.Json.Decoding

/-!
# Objects without an order

What an object means as a record depends only on the values under the names of the record's fields
(`Reading.ofMembers?_eq`), if no two fields get in each other's way.  So the order of the members
does not matter, nor do members that are no field, wherever they stand, nor does `null` for a field
that may be missing (`Reading.ofMembers?_reworded`).
-/

namespace RemoteFiles.Json

open RemoteFiles.Text (Glyph)

variable {α β : Type}

/-- The values under a key of an object, in their order. -/
def under (key : String) (members : List Member) : List Node :=
  members.filterMap fun (k, v) => if k.string? = some key then some v else none

/-- Every key spells a string. -/
def Spelled (members : List Member) : Prop := ∀ m ∈ members, m.1.string?.isSome

instance (members : List Member) : Decidable (Spelled members) :=
  inferInstanceAs (Decidable (∀ m ∈ members, _))

theorem under_cons_of_eq {k : Spelling} {key : String} (hk : k.string? = some key) (v : Node)
    (members : List Member) : under key ((k, v) :: members) = v :: under key members := by
  simp [under, hk]

theorem under_cons_of_ne {k : Spelling} {key : String} (hk : k.string? ≠ some key) (v : Node)
    (members : List Member) : under key ((k, v) :: members) = under key members := by
  simp [under, hk]

theorem under_perm {members members' : List Member} (h : members.Perm members') (key : String) :
    (under key members).Perm (under key members') :=
  h.filterMap _

theorem spelled_cons {k : Spelling} {key : String} (hk : k.string? = some key) (v : Node)
    (members : List Member) : Spelled ((k, v) :: members) ↔ Spelled members := by
  rw [Spelled, List.forall_mem_cons, ← Spelled]
  exact and_iff_right (by rw [hk]; rfl)

theorem spelled_perm {members members' : List Member} (h : members.Perm members') :
    Spelled members ↔ Spelled members' :=
  ⟨fun hs m hm => hs m (h.mem_iff.mpr hm), fun hs m hm => hs m (h.mem_iff.mp hm)⟩

namespace Reading

/-- Two fields have different names, and it does not matter which of them is read first. -/
structure Independent (r r' : Reading α) : Prop where
  name : r.name ≠ r'.name
  comm : ∀ a v v', (r.means a v).bind (r'.means · v') = (r'.means a v').bind (r.means · v)

/-- The fields of a record, each read off the one value under its name; `seen` are those that have
their value already. -/
def gather? (seen : List String) (members : List Member) : List (Reading α) → α → Option α
  | [], a => some a
  | r :: readings, a =>
    match under r.name members with
    | [] =>
      if r.required && !seen.contains r.name then none else gather? seen members readings a
    | [v] =>
      if seen.contains r.name then none
      else (r.means a v).bind (gather? seen members readings)
    | _ => none

variable {readings : List (Reading α)} {seen seen' : List String} {members members' : List Member}

/-! #### What one field does -/

section Field

variable {r : Reading α}

theorem gather?_absent (h : under r.name members = []) :
    gather? seen members (r :: readings) =
      if r.required && !seen.contains r.name then fun _ => none
      else gather? seen members readings := by
  funext a
  rw [gather?, h]
  dsimp only
  split <;> rfl

theorem gather?_present {v : Node} (h : under r.name members = [v]) :
    gather? seen members (r :: readings) =
      if seen.contains r.name then fun _ => none
      else fun a => (r.means a v).bind (gather? seen members readings) := by
  funext a
  rw [gather?, h]
  dsimp only
  split <;> rfl

theorem gather?_repeated {v w : Node} {vs : List Node} (h : under r.name members = v :: w :: vs) :
    gather? seen members (r :: readings) = fun _ => none := by
  funext a
  rw [gather?, h]

/-- A field that has its value already takes no other. -/
theorem gather?_again {v : Node} {vs : List Node} (h : under r.name members = v :: vs)
    (hseen : seen.contains r.name = true) :
    gather? seen members (r :: readings) = fun _ => none := by
  cases vs with
  | nil => rw [gather?_present h, if_pos hseen]
  | cons w vs => exact gather?_repeated h

end Field

theorem gather?_nil (seen : List String) (readings : List (Reading α)) (a : α) :
    gather? seen [] readings a =
      if readings.all fun r => !r.required || seen.contains r.name then some a else none := by
  induction readings with
  | nil => rfl
  | cons r readings ih =>
    rw [gather?_absent rfl, List.all_cons]
    cases r.required <;> cases seen.contains r.name <;> simp [ih]

theorem gather?_congr (hunder : ∀ r ∈ readings, under r.name members = under r.name members')
    (hseen : ∀ r ∈ readings, seen.contains r.name = seen'.contains r.name) :
    gather? seen members readings = gather? seen' members' readings := by
  induction readings with
  | nil => rfl
  | cons r readings ih =>
    rw [List.forall_mem_cons] at hunder hseen
    funext a
    rw [gather?, gather?, hunder.1, hseen.1, ih hunder.2 hseen.2]

/-- The first value for the field that comes first. -/
theorem gather?_first {k : Spelling} {r : Reading α} (hk : k.string? = some r.name)
    (hothers : ∀ r' ∈ readings, r.name ≠ r'.name) (hseen : seen.contains r.name = false)
    (v : Node) (a : α) :
    gather? seen ((k, v) :: members) (r :: readings) a =
      (r.means a v).bind (gather? (r.name :: seen) members (r :: readings)) := by
  have hself : (r.name :: seen).contains r.name = true := by simp
  -- the other fields do not see the value
  have htail : gather? seen ((k, v) :: members) readings =
      gather? (r.name :: seen) members readings := by
    refine gather?_congr (fun r' hr' => under_cons_of_ne ?_ v members) (fun r' hr' => ?_)
    · rw [hk]
      exact fun h => hothers r' hr' (Option.some.inj h)
    · simp [(hothers r' hr').symm]
  rcases hu : under r.name members with _ | ⟨w, ws⟩
  · have hvalue : under r.name ((k, v) :: members) = [v] := by rw [under_cons_of_eq hk, hu]
    rw [gather?_present hvalue, gather?_absent hu, hseen, hself, htail]
    simp
  · have hvalues : under r.name ((k, v) :: members) = v :: w :: ws := by
      rw [under_cons_of_eq hk, hu]
    rw [gather?_repeated hvalues, gather?_again hu hself, Option.bind_fun_none]

/-- One more value for a field that had none. -/
theorem gather?_cons {k : Spelling} {key : String} (hk : k.string? = some key) {r : Reading α}
    (hreadings : readings.Pairwise Independent) (hfind : find? readings key = some r)
    (hseen : seen.contains key = false) (v : Node) (a : α) :
    gather? seen ((k, v) :: members) readings a =
      (r.means a v).bind (gather? (key :: seen) members readings) := by
  induction readings generalizing a with
  | nil => cases hfind
  | cons r' readings ih =>
    rw [List.pairwise_cons] at hreadings
    rw [find?, List.find?_cons] at hfind
    by_cases hname : r'.name = key
    · subst hname
      rw [beq_self_eq_true] at hfind
      cases hfind
      exact gather?_first hk (fun r' hr' => (hreadings.1 r' hr').name) hseen v a
    · rw [beq_false_of_ne hname] at hfind
      -- the field in front is read before `r` on one side and after it on the other
      have htail := funext (ih hreadings.2 hfind)
      have hcomm := (hreadings.1 r (List.mem_of_find?_eq_some hfind)).comm
      have hunder : under r'.name ((k, v) :: members) = under r'.name members := by
        refine under_cons_of_ne ?_ v members
        rw [hk]
        exact fun h => hname (Option.some.inj h).symm
      have hcontains : (key :: seen).contains r'.name = seen.contains r'.name := by simp [hname]
      rcases hu : under r'.name members with _ | ⟨w, _ | ⟨w', ws⟩⟩
      · rw [gather?_absent (hunder.trans hu), gather?_absent hu, hcontains, htail]
        split
        · rw [Option.bind_fun_none]
        · rfl
      · rw [gather?_present (hunder.trans hu), gather?_present hu, hcontains, htail]
        split
        · rw [Option.bind_fun_none]
        · dsimp only
          rw [← Option.bind_assoc, hcomm, Option.bind_assoc]
      · rw [gather?_repeated (hunder.trans hu), gather?_repeated hu, Option.bind_fun_none]

/-- A second value for a field. -/
theorem gather?_of_seen {k : Spelling} {key : String} (hk : k.string? = some key) {r : Reading α}
    (hfind : find? readings key = some r) (hseen : seen.contains key = true) (v : Node) :
    gather? seen ((k, v) :: members) readings = fun _ => none := by
  induction readings with
  | nil => cases hfind
  | cons r' readings ih =>
    rw [find?, List.find?_cons] at hfind
    by_cases hname : r'.name = key
    · subst hname
      exact gather?_again (under_cons_of_eq hk v members) hseen
    · rw [beq_false_of_ne hname] at hfind
      funext a
      rw [gather?, ih hfind]
      split
      · exact ite_self _
      · rw [Option.bind_fun_none, ite_self]
      · rfl

/-- A value for something that is no field. -/
theorem gather?_of_unknown {k : Spelling} {key : String} (hk : k.string? = some key)
    (hfind : find? readings key = none) (v : Node) (a : α) :
    gather? seen ((k, v) :: members) readings a = gather? seen members readings a := by
  refine congrFun (gather?_congr (fun r hr => under_cons_of_ne ?_ v members) fun _ _ => rfl) a
  intro h
  rw [hk] at h
  exact List.find?_eq_none.mp hfind r hr (beq_iff_eq.mpr (Option.some.inj h).symm)

/-- What an object means is read off the values under the names of the fields. -/
theorem ofMembers?_eq (hreadings : readings.Pairwise Independent) (seen : List String)
    (members : List Member) (a : α) :
    ofMembers? readings seen a members =
      if Spelled members then gather? seen members readings a else none := by
  induction members generalizing seen a with
  | nil => rw [ofMembers?, gather?_nil, if_pos (show Spelled [] from List.forall_mem_nil _)]
  | cons member members ih =>
    obtain ⟨k, v⟩ := member
    rw [ofMembers?]
    cases hk : k.string? with
    | none =>
      -- a key that spells nothing spoils the object, wherever it stands
      rw [if_neg]
      · rfl
      · intro hspelled
        have hk' := hspelled _ List.mem_cons_self
        rw [hk] at hk'
        cases hk'
    | some key =>
      -- the other keys decide, and the value is that of a field, one more for it, or of none
      simp only [spelled_cons hk]
      dsimp only [bind, Option.bind_some]
      cases hfind : find? readings key with
      | none =>
        dsimp only
        rw [ih, gather?_of_unknown hk hfind]
      | some r =>
        dsimp only
        cases hseen : seen.contains key with
        | true =>
          rw [if_pos rfl, gather?_of_seen hk hfind hseen, ite_self]
        | false =>
          rw [if_neg Bool.false_ne_true, gather?_cons hk hreadings hfind hseen,
            funext (ih (key :: seen))]
          by_cases hmembers : Spelled members
          · simp only [if_pos hmembers]
          · simp only [if_neg hmembers, Option.bind_fun_none]

/-! ### Changes that do not matter -/

theorem gather?_perm (h : members.Perm members') (seen : List String)
    (readings : List (Reading α)) :
    gather? seen members readings = gather? seen members' readings := by
  induction readings with
  | nil => rfl
  | cons r readings ih =>
    have hunder := under_perm h r.name
    -- the order can only differ where a field has two values or more, and then nothing is read
    rcases hu : under r.name members with _ | ⟨v, _ | ⟨w, vs⟩⟩
    · rw [hu] at hunder
      rw [gather?_absent hu, gather?_absent hunder.symm.eq_nil, ih]
    · rw [hu] at hunder
      rw [gather?_present hu, gather?_present hunder.symm.eq_singleton, ih]
    · rw [hu] at hunder
      obtain ⟨v', w', vs', hu'⟩ : ∃ v' w' vs', under r.name members' = v' :: w' :: vs' := by
        have hlength := hunder.length_eq
        rcases hu' : under r.name members' with _ | ⟨v', _ | ⟨w', vs'⟩⟩
        · simp [hu'] at hlength
        · simp [hu'] at hlength
        · exact ⟨v', w', vs', rfl⟩
      rw [gather?_repeated hu, gather?_repeated hu']

/-- The members of an object may be reordered. -/
theorem ofMembers?_perm (hreadings : readings.Pairwise Independent) (h : members.Perm members')
    (a : α) : ofMembers? readings [] a members = ofMembers? readings [] a members' := by
  rw [ofMembers?_eq hreadings, ofMembers?_eq hreadings, gather?_perm h]
  exact if_congr (spelled_perm h) rfl rfl

/-- A member that is no field may be anywhere. -/
theorem ofMembers?_unknown {k : Spelling} {key : String} (hk : k.string? = some key)
    (hfind : find? readings key = none) (v : Node) (members : List Member) (a : α) :
    ofMembers? readings [] a ((k, v) :: members) = ofMembers? readings [] a members := by
  rw [ofMembers?, hk]
  dsimp only [bind, Option.bind_some]
  rw [hfind]

/-- It does not matter whether a field without a value counts as seen, if it may be missing. -/
theorem gather?_seen {key : String} (habsent : under key members = [])
    (hoptional : ∀ r ∈ readings, r.name = key → r.required = false) :
    gather? [key] members readings = gather? [] members readings := by
  induction readings with
  | nil => rfl
  | cons r readings ih =>
    rw [List.forall_mem_cons] at hoptional
    have hrest := ih hoptional.2
    by_cases hname : r.name = key
    · rw [gather?_absent (hname ▸ habsent), gather?_absent (hname ▸ habsent), hoptional.1 hname,
        hrest]
      rfl
    · have hseen : [key].contains r.name = ([] : List String).contains r.name := by
        simp [hname]
      funext a
      rw [gather?, gather?, hseen, hrest]

/-- A field neither looks at a change of the record nor undoes it. -/
def Keeps (r : Reading α) (f : α → α) : Prop :=
  ∀ a v, r.means (f a) v = (r.means a v).map f

/-- A change of the record at which no field looks that has a value. -/
theorem gather?_map {f : α → α} (hf : ∀ r ∈ readings, under r.name members ≠ [] → r.Keeps f)
    (a : α) :
    gather? seen members readings (f a) = (gather? seen members readings a).map f := by
  induction readings generalizing a with
  | nil => rfl
  | cons r readings ih =>
    rw [List.forall_mem_cons] at hf
    have hrest := ih hf.2
    rcases hu : under r.name members with _ | ⟨v, _ | ⟨w, vs⟩⟩
    · rw [gather?_absent hu]
      split
      · rfl
      · exact hrest a
    · have hv := hf.1 (by simp [hu]) a v
      rw [gather?_present hu]
      split
      · rfl
      · dsimp only
        rw [hv]
        cases r.means a v with
        | none => rfl
        | some b => exact hrest b
    · rw [gather?_repeated hu]
      rfl

/-- A field that was missing changes the record by its value alone. -/
theorem ofMembers?_insert (hreadings : readings.Pairwise Independent) {k : Spelling} {key : String}
    (hk : k.string? = some key) {r : Reading α} (hfind : find? readings key = some r)
    (hoptional : ∀ r ∈ readings, r.name = key → r.required = false)
    (habsent : under key members = []) {v : Node} {a : α} {f : α → α}
    (hv : r.means a v = some (f a))
    (hf : ∀ r ∈ readings, r.name ≠ key → r.Keeps f) :
    ofMembers? readings [] a ((k, v) :: members) = (ofMembers? readings [] a members).map f := by
  -- a field with a value has another name than the one that was missing
  have hothers : ∀ r ∈ readings, under r.name members ≠ [] → r.Keeps f := by
    intro r hr hvalues
    refine hf r hr ?_
    rintro rfl
    exact hvalues habsent
  rw [ofMembers?, hk]
  dsimp only [bind, Option.bind_some]
  rw [hfind]
  dsimp only
  rw [hv, if_neg (show ¬ ([] : List String).contains key = true from Bool.false_ne_true)]
  dsimp only [Option.bind_some]
  rw [ofMembers?_eq hreadings, ofMembers?_eq hreadings, gather?_seen habsent hoptional,
    gather?_map hothers]
  split <;> rfl

end Reading

/-! ### Wordings -/

/-- Another wording of an object whose fields are `known`: its members in another order, one more
that is no field, or one more that is `null` for a field that may be so and was missing. -/
inductive Reworded (known nullable : List String) : List Member → List Member → Prop
  | order {members members' : List Member} (h : members.Perm members') :
      Reworded known nullable members members'
  | unknown (front back : List Member) {k : Spelling} {key : String} (hk : k.string? = some key)
      (hkey : key ∉ known) (v : Node) :
      Reworded known nullable (front ++ back) (front ++ (k, v) :: back)
  | null (front back : List Member) {k : Spelling} {key : String} (hk : k.string? = some key)
      (hkey : key ∈ nullable) (absent : under key (front ++ back) = []) :
      Reworded known nullable (front ++ back) (front ++ (k, .null) :: back)

/-- Another wording means the same. -/
theorem Reading.ofMembers?_reworded {readings : List (Reading α)} {known nullable : List String}
    {a : α} (hreadings : readings.Pairwise Independent) (hknown : readings.map Reading.name = known)
    (hnullable : ∀ key ∈ nullable, ∃ r, find? readings key = some r ∧ r.means a .null = some a)
    (hoptional : ∀ r ∈ readings, r.name ∈ nullable → r.required = false)
    {members members' : List Member} (h : Reworded known nullable members members') :
    ofMembers? readings [] a members = ofMembers? readings [] a members' := by
  cases h with
  | order h => exact ofMembers?_perm hreadings h a
  | @unknown front back k key hk hkey v =>
    have hfind : find? readings key = none := by
      rw [find?, List.find?_eq_none]
      intro r hr hname
      rw [← hknown] at hkey
      exact hkey (List.mem_map.mpr ⟨r, hr, beq_iff_eq.mp hname⟩)
    rw [ofMembers?_perm hreadings List.perm_middle, ofMembers?_unknown hk hfind]
  | null front back hk hkey absent =>
    obtain ⟨r, hfind, hnull⟩ := hnullable _ hkey
    rw [ofMembers?_perm hreadings List.perm_middle]
    rw [ofMembers?_insert hreadings hk hfind ?_ absent (f := id) hnull, Option.map_id_fun, id]
    · intro r hr _ a v
      rw [Option.map_id_fun]
      rfl
    · rintro r hr rfl
      exact hoptional r hr hkey

/-! ### Fields that are put into a record -/

/-- What an object says under a key that may be missing. -/
def said? (means : Node → Option β) (default : β) (key : String) (members : List Member) :
    Option β :=
  match under key members with
  | [] => some default
  | [v] => means v
  | _ => none

theorem said?_cons_of_ne {k : Spelling} {key : String} (hk : k.string? ≠ some key)
    (means : Node → Option β) (default : β) (v : Node) (members : List Member) :
    said? means default key ((k, v) :: members) = said? means default key members := by
  rw [said?, under_cons_of_ne hk, ← said?]

/-- The only value under a key is the one that counts. -/
theorem said?_cons_of_eq {k : Spelling} {key : String} (hk : k.string? = some key)
    (means : Node → Option β) (default : β) (v : Node) (members : List Member) :
    said? means default key ((k, v) :: members) =
      if under key members = [] then means v else none := by
  rw [said?, under_cons_of_eq hk]
  cases under key members <;> rfl

namespace Reading

variable {γ : Type} {readings : List (Reading α)}

/-- A field whose value is put into the record. -/
def ofPut (name : String) (required : Bool) (means : Node → Option β) (put : α → β → α) :
    Reading α :=
  ⟨name, fun a v => (means v).map (put a), required⟩

theorem keeps_ofPut {name : String} {required : Bool} {means : Node → Option β}
    {put : α → β → α} {f : α → α} (hput : ∀ a b, put (f a) b = f (put a b)) :
    Keeps (ofPut name required means put) f := by
  intro a v
  show (means v).map (put (f a)) = ((means v).map (put a)).map f
  rw [funext (hput a), Option.map_map]
  rfl

theorem independent_ofPut {name name' : String} {required required' : Bool}
    {means : Node → Option β} {means' : Node → Option γ} {put : α → β → α} {put' : α → γ → α}
    (hname : name ≠ name') (hput : ∀ a b c, put' (put a b) c = put (put' a c) b) :
    Independent (ofPut name required means put) (ofPut name' required' means' put') := by
  refine ⟨hname, fun a v v' => ?_⟩
  show ((means v).map (put a)).bind (fun a => (means' v').map (put' a)) =
    ((means' v').map (put' a)).bind (fun a => (means v).map (put a))
  cases means v <;> cases means' v' <;> simp [hput]

theorem decodes_ofPut {read : List Glyph → Except Fault (Parsed β)} {means : Node → Option β}
    (hread : Decodes read means) (name : String) (required : Bool) (put : α → β → α) :
    Field.Decodes ⟨name, fun a gs => do
      let (b, rest) ← read gs
      .ok (put a b, rest), required⟩ (ofPut name required means put) :=
  ⟨rfl, rfl, fun a => hread.map (put a)⟩

theorem gather?_ofPut {name : String} {means : Node → Option β} {put : α → β → α} {default : β}
    {a : α} (hput : put a default = a) (members : List Member) :
    gather? [] members (ofPut name false means put :: readings) a =
      (said? means default name members).bind fun b => gather? [] members readings (put a b) := by
  rw [gather?, said?, ofPut]
  rcases under name members with _ | ⟨v, _ | ⟨w, vs⟩⟩
  · simp [hput]
  · cases hv : means v <;> simp [hv]
  · rfl

end Reading

end RemoteFiles.Json
