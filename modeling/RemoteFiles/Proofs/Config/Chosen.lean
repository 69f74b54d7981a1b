import RemoteFiles.Proofs.Config.Written

/-!
# Documents of chosen settings

Some of the settings make a configuration, with the standard ones in the other places.  Every
document that gives these settings and no others is read as that configuration, in whatever order
its parts and settings stand and whatever else it contains (`chosen_settings_are_read`).

There is such a document unless the timeout has more than 63 bits.  Such a timeout is given by no
text at all (`timeout_lt_of_ofToml`), since the integers of a document have a sign.
-/

namespace RemoteFiles.Config

open Toml (Document Node Entries)

/-! ### Timeouts -/

section

variable {f : Field} {node item : Node} {text : String} {c : Config}

theorem isProper_of_nodeIn? (hnode : node.IsProper) (h : f.nodeIn? node = some item) :
    item.IsProper := by
  cases hnode with
  | table _ hentries | inline _ hentries =>
    obtain ⟨k, hmem, -⟩ := Toml.find?_eq_some h
    exact hentries _ hmem
  | array hitems | tables hitems => exact hitems _ (List.mem_of_getElem? h)
  | string | integer | float | boolean | moment => cases h

theorem count?_lt (hnode : node.IsProper) {n : UInt64} (h : Field.count? node = some n) :
    n.toNat < numberBound := by
  cases hnode with
  | @integer span i hrange =>
    simp only [Toml.inRange, Bool.and_eq_true, decide_eq_true_eq] at hrange
    rw [Field.count?, Option.ite_none_right_eq_some, Option.some_inj] at h
    obtain ⟨-, rfl⟩ := h
    -- 63 bits are left of 64, so nothing is lost in the conversion
    rw [UInt64.toNat_ofNat', numberBound]
    omega
  | string | float | boolean | moment | array | inline | table | tables => cases h

/-- No text gives a timeout of more than 63 bits. -/
theorem timeout_lt_of_ofToml (h : ofToml text = .ok c) : c.timeout.toNat < numberBound := by
  obtain ⟨entries, hread, -, rfl⟩ := ofToml_eq_ok_iff.mp h
  have hentries := Toml.isProper_of_read hread
  cases hgiven : Field.timeout.given? entries with
  | none =>
    simp only [ofChoice, hgiven]
    decide
  | some n =>
    simp only [ofChoice, hgiven]
    obtain ⟨item, hitem, hcount⟩ := Option.bind_eq_some_iff.mp hgiven
    obtain ⟨node, hnode, hin⟩ := Option.bind_eq_some_iff.mp hitem
    obtain ⟨k, hmem, -⟩ := Toml.find?_eq_some hnode
    exact count?_lt (isProper_of_nodeIn? (hentries.proper _ hmem) hin) hcount

end

/-! ### Documents -/

theorem forall_isWritable_iff {choice : (f : Field) → Option f.Value} :
    (∀ (f : Field) (v : f.Value), choice f = some v → f.IsWritable v) ↔
      (ofChoice choice).timeout.toNat < numberBound := by
  have htimeout : (ofChoice choice).timeout = (choice .timeout).getD standard.timeout := rfl
  rw [htimeout]
  constructor
  · intro h
    cases hchoice : choice .timeout with
    | none => decide
    | some n => exact h .timeout n hchoice
  · intro h f v hv
    cases f
    case timeout =>
      rw [hv] at h
      exact h
    all_goals trivial

/-- A choice of settings makes a configuration with the standard settings in the other places.  A
text is read as this configuration if it is a document with values of the right types at the places
of parts and settings, and gives the chosen settings and no others; and so is every document that is
written with the chosen settings in blocks for their parts, in any order and among other lines and
blocks.  If 63 bits hold the timeout, there are such documents, and otherwise no text is read as the
configuration.  The empty text is read as the standard configuration. -/
theorem chosen_settings_are_read (choice : (f : Field) → Option f.Value) :
    (∀ f : Field, f.get (ofChoice choice) = (choice f).or (f.get standard)) ∧
    (∀ (text : String) (entries : Entries), Toml.read text = some entries → IsTyped entries →
      (∀ f : Field, f.given? entries = choice f) → ofToml text = .ok (ofChoice choice)) ∧
    (∀ doc : Document, doc.Fits → Gives doc choice → ofToml doc.text = .ok (ofChoice choice)) ∧
    (if (ofChoice choice).timeout.toNat < 2 ^ 63 then ∃ doc : Document, doc.Fits ∧ Gives doc choice
      else ∀ text, ofToml text ≠ .ok (ofChoice choice)) ∧
    ofToml "" = .ok standard := by
  refine ⟨get_ofChoice choice, fun text entries hread htyped hgiven => ?_, fun doc => ofToml_of_gives,
    ?_, rfl⟩
  · rw [← funext hgiven]
    exact ofToml_eq_ok_iff.mpr ⟨entries, hread, htyped, rfl⟩
  · split
    · rename_i htimeout
      exact exists_gives_iff.mpr (forall_isWritable_iff.mpr htimeout)
    · rename_i htimeout
      exact fun text hread => htimeout (timeout_lt_of_ofToml hread)

/-- A choice of two settings. -/
def rootAndTimeout : (f : Field) → Option f.Value
  | .root => some "/data"
  | .timeout => some 5
  | .url | .userAgent | .username | .level => none

/-- A document with the parts of two settings in the other order, and with more than these. -/
def unorderedDocument : Document where
  top := [("title", .text "more"), ("numbers", .array [.scalar "-1".toList, .scalar "2.5".toList])]
  blocks := [
    ("http", [
      ("retries", .inline [("on", .scalar "true".toList), ("after", .array [.text "1s"])]),
      ("timeout_secs", .scalar "5".toList)]),
    ("other", [("url", .text "nowhere")]),
    ("server", [("root", .text "/data")])]

theorem chosen_settings_are_read_unordered :
    unorderedDocument.Fits ∧ Gives unorderedDocument rootAndTimeout ∧
      ofToml ("title = \"more\"\nnumbers = [-1,2.5]\n" ++
        "[http]\nretries = \x7bon = true,after = [\"1s\"]\x7d\ntimeout_secs = 5\n\n" ++
        "[other]\nurl = \"nowhere\"\n\n[server]\nroot = \"/data\"\n") =
      .ok { standard with root := "/data", timeout := 5 } := by
  have hscalars : ∀ cs ∈ ["-1".toList, "2.5".toList, "true".toList, "5".toList],
      Toml.IsScalar cs := by
    simp only [List.forall_mem_cons]
    refine ⟨?_, ?_, ?_, ?_, List.forall_mem_nil _⟩
    all_goals exact ⟨by decide, List.all_eq_true.mp (by decide), fun _ => rfl⟩
  simp only [List.forall_mem_cons] at hscalars
  obtain ⟨hminus, hpoint, htrue, hfive, -⟩ := hscalars
  have htop : ∀ line ∈ unorderedDocument.top, line.Fits := by
    refine List.forall_mem_cons.mpr ⟨.text 79 _, List.forall_mem_singleton.mpr (.array ?_)⟩
    exact List.forall_mem_cons.mpr ⟨.scalar 78 hminus,
      List.forall_mem_singleton.mpr (.scalar 78 hpoint)⟩
  have hhttp : Toml.Block.Fits ("http", [
      ("retries", .inline [("on", .scalar "true".toList), ("after", .array [.text "1s"])]),
      ("timeout_secs", .scalar "5".toList)]) := by
    refine ⟨List.forall_mem_cons.mpr ⟨.inline (by decide) ?_,
      List.forall_mem_singleton.mpr (.scalar 79 hfive)⟩, by decide⟩
    exact List.forall_mem_cons.mpr ⟨.scalar 78 htrue, List.forall_mem_singleton.mpr
      (.array (List.forall_mem_singleton.mpr (.text 77 _)))⟩
  have hone : ∀ name key s, Toml.Block.Fits (name, [(key, .text s)]) := fun name key s =>
    ⟨List.forall_mem_singleton.mpr (.text 79 s), List.nodup_singleton key⟩
  have hblocks : ∀ block ∈ unorderedDocument.blocks, block.Fits :=
    List.forall_mem_cons.mpr ⟨hhttp, List.forall_mem_cons.mpr ⟨hone _ _ _,
      List.forall_mem_singleton.mpr (hone _ _ _)⟩⟩
  have hfits : unorderedDocument.Fits := ⟨htop, hblocks, by decide⟩
  have hgives : Gives unorderedDocument rootAndTimeout := by
    constructor
    · intro f
      cases f <;> decide
    · intro f
      cases f <;> rfl
  have htext : unorderedDocument.text = "title = \"more\"\nnumbers = [-1,2.5]\n" ++
      "[http]\nretries = \x7bon = true,after = [\"1s\"]\x7d\ntimeout_secs = 5\n\n" ++
      "[other]\nurl = \"nowhere\"\n\n[server]\nroot = \"/data\"\n" := by
    decide +kernel
  have hread := (chosen_settings_are_read rootAndTimeout).2.2.1 _ hfits hgives
  rw [htext] at hread
  exact ⟨hfits, hgives, hread⟩

/-- Not every timeout is given by a text, and not every array is read. -/
theorem chosen_settings_are_read_not :
    (∀ text, ofToml text ≠ .ok { standard with timeout := 9223372036854775808 }) ∧
      ofToml "[http]\ntimeout_secs = 9223372036854775808\n" = .error .notToml ∧
      ofToml (String.ofList ("x = ".toList ++ List.replicate 90 '[' ++ List.replicate 90 ']')) =
        .error .notToml := by
  refine ⟨fun text hread => ?_, ?_, ?_⟩
  · exact absurd (timeout_lt_of_ofToml hread) (by decide)
  · decide +kernel
  · rw [ofToml, Toml.read, String.toList_ofList]
    decide +kernel

end RemoteFiles.Config
