import RemoteFiles.Proofs.Config.Written

/-!
# Configurations read back

A configuration is written as the document of all its settings (`tomlText_eq`), so that the text is
read as the same configuration (`ofToml_tomlText`).  There is no document for a timeout that TOML
has no place for, and no other reason why there should be none (`saved_config_reads_back`).
-/

namespace RemoteFiles.Config

variable {c : Config}

/-- The settings of a configuration are a choice that makes it. -/
theorem ofChoice_get (c : Config) : ofChoice (fun f => f.get c) = c := by
  refine Field.eq_of_get fun f => ?_
  rw [get_ofChoice]
  cases f
  case username => exact Option.or_none
  all_goals rfl

theorem tomlText_eq (c : Config) : c.tomlText = (documentOf fun f => f.get c).chars := by
  have hbare : ∀ name ∈ ["server", "http", "auth", "log", "url", "root", "timeout_secs",
      "user_agent", "username", "level"], Toml.keyText name = name.toList := by decide
  simp only [List.forall_mem_cons] at hbare
  obtain ⟨hserver, hhttp, hauth, hlog, hurl, hroot, htimeout, hagent, husername, hlevel, -⟩ := hbare
  have hdocument : documentOf (fun f => f.get c) = ⟨[], [
      ("server", [("url", .text c.url), ("root", .text c.root)]),
      ("http", [("timeout_secs", .scalar (Nat.toDigits 10 c.timeout.toNat)),
        ("user_agent", .text c.userAgent)]),
      ("auth", linesOf (fun f => f.get c) [.username]),
      ("log", [("level", .text c.level)])]⟩ := rfl
  rw [hdocument]
  unfold tomlText Toml.Document.chars Toml.blocksText
  simp only [List.map_cons, List.map_nil, List.flatMap_cons, List.flatMap_nil, Toml.Block.text,
    Toml.Line.text, Toml.Line.render, Toml.Value.render, line, List.intercalate_cons_cons,
    List.intercalate_singleton, hserver, hhttp, hauth, hlog, hurl, hroot, htimeout, hagent, hlevel]
  -- How the values look is no part of this; opened, they only stand in the way.
  generalize Toml.render c.url = url
  generalize Toml.render c.root = root
  generalize Toml.render c.userAgent = userAgent
  generalize Toml.render c.level = level
  generalize Nat.toDigits 10 c.timeout.toNat = timeout
  cases hname : c.username with
  | none =>
    have hlines : linesOf (fun f => f.get c) [.username] = [] := by
      simp [linesOf, Field.get, hname]
    simp [hlines]
  | some name =>
    have hlines : linesOf (fun f => f.get c) [.username] = [("username", .text name)] := by
      simp [linesOf, Field.get, hname, Field.name, Field.written]
    generalize hshown : Toml.render name = shown
    simp [hlines, Toml.Line.text, Toml.Line.render, Toml.Value.render, husername, hshown]

theorem ofToml_tomlText (h : c.timeout.toNat < numberBound) :
    ofToml (String.ofList c.tomlText) = .ok c := by
  have hwritable : ∀ (f : Field) (v : f.Value), f.get c = some v → f.IsWritable v := by
    intro f v hv
    cases f
    case timeout =>
      cases hv
      exact h
    all_goals trivial
  have hread := ofToml_of_gives (fits_documentOf hwritable) (gives_documentOf _)
  rwa [ofChoice_get, Toml.Document.text, ← tomlText_eq] at hread

/-- A configuration is written exactly if its timeout is within the numbers of a document, and the
text is read as the same configuration. -/
theorem saved_config_reads_back (c : Config) :
    if c.timeout.toNat < 2 ^ 63 then ∃ text, c.toToml? = some text ∧ ofToml text = .ok c
    else c.toToml? = none := by
  split
  · rename_i h
    exact ⟨_, if_pos h, ofToml_tomlText h⟩
  · rename_i h
    exact if_neg h

end RemoteFiles.Config
