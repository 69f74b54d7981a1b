import RemoteFiles.Config.Toml

/-!
# The settings of a configuration

A configuration has six settings (`Field`), each in a part of a document.  To change one leaves the
others alone (`Field.get_set_of_ne`), and a configuration is what its settings are
(`Field.eq_of_get`).

A choice of some settings makes a configuration with the standard ones in the other places
(`ofChoice`).  A document gives a setting if there is a value at its place (`Field.given?`).
-/

namespace RemoteFiles.Config

open Toml (Node Key Entries)

/-! ### Settings -/

/-- The settings of a configuration. -/
inductive Field
  | url
  | root
  | timeout
  | userAgent
  | username
  | level
  deriving DecidableEq, Repr

namespace Field

/-- The values of a setting. -/
abbrev Value : Field → Type
  | timeout => UInt64
  | _ => String

/-- The name of the part that a setting is in. -/
def part : Field → String
  | url | root => "server"
  | timeout | userAgent => "http"
  | username => "auth"
  | level => "log"

/-- The name of a setting. -/
def name : Field → String
  | url => "url"
  | root => "root"
  | timeout => "timeout_secs"
  | userAgent => "user_agent"
  | username => "username"
  | level => "level"

/-- How many settings of the part come before. -/
def index : Field → Nat
  | url | timeout | username | level => 0
  | root | userAgent => 1

/-- The value of a setting, if there is one. -/
def get : (f : Field) → Config → Option f.Value
  | url, c => some c.url
  | root, c => some c.root
  | timeout, c => some c.timeout
  | userAgent, c => some c.userAgent
  | username, c => c.username
  | level, c => some c.level

/-- The configuration with another value of a setting. -/
def set : (f : Field) → f.Value → Config → Config
  | url, v, c => { c with url := v }
  | root, v, c => { c with root := v }
  | timeout, v, c => { c with timeout := v }
  | userAgent, v, c => { c with userAgent := v }
  | username, v, c => { c with username := some v }
  | level, v, c => { c with level := v }

/-- How a setting is read. -/
def read : Field → Setting
  | timeout => countSetting timeout.set
  | url => textSetting url.set
  | root => textSetting root.set
  | userAgent => textSetting userAgent.set
  | username => textSetting username.set
  | level => textSetting level.set

/-- The value of a node that is a text. -/
def text? : Node → Option String
  | .string _ s => some s
  | _ => none

/-- The value of a node that is a number without a sign. -/
def count? : Node → Option UInt64
  | .integer _ n => if 0 ≤ n then some (UInt64.ofNat n.toNat) else none
  | _ => none

/-- The value that a node gives to a setting. -/
def ofNode? : (f : Field) → Node → Option f.Value
  | timeout => count?
  | url | root | userAgent | username | level => text?

variable {f g : Field} {c c' : Config}

theorem get_set_self (f : Field) (v : f.Value) (c : Config) : f.get (f.set v c) = some v := by
  cases f <;> rfl

theorem get_set_of_ne (h : f ≠ g) (v : g.Value) (c : Config) : f.get (g.set v c) = f.get c := by
  cases g <;> cases f <;> first | rfl | exact absurd rfl h

theorem name_injective (h : f.name = g.name) : f = g := by
  cases f <;> cases g <;> first | rfl | exact absurd h (by decide)

/-- Configurations with the same settings are the same. -/
theorem eq_of_get (h : ∀ f : Field, f.get c = f.get c') : c = c' := by
  obtain ⟨url, root, timeout, userAgent, username, level⟩ := c
  obtain ⟨url', root', timeout', userAgent', username', level'⟩ := c'
  have hurl : url = url' := Option.some_inj.mp (h .url)
  have hroot : root = root' := Option.some_inj.mp (h .root)
  have htimeout : timeout = timeout' := Option.some_inj.mp (h .timeout)
  have hagent : userAgent = userAgent' := Option.some_inj.mp (h .userAgent)
  have husername : username = username' := h .username
  have hlevel : level = level' := Option.some_inj.mp (h .level)
  subst hurl hroot htimeout hagent husername hlevel
  rfl

/-- A setting is read from the values of its type, and from no others. -/
theorem read_eq (f : Field) (size : Nat) (key : Option Key) (node : Node) (c : Config) :
    (∃ v, f.ofNode? node = some v ∧ f.read size key node c = .ok (f.set v c)) ∨
      (f.ofNode? node = none ∧ ∃ fault, f.read size key node c = .error fault) := by
  have htext : ∀ set : String → Config → Config,
      (∃ s, text? node = some s ∧ textSetting set size key node c = .ok (set s c)) ∨
        (text? node = none ∧ ∃ fault, textSetting set size key node c = .error fault) := by
    intro set
    cases node
    case string span s => exact .inl ⟨s, rfl, rfl⟩
    all_goals exact .inr ⟨rfl, _, rfl⟩
  have hcount : ∀ set : UInt64 → Config → Config,
      (∃ n, count? node = some n ∧ countSetting set size key node c = .ok (set n c)) ∨
        (count? node = none ∧ ∃ fault, countSetting set size key node c = .error fault) := by
    intro set
    cases node
    case integer span n =>
      by_cases hn : 0 ≤ n
      · exact .inl ⟨_, if_pos hn, if_pos hn⟩
      · exact .inr ⟨if_neg hn, _, if_neg hn⟩
    all_goals exact .inr ⟨rfl, _, rfl⟩
  cases f
  case timeout => exact hcount _
  all_goals exact htext _

/-- What comes of reading a setting. -/
theorem ofNode?_of_read {size : Nat} {key : Option Key} {node : Node}
    (h : f.read size key node c = .ok c') : ∃ v, f.ofNode? node = some v ∧ c' = f.set v c := by
  obtain ⟨v, hnode, hread⟩ | ⟨-, fault, hread⟩ := f.read_eq size key node c
  · rw [h] at hread
    exact ⟨v, hnode, Except.ok.inj hread⟩
  · rw [h] at hread
    cases hread

theorem isOk_read_iff {size : Nat} {key : Option Key} {node : Node} :
    (f.read size key node c).isOk = true ↔ (f.ofNode? node).isSome = true := by
  obtain ⟨v, hnode, hread⟩ | ⟨hnode, fault, hread⟩ := f.read_eq size key node c
  · rw [hnode, hread]
    exact iff_of_true rfl rfl
  · rw [hnode, hread]
    exact iff_of_false (by simp [Except.isOk, Except.toBool]) (by simp)

/-! ### The settings of a part -/

/-- All settings, those of a part in their order. -/
def all : List Field := [url, root, timeout, userAgent, username, level]

/-- The settings of a part. -/
def ofPart (name : String) : List Field := all.filter (·.part == name)

theorem mem_ofPart {name : String} : f ∈ ofPart name ↔ f.part = name := by
  have hall : f ∈ all := by cases f <;> decide
  rw [ofPart, List.mem_filter, beq_iff_eq]
  exact and_iff_right hall

end Field

/-- The settings of a part are read by their names. -/
theorem settings_of_mem {part : Part} (h : part ∈ parts) :
    part.settings = (Field.ofPart part.name).map fun f => (f.name, f.read) := by
  simp only [parts, List.mem_cons, List.not_mem_nil, or_false] at h
  obtain rfl | rfl | rfl | rfl := h
  all_goals rfl

theorem exists_part (f : Field) : ∃ part, parts.find? (·.name == f.part) = some part := by
  cases f
  all_goals exact ⟨_, rfl⟩

theorem exists_field {part : Part} (h : part ∈ parts) : ∃ f : Field, f.part = part.name := by
  simp only [parts, List.mem_cons, List.not_mem_nil, or_false] at h
  obtain rfl | rfl | rfl | rfl := h
  · exact ⟨.url, rfl⟩
  · exact ⟨.timeout, rfl⟩
  · exact ⟨.username, rfl⟩
  · exact ⟨.level, rfl⟩

/-! ### Choices -/

/-- The configuration of some settings, with the standard ones in the other places. -/
def ofChoice (choice : (f : Field) → Option f.Value) : Config where
  url := (choice .url).getD standard.url
  root := (choice .root).getD standard.root
  timeout := (choice .timeout).getD standard.timeout
  userAgent := (choice .userAgent).getD standard.userAgent
  username := choice .username
  level := (choice .level).getD standard.level

theorem get_ofChoice (choice : (f : Field) → Option f.Value) (f : Field) :
    f.get (ofChoice choice) = (choice f).or (f.get standard) := by
  cases f
  case username => exact Option.or_none.symm
  all_goals
    simp only [Field.get, ofChoice]
    cases choice _ <;> rfl

/-! ### Places of settings -/

/-- The value of a setting in the node of its part. -/
def Field.nodeIn? (f : Field) : Node → Option Node
  | .table _ _ own | .inline _ own => Entries.find? own f.name
  | .array _ items | .tables _ items => items[f.index]?
  | _ => none

/-- The value at the place of a setting in a document. -/
def Field.node? (f : Field) (entries : Entries) : Option Node :=
  (entries.find? f.part).bind f.nodeIn?

/-- What a document gives to a setting. -/
def Field.given? (f : Field) (entries : Entries) : Option f.Value :=
  (f.node? entries).bind f.ofNode?

/-- A node can be that of a part.  A date is one without settings. -/
def isPart : Node → Bool
  | .table _ _ _ | .inline _ _ | .array _ _ | .tables _ _ | .moment _ => true
  | _ => false

/-- The values at the places of parts and settings have their types. -/
structure IsTyped (entries : Entries) : Prop where
  isPart : ∀ (f : Field) (node : Node), entries.find? f.part = some node → isPart node = true
  isSome : ∀ (f : Field) (node : Node), f.node? entries = some node →
    (f.ofNode? node).isSome = true

end RemoteFiles.Config
