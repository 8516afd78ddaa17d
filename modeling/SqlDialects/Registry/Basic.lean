-- SUMMARY: Registries of rules that extend one another, and looking a rule up along them.
import SqlDialects.NameTable
import SqlDialects.Rule.Basic

/-!
# Registries

A registry is a table of rules and may extend another one: a name it has no rule
for is looked up in its parent. Rules are looked up along the *lineage* of a
registry, the registry itself and its ancestors. A frozen registry takes no
further rules.
-/

namespace SqlDialects

structure Registry where
  name : String
  rules : NameTable Rule := []
  frozen : Bool := false
  /-- The number of the registry that this one extends. -/
  parent : Option Nat := none

/-- A registry and its ancestors, nearest first. -/
abbrev Lineage := List Registry

-- ---------------------------------------------------------------------------
-- Registering
-- ---------------------------------------------------------------------------

namespace Registry

/-- Register a rule under a name, which becomes the rule's own. -/
def register (r : Registry) (name : String) (source : RuleSource) : Except Error Registry :=
  if r.frozen then .error (.frozen r.name name)
  else .ok { r with rules := r.rules.put name (source.named name) }

/-- Register rules one by one. -/
def update (r : Registry) : List (String × RuleSource) → Except Error Registry
  | [] => .ok r
  | (name, source) :: rest => do
    let r ← r.register name source
    r.update rest

def freeze (r : Registry) : Registry := { r with frozen := true }

def localNames (r : Registry) : List String := r.rules.names

/-- A frozen registry of given rules. -/
def frozenOf (name : String) (parent : Option Nat) (rules : List (String × RuleSource)) :
    Registry where
  name
  rules := NameTable.ofList (rules.map fun (n, source) => (n, source.named n))
  frozen := true
  parent

theorem register_of_frozen {r : Registry} (h : r.frozen = true) (name : String)
    (source : RuleSource) :
    r.register name source = .error (.frozen r.name name) := by
  simp [register, h]

theorem register_of_not_frozen {r : Registry} (h : r.frozen = false) (name : String)
    (source : RuleSource) :
    r.register name source = .ok { r with rules := r.rules.put name (source.named name) } := by
  simp [register, h]

end Registry

-- ---------------------------------------------------------------------------
-- Lookup
-- ---------------------------------------------------------------------------

namespace Lineage

/-- The rule for a name in the nearest registry that has one. -/
def get? : Lineage → String → Option Rule
  | [], _ => none
  | r :: older, name =>
    match r.rules.lookup name with
    | some rule => some rule
    | none => get? older name

/-- The name of the registry itself. -/
def ownName : Lineage → String
  | [] => ""
  | r :: _ => r.name

def resolve (l : Lineage) (name : String) : Except Error Rule :=
  match l.get? name with
  | some rule => .ok rule
  | none => .error (.unknownFunction name (some l.ownName))

/-- All names with a rule, those of nearer registries first, each once. -/
def names (l : Lineage) : List String :=
  (l.flatMap Registry.localNames).eraseDups

/-- Only texts are names. -/
def contains (l : Lineage) : Value → Bool
  | .scalar (.text name) => (l.get? name).isSome
  | _ => false

def display (l : Lineage) : String :=
  match l with
  | [] => ""
  | r :: older =>
    "Registry(" ++ Text.quoted r.name ++ ", rules=" ++ Nat.repr r.rules.length ++
      ", parent=" ++ optionalText (older.head?.map (·.name)) ++ ")"

end Lineage

-- ---------------------------------------------------------------------------
-- Variants
-- ---------------------------------------------------------------------------

/-- One registry per context. -/
structure Variant (α : Type) where
  scalar : α
  aggregate : α
  window : α

namespace Variant

def select {α : Type} (v : Variant α) : Context → α
  | .scalar => v.scalar
  | .aggregate => v.aggregate
  | .window => v.window

def map {α β : Type} (f : α → β) (v : Variant α) : Variant β :=
  ⟨f v.scalar, f v.aggregate, f v.window⟩

@[simp] theorem select_map {α β : Type} (f : α → β) (v : Variant α) (c : Context) :
    (v.map f).select c = f (v.select c) := by
  cases c <;> rfl

/-- The rule for a name in a context: the context's own, else the scalar one. -/
def resolve (v : Variant Lineage) (name : String) (c : Context) : Except Error Rule :=
  match (v.select c).get? name with
  | some rule => .ok rule
  | none =>
    match v.scalar.get? name with
    | some rule => .ok rule
    | none => .error (.unknownFunction name (some (v.select c).ownName))

end Variant

end SqlDialects
