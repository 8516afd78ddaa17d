-- SUMMARY: Stores in which registries are created, change and freeze, one operation after another, and the registries that are there from the start.
import SqlDialects.Registry.Basic
import SqlDialects.Tables.General
import SqlDialects.Tables.Postgres

/-!
# Stores

Registries that change live in a store, under the number of their creation. A
registry can only extend one created before it, so a lineage is found by one walk
through the store from the latest creation to the earliest. An operation that is
refused leaves the store as it was.

The general tables are registries of their own, and PostgreSQL's extend them.
All of them are frozen from the start.
-/

namespace SqlDialects

/-- Registries, the latest created first. -/
abbrev Store := List Registry

namespace Store

/-- The registry of a number, with its ancestors. -/
def lineage : Store → Nat → Lineage
  | [], _ => []
  | r :: older, i =>
    if i = older.length then
      r :: (match r.parent with
        | some p => lineage older p
        | none => [])
    else lineage older i

/-- Change the registry of a number. -/
def modify (f : Registry → Registry) : Store → Nat → Store
  | [], _ => []
  | r :: older, i => if i = older.length then f r :: older else r :: modify f older i

/-- Change the registry of a number, if there is one and it takes the change. -/
def change (s : Store) (i : Nat) (f : Registry → Except Error Registry) : Except Error Store :=
  match s.lineage i with
  | [] => .ok s
  | r :: _ => do
    let changed ← f r
    return s.modify (fun _ => changed) i

@[simp] theorem length_modify (f : Registry → Registry) (s : Store) (i : Nat) :
    (s.modify f i).length = s.length := by
  induction s with
  | nil => rfl
  | cons r older ih => by_cases h : i = older.length <;> simp [modify, h, ih]

-- ---------------------------------------------------------------------------
-- Operations
-- ---------------------------------------------------------------------------

/-- What can be done with a store. -/
inductive Operation where
  /-- Create a registry; its number is the size of the store before. -/
  | create (name : String) (parent : Option Nat) (rules : List (String × RuleSource))
  | register (registry : Nat) (name : String) (source : RuleSource)
  | update (registry : Nat) (rules : List (String × RuleSource))
  | freeze (registry : Nat)

/-- The store after an operation, or why it is refused. -/
def perform (s : Store) : Operation → Except Error Store
  | .create name parent rules => do
    let r ← Registry.update { name, parent } rules
    return r :: s
  | .register i name source => s.change i (·.register name source)
  | .update i rules => s.change i (·.update rules)
  | .freeze i => .ok (s.modify Registry.freeze i)

/-- The store after an operation, which stays when the operation is refused. -/
def after (s : Store) (op : Operation) : Store :=
  match s.perform op with
  | .ok s => s
  | .error _ => s

/-- The store after a history of operations. -/
def run (s : Store) (history : List Operation) : Store := history.foldl after s

/-- Freeze the three registries of a variant. -/
def freezeVariant (s : Store) (v : Variant Nat) : Store :=
  s.run [.freeze v.scalar, .freeze v.aggregate, .freeze v.window]

end Store

-- ---------------------------------------------------------------------------
-- Standard registries
-- ---------------------------------------------------------------------------

/-- The store that holds the registries of every backend. -/
def Store.initial : Store :=
  [.frozenOf "postgres_window" (some 2) Postgres.windowRules,
   .frozenOf "postgres_aggregate" (some 1) Postgres.aggregateRules,
   .frozenOf "postgres_scalar" (some 0) Postgres.scalarRules,
   .frozenOf "base_window" none General.windowRules,
   .frozenOf "base_aggregate" none General.aggregateRules,
   .frozenOf "base_scalar" none General.scalarRules]

namespace Backend

/-- The numbers of a backend's registries in the initial store. -/
def registries : Backend → Variant Nat
  | .ansi => ⟨0, 1, 2⟩
  | .postgres => ⟨3, 4, 5⟩

/-- The registries of a backend. -/
def variant (backend : Backend) : Variant Lineage :=
  backend.registries.map Store.initial.lineage

end Backend

end SqlDialects
