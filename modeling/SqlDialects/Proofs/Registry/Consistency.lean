-- SUMMARY: After any history of operations all ways of asking a registry for a name agree, and agree with the history.
import SqlDialects.Proofs.Lists
import SqlDialects.Proofs.Registry.History

/-!
# Consistency of registries

A registry can be asked for its names, for the rule of a name, and whether a name
is in it, each by a walk of its own along the parents. After every history of
operations the answers agree with one another, and the rule of a name is the one
that the history provides.
-/

namespace SqlDialects

/-! ## Names -/

namespace Lineage

/-- A name is among the names exactly when there is a rule for it. -/
theorem mem_names_iff (l : Lineage) (name : String) :
    name ∈ l.names ↔ (l.get? name).isSome = true := by
  rw [names, List.mem_eraseDups]
  induction l with
  | nil => simp [get?]
  | cons r older ih =>
    have hlocal : name ∈ r.localNames ↔ (r.rules.lookup name).isSome = true :=
      mem_names_iff_lookup
    rw [List.flatMap_cons, List.mem_append, ih, hlocal, get?]
    cases r.rules.lookup name <;> simp

theorem resolve_eq_ok_iff (l : Lineage) (name : String) (rule : Rule) :
    l.resolve name = .ok rule ↔ l.get? name = some rule := by
  rw [resolve]
  cases l.get? name <;> simp

end Lineage

/-! ## Lookup -/

namespace Store.Follows

variable {s : Store} {past : Past}

/-- A name is looked up in the registry itself, and then in its parent. -/
theorem get?_lineage (h : s.Follows past) {i : Nat} {own : String} {parent : Option Nat}
    (hcreation : past.creation? i = some (own, parent)) (name : String) :
    (s.lineage i).get? name = (lastUnder (past.registered i) name).or
      (parent.bind fun p => if p < i then (s.lineage p).get? name else none) := by
  have hlookup : (addRules [] (past.registered i)).lookup name =
      lastUnder (past.registered i) name := by
    rw [lookup_addRules, List.lookup_nil, Option.or_none]
  rw [lineage_of_registryAt? (h.registryAt?_of_creation? hcreation), Lineage.get?, hlookup]
  cases lastUnder (past.registered i) name with
  | some rule => rfl
  | none =>
    cases parent with
    | none => rfl
    | some p => by_cases hp : p < i <;> simp [hp, Lineage.get?]

/-- The rule for a name is the one its history provides. -/
theorem get?_eq_some_iff (h : s.Follows past) (i : Nat) (name : String) (rule : Rule) :
    (s.lineage i).get? name = some rule ↔ past.Provides i name rule := by
  constructor
  · intro hget
    -- parents are earlier registries, so the number goes down along them
    induction i using Nat.strongRecOn with
    | _ i ih =>
      cases hcreation : past.creation? i with
      | none =>
        have hnone : s.registryAt? i = none := by
          rw [h.registryAt?_eq, Past.registryAt?, hcreation]
          rfl
        rw [lineage_of_registryAt?_eq_none hnone] at hget
        cases hget
      | some own =>
        obtain ⟨own, parent⟩ := own
        rw [h.get?_lineage hcreation] at hget
        cases hlast : lastUnder (past.registered i) name with
        | some last =>
          rw [hlast, Option.some_or] at hget
          exact .own (hlast.trans hget)
        | none =>
          rw [hlast, Option.none_or] at hget
          obtain ⟨p, rfl, hparent⟩ := Option.bind_eq_some_iff.1 hget
          by_cases hp : p < i
          · rw [if_pos hp] at hparent
            exact .inherited hlast hcreation hp (ih p hp hparent)
          · rw [if_neg hp] at hparent
            cases hparent
  · intro hprovides
    induction hprovides with
    | @own i name rule hlast =>
      obtain ⟨⟨own, parent⟩, hcreation⟩ := Option.isSome_iff_exists.1
        ((past.creation?_isSome_iff i).2 (Past.lt_of_lastUnder hlast))
      rw [h.get?_lineage hcreation, hlast, Option.some_or]
    | inherited hlast hcreation hp _ ih =>
      rw [h.get?_lineage hcreation, hlast, Option.none_or]
      exact (if_pos hp).trans ih

theorem ownName_lineage (h : s.Follows past) {i : Nat} {own : String} {parent : Option Nat}
    (hcreation : past.creation? i = some (own, parent)) : (s.lineage i).ownName = own := by
  rw [lineage_of_registryAt? (h.registryAt?_of_creation? hcreation)]
  rfl

/-- A variant has for a name the rule of the context, else the scalar one, else none. -/
theorem resolve_variant (h : s.Follows past) (v : Variant Nat) {c : Context} {own : String}
    {parent : Option Nat} (hcreation : past.creation? (v.select c) = some (own, parent))
    (name : String) :
    (v.map s.lineage).resolve name c =
      match ((s.lineage (v.select c)).get? name).or ((s.lineage v.scalar).get? name) with
      | some rule => .ok rule
      | none => .error (.unknownFunction name (some own)) := by
  rw [Variant.resolve, Variant.select_map, h.ownName_lineage hcreation]
  cases (s.lineage (v.select c)).get? name with
  | some rule => rfl
  | none => rfl

theorem refused (h : s.Follows past) {i : Nat} (hfrozen : past.isFrozen i = true) :
    ∃ own parent, past.creation? i = some (own, parent) ∧ ∀ name source rest,
      s.perform (.register i name source) = .error (.frozen own name) ∧
      s.perform (.update i ((name, source) :: rest)) = .error (.frozen own name) := by
  obtain ⟨⟨own, parent⟩, hcreation⟩ := Option.isSome_iff_exists.1
    ((past.creation?_isSome_iff i).2 (Past.isFrozen_lt hfrozen))
  refine ⟨own, parent, hcreation, fun name source rest => ?_⟩
  have hregistry := h.registryAt?_of_creation? hcreation
  rw [hfrozen] at hregistry
  constructor
  · rw [perform, change_eq, hregistry]
    rfl
  · rw [perform, change_eq, hregistry]
    rfl

end Store.Follows

/-! ## Consistency -/

/-- All that a store answers about its registries agrees with the history. -/
structure Store.Consistent (s : Store) (past : Past) : Prop where
  /-- No registry names a name twice. -/
  nodup_names : ∀ i, (s.lineage i).names.Nodup
  /-- The names, the rules, the test for a name and its resolution agree on which names
      there are. -/
  mem_names_iff : ∀ i name, name ∈ (s.lineage i).names ↔ ((s.lineage i).get? name).isSome = true
  contains_iff : ∀ i name, (s.lineage i).contains (.text name) = true ↔
    ((s.lineage i).get? name).isSome = true
  resolve_iff : ∀ i name, (∃ rule, (s.lineage i).resolve name = .ok rule) ↔
    ((s.lineage i).get? name).isSome = true
  /-- The rule for a name is the last one registered in the nearest registry that has it. -/
  get?_eq_some_iff : ∀ i name rule, (s.lineage i).get? name = some rule ↔ past.Provides i name rule
  /-- Every rule bears the name it is stored under. -/
  name_eq : ∀ r ∈ s, ∀ entry ∈ r.rules, entry.2.name = entry.1
  /-- A frozen registry refuses every rule, and nothing changes. -/
  refused : ∀ i, past.isFrozen i = true → ∃ own parent, past.creation? i = some (own, parent) ∧
    ∀ name source rest,
      s.perform (.register i name source) = .error (.frozen own name) ∧
      s.after (.register i name source) = s ∧
      s.perform (.update i ((name, source) :: rest)) = .error (.frozen own name) ∧
      s.after (.update i ((name, source) :: rest)) = s
  /-- A variant has for a name the rule of the context, else the scalar one, else none. -/
  resolve_variant : ∀ (v : Variant Nat) (c : Context) own parent,
    past.creation? (v.select c) = some (own, parent) → ∀ name,
      (v.map s.lineage).resolve name c =
        match ((s.lineage (v.select c)).get? name).or ((s.lineage v.scalar).get? name) with
        | some rule => .ok rule
        | none => .error (.unknownFunction name (some own))

/-- After every history of operations the store is consistent with the history. -/
theorem Store.consistent_run (history : List Store.Operation) :
    (Store.run [] history).Consistent history.reverse := by
  have h := Store.follows_run history
  exact {
    nodup_names := fun i => nodup_eraseDups _
    mem_names_iff := fun i name => Lineage.mem_names_iff _ name
    contains_iff := fun i name => Iff.rfl
    resolve_iff := fun i name => by
      simp only [Lineage.resolve_eq_ok_iff, Option.isSome_iff_exists]
    get?_eq_some_iff := h.get?_eq_some_iff
    name_eq := fun r hr entry hentry => by
      obtain ⟨i, hi⟩ := Store.exists_registryAt? hr
      rw [h.registryAt?_eq] at hi
      obtain ⟨own, _, rfl⟩ := Option.map_eq_some_iff.1 hi
      exact name_of_mem_addRules hentry
    refused := fun i hfrozen => by
      obtain ⟨own, parent, hcreation, hrefused⟩ := h.refused hfrozen
      refine ⟨own, parent, hcreation, fun name source rest => ?_⟩
      obtain ⟨hregister, hupdate⟩ := hrefused name source rest
      refine ⟨hregister, ?_, hupdate, ?_⟩
      · rw [Store.after, hregister]
      · rw [Store.after, hupdate]
    resolve_variant := fun v c own parent hcreation => h.resolve_variant v hcreation }

end SqlDialects
