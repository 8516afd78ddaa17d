-- SUMMARY: Opening a chain of steps that may fail, and a lookup: what they give tells what came before.

/-!
# Steps

A chain of steps gives a result exactly when the first step gives one and the
rest gives one of it. These lemmas take a chain apart without unfolding the
monad it is written in. What a lookup gives is an entry of the table.
-/

namespace SqlDialects

variable {ε α β : Type}

theorem ok_bind (a : α) (f : α → Except ε β) : (Except.ok a >>= f) = f a := rfl

theorem bind_eq_ok_iff {x : Except ε α} {f : α → Except ε β} {b : β} :
    x >>= f = .ok b ↔ ∃ a, x = .ok a ∧ f a = .ok b := by
  cases x with
  | error e =>
    constructor
    · intro h
      cases h
    · rintro ⟨a, ha, _⟩
      cases ha
  | ok a =>
    constructor
    · intro h
      exact ⟨a, rfl, h⟩
    · rintro ⟨a', ha', h⟩
      cases ha'
      exact h

theorem pure_eq_ok_iff {a b : α} : (pure a : Except ε α) = .ok b ↔ a = b := by
  constructor
  · intro h
    cases h
    rfl
  · rintro rfl
    rfl

/-- Two chains that start the same need only agree on what the first step can give. -/
theorem bind_congr_ok {x : Except ε α} {f g : α → Except ε β}
    (h : ∀ a, x = .ok a → f a = g a) : x >>= f = x >>= g := by
  cases x with
  | error => rfl
  | ok a => exact h a rfl

theorem mem_of_lookup [BEq α] [LawfulBEq α] {table : List (α × β)} {a : α} {b : β}
    (h : table.lookup a = some b) : (a, b) ∈ table := by
  obtain ⟨before, after, rfl, _⟩ := List.lookup_eq_some_iff.1 h
  exact List.mem_append_right before List.mem_cons_self

/-- A lookup finds something exactly under the names of a table. -/
theorem mem_names_iff_lookup [BEq α] [LawfulBEq α] {table : List (α × β)} {a : α} :
    a ∈ table.map (·.1) ↔ (table.lookup a).isSome = true := by
  rw [List.lookup_isSome_iff, List.mem_map]
  exact exists_congr fun entry => and_congr_right fun _ => eq_comm.trans beq_iff_eq.symm

/-- In a table without repetition a lookup finds every entry. -/
theorem lookup_of_mem [BEq α] [LawfulBEq α] {table : List (α × β)} {a : α} {b : β}
    (hkeys : (table.map (·.1)).Nodup) (h : (a, b) ∈ table) : table.lookup a = some b := by
  induction table with
  | nil => cases h
  | cons entry rest ih =>
    obtain ⟨a', b'⟩ := entry
    rw [List.map_cons, List.nodup_cons] at hkeys
    rcases List.mem_cons.1 h with h | h
    · cases h
      exact List.lookup_cons_self
    · have hmem : a ∈ rest.map (·.1) := List.mem_map.2 ⟨_, h, rfl⟩
      have hne : (a == a') = false := beq_eq_false_iff_ne.2 fun heq => hkeys.1 (heq ▸ hmem)
      rw [List.lookup_cons, hne]
      exact ih hkeys.2 h

end SqlDialects
