-- SUMMARY: Positional arguments alone bind exactly when there are as many of them as the arity of the signature says.
import SqlDialects.Proofs.Passing.Walk
import SqlDialects.Rule.Basic

/-!
# Arity

The arity counts the parameters that a position can fill: at least those that have no
default, and at most all of them unless a parameter takes the rest. In a well-formed
signature these come first, and those without a default come before those with one, so
binding so many positional arguments leaves nothing out. A parameter that is bound by name
only and has no default is never bound by positions.
-/

namespace SqlDialects

theorem Param.takesPosition_iff_rank {p : Param} : p.takesPosition = true ↔ p.kind.rank < 2 := by
  cases hkind : p.kind <;> simp [takesPosition, hkind, ParamKind.rank]

namespace Signature

variable {p : Param} {ps : Signature}

/-! ## Well-formed signatures -/

theorem WellFormed.tail (h : WellFormed (p :: ps)) : WellFormed ps :=
  ⟨(List.nodup_cons.1 h.1).2, (List.pairwise_cons.1 h.2).2⟩

/-- Behind a parameter come only kinds that may stand behind it. -/
theorem WellFormed.rank_le (h : WellFormed (p :: ps)) : ∀ q ∈ ps, p.kind.rank ≤ q.kind.rank :=
  fun q hq => ((List.pairwise_cons.1 h.2).1 q hq).1

/-! ## Counting places -/

/-- The parameters that a position must fill. -/
def requiredPlaces (sig : Signature) : Nat :=
  sig.countP fun p => p.takesPosition && !p.default.isSome

/-- The parameters that a position can fill. -/
def places (sig : Signature) : Nat := sig.countP Param.takesPosition

def takesRest (sig : Signature) : Bool := sig.any (·.kind = .rest)

theorem requiredPlaces_cons : requiredPlaces (p :: ps) =
    requiredPlaces ps + if p.takesPosition && !p.default.isSome then 1 else 0 :=
  List.countP_cons

theorem places_cons : places (p :: ps) = places ps + if p.takesPosition then 1 else 0 :=
  List.countP_cons

theorem takesRest_cons : takesRest (p :: ps) = (p.kind = .rest || takesRest ps) := List.any_cons

/-- The loop over the parameters adds what it counts to what was counted before. -/
theorem foldl_arity (sig : Signature) (least : Nat) (most : Option Nat) :
    sig.foldl (fun (least, most) p =>
      match p.kind with
      | .rest => (least, none)
      | .positional => (if p.default.isSome then least else least + 1, most.map (· + 1))
      | .normal => (if p.default.isSome then least else least + 1, most.map (· + 1))
      | _ => (least, most)) (least, most) =
      (least + sig.requiredPlaces, if sig.takesRest then none else most.map (· + sig.places)) := by
  induction sig generalizing least most with
  | nil => simp [requiredPlaces, places, takesRest]
  | cons p ps ih =>
    rw [List.foldl_cons, requiredPlaces_cons, places_cons, takesRest_cons]
    cases hkind : p.kind with
    | rest => simp [ih, Param.takesPosition, hkind]
    | extra => simp [ih, Param.takesPosition, hkind]
    | named => simp [ih, Param.takesPosition, hkind]
    | positional =>
      simp only [ih, Param.takesPosition, hkind]
      cases p.default <;> cases most <;> grind
    | normal =>
      simp only [ih, Param.takesPosition, hkind]
      cases p.default <;> cases most <;> grind

theorem arity_eq (sig : Signature) :
    sig.arity = (sig.requiredPlaces, if sig.takesRest then none else some sig.places) :=
  (foldl_arity sig 0 (some 0)).trans (by simp)

/-- No position has to be filled behind a parameter that can be left out. -/
theorem WellFormed.requiredPlaces_eq_zero (h : WellFormed (p :: ps))
    (hp : p.takesPosition = true → p.default.isSome = true) : requiredPlaces ps = 0 := by
  refine List.countP_eq_zero.2 fun q hq hrequired => ?_
  obtain ⟨hrank, hdefault⟩ := (List.pairwise_cons.1 h.2).1 q hq
  obtain ⟨hplace, hnone⟩ : q.takesPosition = true ∧ q.default = none := by simpa using hrequired
  have hbefore : p.takesPosition = true :=
    Param.takesPosition_iff_rank.2 (Nat.lt_of_le_of_lt hrank (Param.takesPosition_iff_rank.1 hplace))
  have hsome := hdefault hplace (hp hbefore)
  simp [hnone] at hsome

/-- Behind a parameter that no position fills, none does. -/
theorem WellFormed.places_eq_zero (h : WellFormed (p :: ps)) (hp : 2 ≤ p.kind.rank) :
    places ps = 0 :=
  List.countP_eq_zero.2 fun q hq hplace =>
    absurd (Param.takesPosition_iff_rank.1 hplace) (Nat.not_lt.2 (Nat.le_trans hp (h.rank_le q hq)))

/-- Behind a parameter that is bound by name, none takes the rest. -/
theorem WellFormed.takesRest_eq_false (h : WellFormed (p :: ps)) (hp : 3 ≤ p.kind.rank) :
    takesRest ps = false := by
  refine List.any_eq_false.2 fun q hq hrest => ?_
  have hrank := Nat.le_trans hp (h.rank_le q hq)
  rw [of_decide_eq_true hrest] at hrank
  exact absurd hrank (by decide)

/-! ## Positional arguments -/

/-- What a number of arguments must satisfy to be bound by their positions alone: no
    parameter is required by name, and there are neither too few nor too many. -/
structure TakesPositions (sig : Signature) (n : Nat) : Prop where
  named : ∀ p ∈ sig, p.kind = .named → p.default.isSome = true
  least : sig.requiredPlaces ≤ n
  most : sig.takesRest = true ∨ n ≤ sig.places

/-- No more arguments come exactly when every parameter does without one. -/
theorem takesPositions_zero_iff {sig : Signature} : sig.TakesPositions 0 ↔
    ∀ p ∈ sig, p.takesAll = true ∨ p.default.isSome = true := by
  have hsplit : (∀ p ∈ sig, p.takesAll = true ∨ p.default.isSome = true) ↔
      (∀ p ∈ sig, p.kind = .named → p.default.isSome = true) ∧ sig.requiredPlaces = 0 := by
    rw [requiredPlaces, List.countP_eq_zero, ← forall₂_and]
    refine forall₂_congr fun p _ => ?_
    cases hkind : p.kind <;> cases p.default <;>
      simp [Param.takesAll, Param.takesPosition, hkind]
  rw [hsplit]
  exact ⟨fun h => ⟨h.named, Nat.le_zero.1 h.least⟩,
    fun h => ⟨h.1, Nat.le_zero.2 h.2, .inr (Nat.zero_le _)⟩⟩

/-- A parameter that a position can fill takes one argument. -/
theorem WellFormed.takesPositions_succ_iff {n : Nat} (h : WellFormed (p :: ps))
    (hp : p.takesPosition = true) : TakesPositions (p :: ps) (n + 1) ↔ TakesPositions ps n := by
  have hkind : p.kind ≠ .named ∧ p.kind ≠ .rest := by
    constructor <;> rintro hkind <;> simp [Param.takesPosition, hkind] at hp
  have hleast : requiredPlaces (p :: ps) ≤ n + 1 ↔ requiredPlaces ps ≤ n := by
    rw [requiredPlaces_cons, hp]
    cases hdefault : p.default with
    | none => simp
    | some v => simp [h.requiredPlaces_eq_zero (fun _ => by simp [hdefault])]
  have hmost : (takesRest (p :: ps) = true ∨ n + 1 ≤ places (p :: ps)) ↔
      (takesRest ps = true ∨ n ≤ places ps) := by
    simp [takesRest_cons, places_cons, hp, hkind.2]
  constructor
  · rintro ⟨hnamed, hn, hm⟩
    exact ⟨fun q hq => hnamed q (List.mem_cons_of_mem _ hq), hleast.1 hn, hmost.1 hm⟩
  · rintro ⟨hnamed, hn, hm⟩
    exact ⟨List.forall_mem_cons.2 ⟨fun h => absurd h hkind.1, hnamed⟩, hleast.2 hn, hmost.2 hm⟩

/-- A parameter for the rest takes all arguments there are. -/
theorem WellFormed.takesPositions_rest_iff {n : Nat} (h : WellFormed (p :: ps))
    (hp : p.kind = .rest) : TakesPositions (p :: ps) n ↔ TakesPositions ps 0 := by
  have hnot : p.takesPosition = false := by simp [Param.takesPosition, hp]
  have hps : requiredPlaces ps = 0 := h.requiredPlaces_eq_zero (by simp [hnot])
  have hleast : requiredPlaces (p :: ps) = 0 := by simp [requiredPlaces_cons, hnot, hps]
  constructor
  · intro hall
    exact ⟨fun q hq => hall.named q (List.mem_cons_of_mem _ hq), Nat.le_of_eq hps,
      .inr (Nat.zero_le _)⟩
  · intro hnone
    exact ⟨List.forall_mem_cons.2 ⟨by simp [hp], hnone.named⟩, by simp [hleast],
      .inl (by simp [takesRest_cons, hp])⟩

/-- No position is left once parameters bound by name begin. -/
theorem WellFormed.not_takesPositions_succ {n : Nat} (h : WellFormed (p :: ps))
    (hp : 3 ≤ p.kind.rank) : ¬TakesPositions (p :: ps) (n + 1) := by
  rintro ⟨_, _, hmost⟩
  have hrest : p.kind ≠ .rest := by
    intro hkind
    rw [hkind] at hp
    exact absurd hp (by decide)
  have hplace : p.takesPosition ≠ true := fun htakes =>
    absurd (Param.takesPosition_iff_rank.1 htakes) (by omega)
  simp [takesRest_cons, places_cons, h.places_eq_zero (by omega), h.takesRest_eq_false hp,
    hrest, hplace] at hmost

/-! ## Binding by position -/

/-- With no named arguments, what is left of a signature must do without. -/
theorem exists_bindNamed_nil {sig : Signature} : (∃ r, bindNamed sig [] = .ok r) ↔
    ∀ p ∈ sig, p.takesAll = true ∨ p.default.isSome = true := by
  induction sig with
  | nil => simp [bindNamed]
  | cons p ps ih =>
    rw [List.forall_mem_cons, ← ih, bindNamed]
    by_cases hall : p.kind = .rest ∨ p.kind = .extra
    · have htakes : p.takesAll = true := by simpa [Param.takesAll] using hall
      simp [hall, htakes]
    · have htakes : p.takesAll = false := by simpa [Param.takesAll] using hall
      cases hdefault : p.default <;> simp [hall, htakes]

/-- What a parameter is bound to in front does not change whether the walk comes through. -/
theorem exists_ok_cons_iff {b : String × Bound}
    {x : Except BindFault (Arguments × List (String × Value))} : (∃ r, (do
      let (given, left) ← x
      return (b :: given, left)) = .ok r) ↔ ∃ r, x = .ok r := by
  cases x with
  | error fault => exact iff_of_false (by rintro ⟨_, h⟩; cases h) (by rintro ⟨_, h⟩; cases h)
  | ok r => exact ⟨fun _ => ⟨r, rfl⟩, fun _ => ⟨_, rfl⟩⟩

/-- The walk along a signature with positional arguments alone comes through exactly when
    it takes that many. -/
theorem exists_deal_iff {sig : Signature} {args : List Value} (h : sig.WellFormed) :
    (∃ r, deal [] sig args = .ok r) ↔ sig.TakesPositions args.length := by
  induction sig generalizing args with
  | nil =>
    cases args with
    | nil => rw [deal, exists_bindNamed_nil, List.length_nil, takesPositions_zero_iff]
    | cons v vs =>
      have hnot : ¬TakesPositions [] (vs.length + 1) := fun h => by
        simpa [takesRest, places] using h.most
      simp [deal, hnot]
  | cons p ps ih =>
    cases args with
    | nil => rw [deal, exists_bindNamed_nil, List.length_nil, takesPositions_zero_iff]
    | cons v vs =>
      have hplace := h.takesPositions_succ_iff (n := vs.length)
      rw [deal, List.length_cons]
      cases hkind : p.kind with
      | extra => simp [h.not_takesPositions_succ (by simp [hkind, ParamKind.rank])]
      | named => simp [h.not_takesPositions_succ (by simp [hkind, ParamKind.rank])]
      | rest =>
        dsimp only
        rw [exists_ok_cons_iff, exists_bindNamed_nil, h.takesPositions_rest_iff hkind,
          takesPositions_zero_iff]
      | positional =>
        dsimp only
        rw [exists_ok_cons_iff, ih h.tail, hplace (by simp [Param.takesPosition, hkind])]
      | normal =>
        dsimp only
        rw [List.lookup_nil, if_neg (by simp), exists_ok_cons_iff, ih h.tail,
          hplace (by simp [Param.takesPosition, hkind])]

end Signature

namespace Rule

/-- Positional arguments alone are bound exactly when no parameter is required by name and
    there are as many of them as the arity of the rule says. -/
theorem binds_positions_iff {r : Rule} (h : r.signature.WellFormed) (args : List Value) :
    (∃ bound, r.signature.bind args [] = .ok bound) ↔
      (∀ p ∈ r.signature, p.kind = .named → p.default.isSome = true) ∧
        r.signature.arity.1 ≤ args.length ∧
          ∀ most, r.signature.arity.2 = some most → args.length ≤ most := by
  have hdeal : (∃ bound, r.signature.bind args [] = .ok bound) ↔
      ∃ given, Signature.deal [] r.signature args = .ok given := by
    simp only [Signature.bind_eq_ok_iff_deal]
    constructor
    · rintro ⟨_, given, left, hdeal, _⟩
      exact ⟨_, hdeal⟩
    · rintro ⟨⟨given, left⟩, hdeal⟩
      exact ⟨_, given, left, hdeal, .inl (List.sublist_nil.1 (Signature.sublist_of_deal hdeal)), rfl⟩
  have hmost : (∀ most, r.signature.arity.2 = some most → args.length ≤ most) ↔
      (r.signature.takesRest = true ∨ args.length ≤ r.signature.places) := by
    rw [Signature.arity_eq]
    cases r.signature.takesRest <;> simp
  rw [hdeal, Signature.exists_deal_iff h, hmost, Signature.arity_eq]
  exact ⟨fun h => ⟨h.named, h.least, h.most⟩, fun h => ⟨h.1, h.2.1, h.2.2⟩⟩

/-- Of a parameter by position only, one with a default and one by name with a default, two
    positional arguments bind and three do not. -/
theorem binds_positions_iff_mixed :
    let r : Rule := { name := "mixed", template := {
      signature := [{ name := "x", kind := .positional }, .optional "y" (.whole 1),
        .named "z" .null]
      expand := fun _ _ => .ok .null } }
    r.signature.WellFormed ∧ (∃ bound, r.signature.bind [.whole 7, .whole 8] [] = .ok bound) ∧
      ¬∃ bound, r.signature.bind [.whole 7, .whole 8, .whole 9] [] = .ok bound :=
  ⟨by decide, (binds_positions_iff (by decide) _).2 (by decide),
    fun h => absurd ((binds_positions_iff (by decide) _).1 h) (by decide)⟩

end Rule

end SqlDialects
