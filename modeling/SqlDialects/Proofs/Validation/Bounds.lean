-- SUMMARY: What a validator of numbers lets pass is within its bounds, or is a NaN.
import SqlDialects.Proofs.Fixed.Arguments
import SqlDialects.Proofs.Numbers.Order
import SqlDialects.Proofs.Validation.Runs
import SqlDialects.Tables.General

/-!
# Numbers within bounds

A validator of numbers refuses what is below its lower bound or above its upper one.
Whatever has a place on the line of numbers and is let pass is therefore within the
bounds that are set. A NaN has no place there: it is neither below nor above anything,
and it passes. A validator of whole numbers turns what it accepts into the whole number
it stands for, which a NaN does not.
-/

namespace SqlDialects

/-! ## Places of values -/

/-- Where a value stands on the line; a truth value is zero or one. -/
def Value.point? : Value → Option Line
  | .scalar s => s.toNumber?.bind Number.point?
  | _ => none

/-- Both values stand on the line, and the first one not above the second. -/
def Value.AtMost (v w : Value) : Prop :=
  ∃ p q, v.point? = some p ∧ w.point? = some q ∧ p ≤ q

namespace Number

theorem point?_whole (n : Int) : (whole n).point? = some (Extended.rat n).point := rfl

/-- The only number beside the decimals that has no place is the NaN. -/
theorem point?_isNone_iff {n : Number} (hn : n.isDecimal = false) :
    n.point? = none ↔ n = .double .nan := by
  cases n with
  | whole n => exact iff_of_false nofun nofun
  | double x =>
    cases x with
    | finite negative place =>
      rw [point?_finiteDouble, Binary64.toRat?_finite]
      exact iff_of_false nofun nofun
    | infinite negative => exact iff_of_false nofun nofun
    | nan => exact iff_of_true rfl rfl
  | decimal d => cases hn

variable {n : Number} {bound : Value} {p q : Line}

/-- A number is related to a bound as their points are. -/
theorem relates_of_point (hn : n.point? = some p) (hbound : bound.point? = some q)
    (accepts : Ordering → Bool) : n.relates bound accepts = .ok (accepts (cmp p q)) := by
  cases bound with
  | scalar s =>
    obtain ⟨m, hm, hq⟩ := Option.bind_eq_some_iff.1 hbound
    have hrelates {order : Ordering} (hcompare : n.compare? m = some order) :
        n.relates (.scalar s) accepts = .ok (accepts order) := by
      simp only [relates, hm, hcompare]
    apply hrelates
    rw [compare?_eq, hn, hq]
    rfl
  | _ => cases hbound

theorem isBelow_of_point (hn : n.point? = some p) (hbound : bound.point? = some q) :
    n.isBelow bound = .ok (p < q) := by
  rw [isBelow, relates_of_point hn hbound, Except.ok.injEq, Bool.eq_iff_iff,
    Ordering.isLT_iff_eq_lt, cmp_eq_lt_iff, decide_eq_true_iff]

theorem isAbove_of_point (hn : n.point? = some p) (hbound : bound.point? = some q) :
    n.isAbove bound = .ok (q < p) := by
  rw [isAbove, relates_of_point hn hbound, Except.ok.injEq, Bool.eq_iff_iff,
    Ordering.isGT_iff_eq_gt, cmp_eq_gt_iff, decide_eq_true_iff]

end Number

namespace Validator

/-- A value is within the bounds that are set. -/
structure Within (minimum maximum : Option Value) (v : Value) : Prop where
  lower : ∀ bound ∈ minimum, bound.AtMost v
  upper : ∀ bound ∈ maximum, v.AtMost bound

variable {minimum maximum : Option Value} {n : Number} {p : Line}

theorem checkBounds_some (bound : Value) (maximum : Option Value) (n : Number) :
    checkBounds (some bound) maximum n = (do
      if ← n.isBelow bound then reject (.belowMinimum bound) else checkBounds none maximum n) := by
  simp only [checkBounds]
  cases n.isBelow bound with
  | error => rfl
  | ok below => cases below <;> rfl

theorem checkBounds_none_some (bound : Value) (n : Number) :
    checkBounds none (some bound) n = (do
      if ← n.isAbove bound then reject (.aboveMaximum bound) else pure ()) := by
  simp only [checkBounds]

theorem atMost_iff {v w : Value} {p q : Line} (hv : v.point? = some p) (hw : w.point? = some q) :
    v.AtMost w ↔ p ≤ q := by
  unfold Value.AtMost
  simp [hv, hw]

theorem within_iff {v : Value} : Within minimum maximum v ↔
    (∀ bound ∈ minimum, bound.AtMost v) ∧ ∀ bound ∈ maximum, v.AtMost bound :=
  ⟨fun h => ⟨h.lower, h.upper⟩, fun h => ⟨h.1, h.2⟩⟩

/-- What has a place on the line passes the bounds that it is within, and no others. -/
theorem checkBounds_eq_ok_iff (hminimum : ∀ bound ∈ minimum, bound.point?.isSome)
    (hmaximum : ∀ bound ∈ maximum, bound.point?.isSome) (hn : n.point? = some p) :
    checkBounds minimum maximum n = .ok () ↔ Within minimum maximum (.number n) := by
  have hv : (Value.number n).point? = some p := hn
  have upper : checkBounds none maximum n = .ok () ↔
      ∀ bound ∈ maximum, (Value.number n).AtMost bound := by
    cases maximum with
    | none => simp [checkBounds, pure_eq_ok_iff]
    | some bound =>
      obtain ⟨q, hq⟩ := Option.isSome_iff_exists.1 (hmaximum bound rfl)
      rw [checkBounds_none_some, Number.isAbove_of_point hn hq, ok_bind]
      by_cases h : q < p
      · simp [h, reject, atMost_iff hv hq]
      · simp [h, pure_eq_ok_iff, atMost_iff hv hq, not_lt.1 h]
  rw [within_iff]
  cases minimum with
  | none => simp [upper]
  | some bound =>
    obtain ⟨q, hq⟩ := Option.isSome_iff_exists.1 (hminimum bound rfl)
    rw [checkBounds_some, Number.isBelow_of_point hn hq, ok_bind]
    by_cases h : p < q
    · simp [h, reject, atMost_iff hq hv]
    · simp [h, upper, atMost_iff hq hv, not_lt.1 h]

/-! ## What is let pass -/

section

variable {v w : Value}

theorem not_within_nan (hset : minimum ≠ none ∨ maximum ≠ none) :
    ¬Within minimum maximum (.double .nan) := by
  rintro ⟨lower, upper⟩
  rcases hset with hset | hset
  · obtain ⟨bound, rfl⟩ := Option.ne_none_iff_exists'.1 hset
    obtain ⟨_, _, _, hnan, _⟩ := lower bound rfl
    cases hnan
  · obtain ⟨bound, rfl⟩ := Option.ne_none_iff_exists'.1 hset
    obtain ⟨_, _, hnan, _⟩ := upper bound rfl
    cases hnan

theorem exists_of_apply_number (h : (number minimum maximum).apply v = .ok w) :
    ∃ n, n.isDecimal = false ∧ w = .number n ∧ checkBounds minimum maximum n = .ok () := by
  have hgives := gives_of_apply h
  generalize v.staticValue = u at hgives
  cases hgives with
  | number hdecimal hbounds => exact ⟨_, hdecimal, rfl, hbounds⟩

/-- A number that is let pass is within the bounds, if any are set, unless it is the NaN. -/
theorem within_of_apply_number (hminimum : ∀ bound ∈ minimum, bound.point?.isSome)
    (hmaximum : ∀ bound ∈ maximum, bound.point?.isSome)
    (h : (number minimum maximum).apply v = .ok w) :
    Within minimum maximum w ↔ w ≠ .double .nan ∨ minimum = none ∧ maximum = none := by
  obtain ⟨n, hdecimal, rfl, hbounds⟩ := exists_of_apply_number h
  cases hn : n.point? with
  | some p =>
    refine iff_of_true ((checkBounds_eq_ok_iff hminimum hmaximum hn).1 hbounds) (.inl fun heq => ?_)
    cases heq
    cases hn
  | none =>
    obtain rfl := (Number.point?_isNone_iff hdecimal).1 hn
    by_cases hset : minimum = none ∧ maximum = none
    · obtain ⟨rfl, rfl⟩ := hset
      exact iff_of_true ⟨nofun, nofun⟩ (.inr ⟨rfl, rfl⟩)
    · refine iff_of_false (not_within_nan ?_) (not_or.2 ⟨fun hne => hne rfl, hset⟩)
      exact not_and_or.1 hset

/-- The whole part that is taken of a number stands where the number stands. -/
theorem point?_of_wholePart {m : Int} (h : wholePart v n = .ok m) :
    n.point? = (Number.whole m).point? := by
  unfold wholePart at h
  split at h
  · cases h
    rfl
  · cases h
  · cases h
  next x hinfinite hnan =>
    split at h
    next r hr =>
      split at h
      next hden =>
        cases h
        cases x with
        | finite negative place =>
          rw [Number.point?_finiteDouble, hr, Number.point?_whole, Option.map_some,
            Rat.coe_int_num_of_den_eq_one hden]
        | infinite negative => exact absurd rfl (hinfinite negative)
        | nan => exact absurd rfl hnan
      next => cases h
    next => cases h
  · cases h

/-- A whole number that is let pass stands for what was given, and is within the bounds. -/
theorem within_of_apply_wholeNumber {allowNone : Bool}
    (hminimum : ∀ bound ∈ minimum, bound.point?.isSome)
    (hmaximum : ∀ bound ∈ maximum, bound.point?.isSome)
    (h : (wholeNumber allowNone minimum maximum).apply v = .ok w) (hv : v.staticValue ≠ .null) :
    ∃ m : Int, w = .whole m ∧ v.staticValue.point? = w.point? ∧ Within minimum maximum w := by
  have hgives := gives_of_apply h
  generalize v.staticValue = u at hgives hv ⊢
  cases hgives with
  | omitted => exact absurd rfl hv
  | whole hpart hbounds =>
    exact ⟨_, rfl, point?_of_wholePart hpart,
      (checkBounds_eq_ok_iff hminimum hmaximum rfl).1 hbounds⟩

end

end Validator

/-! ## Quantiles -/

namespace General

/-- The probability that a quantile is written with is between zero and one, or is the NaN. -/
theorem within_probs_iff {r : Rule} (hsignature : r.signature = quantileSignature)
    (hvalidators : r.validators = quantileValidators) {s : Setting} {args : List Value}
    {named : List (String × Value)} {e : Expr} (h : r.build s args named = .ok e) :
    ∃ given, r.template.expand s given = .ok (.sql e) ∧
      (Validator.Within (some (.whole 0)) (some (.whole 1)) (given.value "probs") ↔
        given.value "probs" ≠ .double .nan) := by
  have hruns : r.RunsDeclared := by
    apply Rule.runsDeclared
    · rw [hvalidators]
      decide
    · rw [hvalidators, Rule.parameters, hsignature]
      decide
  obtain ⟨bound, given, hbound, hvalidated, hexpand⟩ := hruns s args named e h
  have hdeclared : ("probs", [.number (some (.whole 0)) (some (.whole 1))]) ∈ r.validators :=
    hvalidators ▸ List.mem_cons_self
  obtain ⟨b, b', hb, hchain, hb'⟩ := hvalidated.chains _ _ hdeclared
  -- the parameter takes one value, so its validator was handed one
  have hparameter : Param.required "probs" ∈ quantileSignature :=
    List.mem_cons_of_mem _ List.mem_cons_self
  rw [hsignature] at hbound
  obtain ⟨b₁, hb₁, hfits⟩ := Signature.fits_bind (by decide) hbound hparameter
  obtain ⟨v, rfl⟩ := hfits.exists_one nofun nofun
  cases hb.symm.trans hb₁
  obtain ⟨w, hw, rfl⟩ := Validator.exists_of_chain_one hchain
  refine ⟨given, hexpand, ?_⟩
  rw [Arguments.value_of_lookup hb', Validator.within_of_apply_number _ _ hw]
  · exact or_iff_left nofun
  · rintro _ ⟨⟩
    rfl
  · rintro _ ⟨⟩
    rfl

end General

/-! ## Bounds that are set -/

namespace Validator

/-- What the validators of numbers let pass is within the bounds that are set, except a NaN
    that is taken for a number; and so is the probability that a quantile is written with. -/
theorem within_iff_not_nan {minimum maximum : Option Value}
    (hminimum : ∀ bound ∈ minimum, bound.point?.isSome)
    (hmaximum : ∀ bound ∈ maximum, bound.point?.isSome) :
    (∀ v w, (number minimum maximum).apply v = .ok w →
      (Within minimum maximum w ↔ w ≠ .double .nan ∨ minimum = none ∧ maximum = none)) ∧
    (∀ allowNone v w, (wholeNumber allowNone minimum maximum).apply v = .ok w →
      v.staticValue ≠ .null →
        ∃ m : Int, w = .whole m ∧ v.staticValue.point? = w.point? ∧ Within minimum maximum w) ∧
    ∀ s args named e,
      (General.quantile.build s args named = .ok e → ∃ p x, e = General.percentile p x ∧
        (Within (some (.whole 0)) (some (.whole 1)) p ↔ p ≠ .double .nan)) ∧
      (General.quantileOver.build s args named = .ok e →
        ∃ p x, e = .over (General.percentile p x) (General.partitioned s.window) ∧
          (Within (some (.whole 0)) (some (.whole 1)) p ↔ p ≠ .double .nan)) := by
  refine ⟨fun v w h => within_of_apply_number hminimum hmaximum h,
    fun allowNone v w h hv => within_of_apply_wholeNumber hminimum hmaximum h hv,
    fun s args named e => ⟨fun h => ?_, fun h => ?_⟩⟩
  · obtain ⟨given, hexpand, hprobs⟩ := General.within_probs_iff rfl rfl h
    cases hexpand
    exact ⟨_, _, rfl, hprobs⟩
  · obtain ⟨given, hexpand, hprobs⟩ := General.within_probs_iff rfl rfl h
    cases hexpand
    exact ⟨_, _, rfl, hprobs⟩

theorem within_iff_not_nan_half :
    (∀ bound ∈ some (Value.whole 0), bound.point?.isSome) ∧
      (number (some (.whole 0)) (some (.whole 1))).apply General.half = .ok General.half ∧
      Within (some (.whole 0)) (some (.whole 1)) General.half := by
  have hbounds (n : Int) : ∀ bound ∈ some (Value.whole n), bound.point?.isSome := by
    rintro _ ⟨⟩
    rfl
  have hhalf : (number (some (.whole 0)) (some (.whole 1))).apply General.half =
      .ok General.half := rfl
  refine ⟨hbounds 0, hhalf, ?_⟩
  exact ((within_iff_not_nan (hbounds 0) (hbounds 1)).1 _ _ hhalf).2 (.inl nofun)

/-- The NaN is neither below nor above a bound, and a quantile is written with it. -/
theorem not_within_bounds_nan :
    (number (some (.whole 0)) (some (.whole 1))).apply (.double .nan) = .ok (.double .nan) ∧
      General.quantile.build { backend := .postgres, context := .aggregate }
          [.column "x" none, .double .nan] [] =
        .ok (General.percentile (.double .nan) (.column "x" none)) ∧
      ¬Within (some (.whole 0)) (some (.whole 1)) (.double .nan) :=
  ⟨rfl, rfl, not_within_nan (.inl nofun)⟩

end Validator

end SqlDialects
