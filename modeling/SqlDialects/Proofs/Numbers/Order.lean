-- SUMMARY: Numbers of every kind are compared as the points of one line, whichever way they are written.
import Mathlib.Data.Nat.Digits.Defs
import Mathlib.Tactic.FieldSimp
import SqlDialects.Number.Basic

/-!
# The order of numbers

A number stands for a rational number or for one of the two infinities, and a NaN for
nothing. Comparing two numbers compares these points. Beside a decimal both numbers are
compared as decimals, by the places of their first digits and only then digit by digit,
without writing their exponents out. That is the order of the points again, and a double
written as a decimal stands for what it stood for.
-/

namespace SqlDialects

/-- The rational numbers between two infinities. -/
abbrev Line := WithBot (WithTop ℚ)

namespace Extended

def point : Extended → Line
  | .below => ⊥
  | .rat x => ((x : WithTop ℚ) : Line)
  | .above => ((⊤ : WithTop ℚ) : Line)

theorem cmp_point_rat (x y : ℚ) : cmp (Extended.rat x).point (Extended.rat y).point = cmp x y :=
  (WithBot.coe_strictMono.comp WithTop.coe_strictMono).cmp_map_eq x y

theorem compare_eq (a b : Extended) : a.compare b = cmp a.point b.point := by
  cases a with
  | below =>
    cases b with
    | below => exact (cmp_self_eq_eq _).symm
    | rat y => exact ((cmp_eq_lt_iff _ _).2 (WithBot.bot_lt_coe _)).symm
    | above => exact ((cmp_eq_lt_iff _ _).2 (WithBot.bot_lt_coe _)).symm
  | rat x =>
    cases b with
    | below => exact ((cmp_eq_gt_iff _ _).2 (WithBot.bot_lt_coe _)).symm
    | rat y =>
      rw [cmp_point_rat, compare]
      rcases lt_trichotomy x y with h | rfl | h
      · rw [if_pos h, (cmp_eq_lt_iff _ _).2 h]
      · rw [if_neg (lt_irrefl x), if_pos rfl, cmp_self_eq_eq]
      · rw [if_neg h.not_gt, if_neg h.ne', (cmp_eq_gt_iff _ _).2 h]
    | above => exact ((cmp_eq_lt_iff _ _).2 (WithBot.coe_lt_coe.2 (WithTop.coe_lt_top _))).symm
  | above =>
    cases b with
    | below => exact ((cmp_eq_gt_iff _ _).2 (WithBot.bot_lt_coe _)).symm
    | rat y => exact ((cmp_eq_gt_iff _ _).2 (WithBot.coe_lt_coe.2 (WithTop.coe_lt_top _))).symm
    | above => exact (cmp_self_eq_eq _).symm

end Extended

/-- Where a number stands on the line; a NaN stands nowhere. -/
def Number.point? (n : Number) : Option Line := n.extended?.map Extended.point

/-! ## Decimals -/

namespace Decimal

/-- `coefficient · 10 ^ exponent`, with its sign. -/
def toRational (negative : Bool) (coefficient : Nat) (exponent : Int) : ℚ :=
  (if negative then -(coefficient : ℚ) else coefficient) * 10 ^ exponent

theorem toRat?_finite (negative : Bool) (m : Nat) (e : Int) :
    (finite negative m e).toRat? = some (toRational negative m e) := by
  have hcoefficient : ((if negative then -(m : Int) else m : Int) : ℚ)
      = if negative then -(m : ℚ) else m := by
    cases negative <;> simp
  unfold toRat? toRational
  dsimp only
  split
  next hexponent =>
    obtain ⟨k, rfl⟩ := Int.eq_ofNat_of_zero_le hexponent
    rw [Int.cast_mul, hcoefficient]
    simp
  next hexponent =>
    obtain ⟨k, rfl⟩ : ∃ k : Nat, e = -k := ⟨(-e).toNat, by omega⟩
    rw [Rat.mkRat_eq_div, hcoefficient]
    simp [div_eq_mul_inv]

theorem lt_pow_digitCount (n : Nat) : n < 10 ^ digitCount n :=
  (Nat.length_repr_le_iff Nat.length_repr_pos).1 le_rfl

theorem pow_digitCount_le {n : Nat} (h : n ≠ 0) : 10 ^ (digitCount n - 1) ≤ n := by
  rcases Nat.eq_zero_or_pos (digitCount n - 1) with hone | hmore
  · rw [hone]
    exact Nat.one_le_iff_ne_zero.2 h
  · by_contra hlt
    have hlength := (Nat.length_repr_le_iff hmore).2 (Nat.lt_of_not_le hlt)
    unfold digitCount at hlength hmore
    omega

/-- A number whose first digit stands at a lower place is the smaller one. -/
theorem lt_of_place_lt {m n : Nat} {e f : Int} (hn : n ≠ 0)
    (h : digitCount m + e < digitCount n + f) : (m : ℚ) * 10 ^ e < n * 10 ^ f := by
  have hten (k : Int) : (0 : ℚ) < 10 ^ k := zpow_pos (by norm_num) k
  have hpositive : 0 < digitCount n := Nat.length_repr_pos
  have hupper : (m : ℚ) < 10 ^ (digitCount m : Int) := by
    exact_mod_cast lt_pow_digitCount m
  have hlower : (10 : ℚ) ^ ((digitCount n - 1 : Nat) : Int) ≤ n := by
    exact_mod_cast pow_digitCount_le hn
  calc (m : ℚ) * 10 ^ e < 10 ^ (digitCount m : Int) * 10 ^ e :=
        mul_lt_mul_of_pos_right hupper (hten e)
    _ = 10 ^ (digitCount m + e) := (zpow_add₀ (by norm_num) _ _).symm
    _ ≤ 10 ^ (((digitCount n - 1 : Nat) : Int) + f) := zpow_le_zpow_right₀ (by norm_num) (by omega)
    _ = 10 ^ ((digitCount n - 1 : Nat) : Int) * 10 ^ f := zpow_add₀ (by norm_num) _ _
    _ ≤ n * 10 ^ f := mul_le_mul_of_nonneg_right hlower (hten f).le

theorem compareMagnitudes_eq (m : Nat) (e : Int) (n : Nat) (f : Int) :
    compareMagnitudes m e n f = cmp ((m : ℚ) * 10 ^ e) (n * 10 ^ f) := by
  have hten (k : Int) : (0 : ℚ) < 10 ^ k := zpow_pos (by norm_num) k
  have hcast (a b : Nat) : cmp (a : ℚ) b = Ord.compare a b := by
    rw [Nat.strictMono_cast.cmp_map_eq, cmp_eq_compare]
  rw [compareMagnitudes]
  by_cases hzero : m = 0 ∨ n = 0
  · -- one of the two is zero, and the exponents do not count
    rw [if_pos hzero, ← hcast]
    rcases hzero with rfl | rfl
    · have hscaled := cmp_mul_pos_right (hten f) (0 : ℚ) n
      rw [zero_mul] at hscaled
      rw [Nat.cast_zero, zero_mul, hscaled]
    · have hscaled := cmp_mul_pos_right (hten e) (m : ℚ) 0
      rw [zero_mul] at hscaled
      rw [Nat.cast_zero, zero_mul, hscaled]
  · rw [if_neg hzero]
    obtain ⟨hm, hn⟩ := not_or.1 hzero
    cases hplace : Ord.compare ((digitCount m : Int) + e) (digitCount n + f) with
    | lt => exact ((cmp_eq_lt_iff _ _).2 (lt_of_place_lt hn (compare_lt_iff_lt.1 hplace))).symm
    | gt => exact ((cmp_eq_gt_iff _ _).2 (lt_of_place_lt hm (compare_gt_iff_gt.1 hplace))).symm
    | eq =>
      -- both sides are brought to the lower exponent
      have hbrought (k : Nat) {g : Int} (hg : min e f ≤ g) :
          (k : ℚ) * 10 ^ g = 10 ^ min e f * (k * Nat.pow 10 (g - min e f).toNat : Nat) := by
        have hpower : (10 : ℚ) ^ g = 10 ^ min e f * 10 ^ (g - min e f).toNat := by
          rw [← zpow_natCast, Int.toNat_of_nonneg (by omega), ← zpow_add₀ (by norm_num)]
          congr 1
          omega
        have hnat : Nat.pow 10 (g - min e f).toNat = 10 ^ (g - min e f).toNat := rfl
        rw [hpower, hnat]
        push_cast
        ring
      rw [hbrought m (min_le_left e f), hbrought n (min_le_right e f),
        cmp_mul_pos_left (hten _), hcast]

/-- A sign counts before a coefficient that is not zero. -/
theorem toRational_of_counts {negative : Bool} {m : Nat} (h : (negative && decide (m ≠ 0)) = true)
    (e : Int) : toRational negative m e = -((m : ℚ) * 10 ^ e) ∧ 0 < (m : ℚ) * 10 ^ e := by
  obtain ⟨rfl, hm⟩ : negative = true ∧ m ≠ 0 := by simpa using h
  have hpositive : (0 : ℚ) < m := Nat.cast_pos.2 (Nat.pos_of_ne_zero hm)
  exact ⟨by simp [toRational], mul_pos hpositive (zpow_pos (by norm_num) e)⟩

theorem toRational_of_not_counts {negative : Bool} {m : Nat}
    (h : (negative && decide (m ≠ 0)) = false) (e : Int) :
    toRational negative m e = (m : ℚ) * 10 ^ e ∧ 0 ≤ (m : ℚ) * 10 ^ e := by
  refine ⟨?_, mul_nonneg (Nat.cast_nonneg m) (zpow_pos (by norm_num) e).le⟩
  cases negative with
  | false => simp [toRational]
  | true =>
    have hm : m = 0 := by simpa using h
    simp [toRational, hm]

theorem compareFinite_eq (a : Bool) (m : Nat) (e : Int) (b : Bool) (n : Nat) (f : Int) :
    compareFinite a m e b n f = cmp (toRational a m e) (toRational b n f) := by
  rw [compareFinite]
  cases ha : a && decide (m ≠ 0) with
  | false =>
    obtain ⟨hx, hnonneg⟩ := toRational_of_not_counts ha e
    cases hb : b && decide (n ≠ 0) with
    | false => rw [hx, (toRational_of_not_counts hb f).1, ← compareMagnitudes_eq]
    | true =>
      obtain ⟨hy, hpositive⟩ := toRational_of_counts hb f
      rw [hx, hy]
      exact ((cmp_eq_gt_iff _ _).2 (by linarith)).symm
  | true =>
    obtain ⟨hx, hpositive⟩ := toRational_of_counts ha e
    cases hb : b && decide (n ≠ 0) with
    | false =>
      obtain ⟨hy, hnonneg⟩ := toRational_of_not_counts hb f
      rw [hx, hy]
      exact ((cmp_eq_lt_iff _ _).2 (by linarith)).symm
    | true =>
      rw [hx, (toRational_of_counts hb f).1,
        StrictAnti.cmp_map_eq (f := fun x : ℚ => -x) (fun _ _ h => neg_lt_neg h),
        ← compareMagnitudes_eq]

end Decimal

namespace Number

theorem point?_finite (negative : Bool) (m : Nat) (e : Int) :
    (decimal (.finite negative m e)).point? =
      some (Extended.rat (Decimal.toRational negative m e)).point := by
  rw [point?, extended?, Decimal.toRat?_finite]
  · rfl
  · intro _ h
    cases h

theorem point?_infinite (negative : Bool) :
    (decimal (.infinite negative)).point? = some (Extended.ofInfinite negative).point := rfl

theorem point?_nan (negative signaling : Bool) (diagnostic : Nat) :
    (decimal (.nan negative signaling diagnostic)).point? = none := rfl

/-- Decimals are compared as the points they stand for. -/
theorem compare?_decimal (d d' : Decimal) :
    d.compare? d' = (do return cmp (← (decimal d).point?) (← (decimal d').point?)) := by
  cases d with
  | nan => cases d' <;> rfl
  | infinite a =>
    cases d' with
    | nan => rfl
    | infinite b =>
      rw [point?_infinite, point?_infinite]
      show some _ = some _
      rw [← Extended.compare_eq]
      cases a <;> cases b <;> rfl
    | finite b n f =>
      rw [point?_infinite, point?_finite]
      show some _ = some _
      rw [← Extended.compare_eq]
      cases a <;> rfl
  | finite a m e =>
    cases d' with
    | nan => rw [point?_nan]; cases h : (decimal (.finite a m e)).point? <;> rfl
    | infinite b =>
      rw [point?_infinite, point?_finite]
      show some _ = some _
      rw [← Extended.compare_eq]
      cases b <;> rfl
    | finite b n f =>
      rw [point?_finite, point?_finite]
      show some _ = some _
      rw [Decimal.compareFinite_eq, Extended.cmp_point_rat]

end Number

/-! ## Other numbers as decimals -/

namespace Binary64

theorem ratio_eq (m : Nat) (q : Int) : ((ratio m q).1 : ℚ) / (ratio m q).2 = m * 2 ^ q := by
  unfold ratio
  split
  next h =>
    obtain ⟨k, rfl⟩ := Int.eq_ofNat_of_zero_le h
    simp
  next h =>
    obtain ⟨k, rfl⟩ : ∃ k : Nat, q = -k := ⟨(-q).toNat, by omega⟩
    simp [div_eq_mul_inv]

/-- Powers of two below one are powers of five by powers of ten. -/
theorem mul_five_pow (m k : Nat) :
    ((m * Nat.pow 5 k : Nat) : ℚ) * 10 ^ (-k : Int) = m * 2 ^ (-k : Int) := by
  have hten : (10 : ℚ) ^ k = 2 ^ k * 5 ^ k := by
    rw [← mul_pow]
    norm_num
  have hfive : ((Nat.pow 5 k : Nat) : ℚ) = 5 ^ k := Nat.cast_pow 5 k
  have hpositive : (0 : ℚ) < 5 ^ k := by positivity
  rw [Nat.cast_mul, hfive, zpow_neg, zpow_neg, zpow_natCast, zpow_natCast, hten]
  field_simp

theorem toRat?_finite (negative : Bool) (place : Place) :
    (finite negative place).toRat? =
      some (if negative then -(significand place * 2 ^ scale place : ℚ)
        else significand place * 2 ^ scale place) := by
  rw [← ratio_eq]
  unfold toRat? magnitude
  dsimp only
  rw [Rat.mkRat_eq_div]
  cases negative with
  | false => simp
  | true => simp [neg_div]

end Binary64

namespace Number

theorem point?_finiteDouble (negative : Bool) (place : Binary64.Place) :
    (double (.finite negative place)).point? =
      (Binary64.finite negative place).toRat?.map fun x => (Extended.rat x).point := by
  rw [point?, extended?, Option.map_map]
  · rfl
  · intro _ h
    cases h

/-- A number keeps its point when it is written as a decimal. -/
theorem point?_toDecimal (n : Number) : (decimal n.toDecimal).point? = n.point? := by
  cases n with
  | whole n =>
    have hrational : Decimal.toRational (decide (n < 0)) n.natAbs 0 = n := by
      unfold Decimal.toRational
      rcases lt_or_ge n 0 with h | h
      · simp [h, abs_of_neg]
      · simp [h.not_gt, abs_of_nonneg, h]
    rw [toDecimal, point?_finite, hrational]
    rfl
  | double x =>
    cases x with
    | finite negative place =>
      rw [point?_finiteDouble, Binary64.toRat?_finite, toDecimal, Binary64.toDecimal]
      split
      next h =>
        obtain ⟨k, hk⟩ := Int.eq_ofNat_of_zero_le h
        rw [point?_finite, hk]
        cases negative <;> simp [Decimal.toRational]
      next h =>
        obtain ⟨k, hk⟩ : ∃ k : Nat, Binary64.scale place = -k :=
          ⟨(-Binary64.scale place).toNat, by omega⟩
        rw [point?_finite, hk, neg_neg, Int.toNat_natCast, Decimal.toRational,
          ← Binary64.mul_five_pow (Binary64.significand place) k]
        cases negative <;> simp
    | infinite negative => rfl
    | nan => rfl
  | decimal d => rfl

/-- Two numbers are compared as the points they stand for. -/
theorem compare?_eq (x y : Number) :
    x.compare? y = (do return cmp (← x.point?) (← y.point?)) := by
  rw [compare?]
  by_cases hdecimal : (x.isDecimal || y.isDecimal) = true
  · rw [if_pos hdecimal, compare?_decimal, point?_toDecimal, point?_toDecimal]
  · rw [if_neg hdecimal, point?, point?]
    cases x.extended? with
    | none => rfl
    | some a =>
      cases y.extended? with
      | none => rfl
      | some b => exact congrArg some (Extended.compare_eq a b)

end Number

end SqlDialects
