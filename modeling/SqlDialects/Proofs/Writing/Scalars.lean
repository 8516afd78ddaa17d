-- SUMMARY: The bare text of a scalar that has a literal can stand in a text literal, and the whole part of a double is short enough to be written.
import Mathlib.Data.Rat.Lemmas
import SqlDialects.Proofs.Lexing.Pieces
import SqlDialects.Validator

/-!
# Scalars in literals

A template may write a scalar twice: as a literal of its own, or as part of a text.
Whatever has a literal has bare text without a NUL character, so the text has a
literal too. A double that is whole stands for a number of at most 309 digits, which is
far below the digits a whole number may have.
-/

namespace SqlDialects

/-! ## Texts without NUL characters -/

/-- No NUL character is among some characters. -/
def NulFree (cs : List Char) : Prop := Char.ofNat 0 ∉ cs

instance (cs : List Char) : Decidable (NulFree cs) := inferInstanceAs (Decidable (¬ _))

namespace NulFree

variable {cs ds : List Char}

@[simp, grind ←] theorem nil : NulFree [] := List.not_mem_nil

@[simp, grind =]
theorem cons_iff {c : Char} : NulFree (c :: cs) ↔ c ≠ Char.ofNat 0 ∧ NulFree cs := by
  rw [NulFree, List.mem_cons, not_or, NulFree, ne_comm]

@[simp] theorem append_iff : NulFree (cs ++ ds) ↔ NulFree cs ∧ NulFree ds := by
  rw [NulFree, List.mem_append, not_or, NulFree, NulFree]

theorem take (h : NulFree cs) (n : Nat) : NulFree (cs.take n) :=
  fun hmem => h (List.mem_of_mem_take hmem)

theorem drop (h : NulFree cs) (n : Nat) : NulFree (cs.drop n) :=
  fun hmem => h (List.mem_of_mem_drop hmem)

theorem append {s t : String} (hs : NulFree s.toList) (ht : NulFree t.toList) :
    NulFree (s ++ t).toList := by
  rw [String.toList_append, append_iff]
  exact ⟨hs, ht⟩

theorem ite {p : Prop} [Decidable p] {s t : String} (hs : NulFree s.toList)
    (ht : NulFree t.toList) : NulFree (if p then s else t).toList := by
  split
  · exact hs
  · exact ht

theorem zeros (n : Nat) : NulFree (List.replicate n '0') := by
  intro hmem
  exact absurd (List.eq_of_mem_replicate hmem) (by decide)

theorem repr (n : Nat) : NulFree n.repr.toList := by
  intro hmem
  exact absurd (isDigit_of_mem_repr hmem) (by decide)

theorem toString (n : Int) : NulFree (ToString.toString n).toList := by
  rw [Int.toString_eq_repr, Int.repr_eq_if]
  split
  · exact repr _
  · rw [String.toList_append, append_iff]
    exact ⟨by decide, repr _⟩

theorem fixedDigits (count n : Nat) : NulFree (SqlDialects.fixedDigits count n) := by
  induction count generalizing n with
  | zero => exact nil
  | succ count ih =>
    have hdigit : Nat.digitChar (n % 10) ≠ Char.ofNat 0 := Nat.digitChar_ne _ (by decide)
    simp [SqlDialects.fixedDigits, ih, hdigit]

/-! ### Calendar -/

theorem isoList_date (d : Date) : NulFree d.isoList := by
  simp [Date.isoList, fixedDigits]

theorem isoList_offset (o : Offset) : NulFree o.isoList := by
  unfold Offset.isoList
  dsimp only
  split_ifs <;> simp [fixedDigits]

theorem isoList_time (t : TimeOfDay) : NulFree t.isoList := by
  unfold TimeOfDay.isoList
  cases t.offset with
  | none => split_ifs <;> simp [fixedDigits]
  | some o => split_ifs <;> simp [fixedDigits, isoList_offset]

/-! ### Numbers -/

theorem padLeft (width : Nat) {digits : String} (h : NulFree digits.toList) :
    NulFree (Binary64.padLeft width digits).toList := by
  simp [Binary64.padLeft, zeros, h]

theorem signText (negative : Bool) : NulFree (Binary64.signText negative).toList := by
  cases negative <;> decide

theorem positional {digits : String} (h : NulFree digits.toList) (point : Int) :
    NulFree (Binary64.positional digits point).toList := by
  unfold Binary64.positional
  dsimp only
  split_ifs <;> simp [padLeft, zeros, h, h.take, h.drop]

theorem scientific (l : Binary64.Layout) {digits : String} (h : NulFree digits.toList)
    (point : Int) : NulFree (Binary64.scientific l digits point).toList := by
  unfold Binary64.scientific
  refine append (append ?_ (ite (by decide) (by decide))) (padLeft _ (repr _))
  cases hdigits : digits.toList with
  | nil => decide
  | cons c rest =>
    rw [hdigits] at h
    cases rest with
    | nil => simpa using h
    | cons d rest => simpa using h

theorem text_double (x : Binary64) : NulFree x.text.toList := by
  cases x with
  | nan => decide
  | infinite negative => cases negative <;> decide
  | finite negative place =>
    have hdigits (d : ShortDecimal) : NulFree d.digits.toList := repr d.coefficient
    exact append (signText negative) (ite (positional (hdigits _) _) (scientific _ (hdigits _) _))

theorem withPoint {digits : String} (h : NulFree digits.toList) (places : Nat) :
    NulFree (Decimal.withPoint digits places).toList := by
  have hpadded : NulFree (List.replicate (places + 1 - digits.length) '0' ++ digits.toList) :=
    append_iff.2 ⟨zeros _, h⟩
  unfold Decimal.withPoint
  dsimp only
  split
  · rw [String.toList_ofList]
    exact hpadded
  · rw [String.toList_ofList, append_iff, cons_iff]
    exact ⟨hpadded.take _, by decide, hpadded.drop _⟩

theorem text_decimal (d : Decimal) : NulFree d.text.toList := by
  cases d with
  | finite negative coefficient exponent =>
    have hdigits : NulFree (Nat.repr coefficient).toList := repr coefficient
    have hexponent {e : Int} : NulFree (Decimal.withExponent (Nat.repr coefficient) e).toList :=
      append (append (withPoint hdigits _) (ite (by decide) (by decide))) (repr _)
    exact append (ite (by decide) (by decide)) (ite (withPoint hdigits _) hexponent)
  | infinite negative => cases negative <;> decide
  | nan negative signaling diagnostic =>
    exact append (append (ite (by decide) (by decide)) (ite (by decide) (by decide)))
      (ite (by decide) (repr diagnostic))

theorem text_number (n : Number) : NulFree n.text.toList := by
  cases n with
  | whole n => exact toString n
  | double x => exact text_double x
  | decimal d => exact text_decimal d

end NulFree

/-! ## Literals -/

theorem Backend.textLiteral_of_nulFree (backend : Backend) {s : String} (h : NulFree s.toList) :
    ∃ text, backend.textLiteral s = .ok text := by
  rw [textLiteral, List.contains_eq_mem, decide_eq_false h]
  exact ⟨_, rfl⟩

/-- Whatever has a literal can be part of a text. -/
theorem Backend.nulFree_bareText {backend : Backend} {s : Scalar} {text : String}
    (h : backend.scalarLiteral s = .ok text) : NulFree s.bareText.toList := by
  cases s with
  | null => decide
  | bool b => cases b <;> decide
  | number n => exact NulFree.text_number n
  | text s =>
    rw [scalarLiteral, textLiteral] at h
    split at h
    next => cases h
    next hs => simpa [NulFree, Scalar.bareText] using hs
  | bytes bytes => cases h
  | date d => simpa [Scalar.bareText, Date.iso] using NulFree.isoList_date d
  | time t => simpa [Scalar.bareText, TimeOfDay.iso] using NulFree.isoList_time t
  | moment d t =>
    simp [Scalar.bareText, isoMoment, NulFree.isoList_date, NulFree.isoList_time]
  | omitted => cases h

/-! ## Whole parts -/

namespace Binary64

theorem significand_lt (place : Nat) : significand place < Nat.pow 10 16 := by
  have hblock : Nat.pow 2 52 = 4503599627370496 := rfl
  have hbound : Nat.pow 10 16 = 10000000000000000 := rfl
  unfold significand
  rw [hblock, hbound]
  split
  · omega
  · omega

theorem scale_le (place : Place) : scale place ≤ 971 := by
  have hblock : Nat.pow 2 52 = 4503599627370496 := rfl
  have hplace := place.isLt
  unfold scale
  rw [hblock]
  split
  · decide
  · omega

theorem magnitude_lt (place : Nat) :
    (magnitude place).1 < Nat.pow 10 16 * Nat.pow 10 (scale place).toNat := by
  have hpositive (k : Nat) : 0 < Nat.pow 10 k := Nat.pow_pos (by decide)
  unfold magnitude ratio
  split
  · exact Nat.mul_lt_mul_of_lt_of_le (significand_lt place) (Nat.pow_le_pow_left (by decide) _)
      (hpositive _)
  · exact Nat.lt_of_lt_of_le (significand_lt place) (Nat.le_mul_of_pos_right _ (hpositive _))

theorem magnitude_ne_zero (place : Nat) : (magnitude place).2 ≠ 0 := by
  unfold magnitude ratio
  split
  · exact Nat.one_ne_zero
  · exact (Nat.pow_pos (by decide)).ne'

theorem pow_mul_pow_le {a b c : Nat} (h : a + b ≤ c) :
    Nat.pow 10 a * Nat.pow 10 b ≤ Nat.pow 10 c := by
  have hsum : Nat.pow 10 a * Nat.pow 10 b = Nat.pow 10 (a + b) := (Nat.pow_add 10 a b).symm
  rw [hsum]
  exact Nat.pow_le_pow_right (by decide) h

/-- The whole part of a double has far fewer digits than a whole number may have. -/
theorem isWritable_num {x : Binary64} {r : Rat} (h : x.toRat? = some r) : IsWritable r.num := by
  cases x with
  | finite negative place =>
    obtain ⟨n, hn, hr⟩ : ∃ n : Int, n.natAbs = (magnitude place).1 ∧
        r = mkRat n (magnitude place).2 := by
      cases negative with
      | false => exact ⟨_, Int.natAbs_natCast _, (Option.some.inj h).symm⟩
      | true => exact ⟨_, (Int.natAbs_neg _).trans (Int.natAbs_natCast _), (Option.some.inj h).symm⟩
    have hdivides : r.num ∣ n := by
      rw [hr, Rat.mkRat_eq_divInt]
      exact Rat.num_dvd n (Int.natCast_ne_zero.2 (magnitude_ne_zero place))
    have hdigits : 16 + (scale place).toNat ≤ wholeDigitLimit := by
      have hscale := scale_le place
      unfold wholeDigitLimit
      omega
    by_cases hzero : n = 0
    · have hr : r = 0 := by rw [hr, hzero, Rat.zero_mkRat]
      rw [hr]
      exact isWritable_of_lt_ten (by decide)
    · calc r.num.natAbs ≤ n.natAbs := Int.natAbs_le_of_dvd_ne_zero hdivides hzero
        _ < Nat.pow 10 16 * Nat.pow 10 (scale place).toNat := hn ▸ magnitude_lt place
        _ ≤ Nat.pow 10 wholeDigitLimit := pow_mul_pow_le hdigits
  | infinite negative => cases h
  | nan => cases h

end Binary64

end SqlDialects
