-- SUMMARY: The number that the literal of a double writes has the same text as the literal when there is no exponent and no signed zero.
import Mathlib.Data.List.TakeDrop
import SqlDialects.Proofs.Lexing.Pieces
import SqlDialects.Proofs.Matching.Meaning

/-!
# Numeric constants

A double is written positionally or with an exponent, and a zero keeps its sign. The text
of the number that is written has neither an exponent nor a signed zero, and is otherwise
what was written.
-/

namespace SqlDialects

/-! ## Reading constants -/

section

variable {whole fraction : List Char}

theorem span_append {p : Char → Bool} {cs ds : List Char} (hcs : ∀ c ∈ cs, p c = true)
    (hds : StartsWithout p ds) : (cs ++ ds).span p = (cs, ds) := by
  obtain ⟨htake, hdrop⟩ := Identifier.run_append hcs hds
  rw [List.span_eq_takeWhile_dropWhile, htake, hdrop]

theorem ne_of_isDigit_of_not {c d : Char} (hc : c.isDigit = true) (hd : d.isDigit = false) :
    c ≠ d := by
  rintro rfl
  rw [hc] at hd
  cases hd

theorem signed_of_isDigit (negative : Bool) {c : Char} (hc : c.isDigit = true) (cs : List Char) :
    signed ((Binary64.signText negative).toList ++ c :: cs) = (negative, c :: cs) := by
  cases negative with
  | true => rfl
  | false =>
    have hminus : c ≠ '-' := ne_of_isDigit_of_not hc rfl
    have hplus : c ≠ '+' := ne_of_isDigit_of_not hc rfl
    simp [Binary64.signText, signed, hminus, hplus]

theorem placedDigits_append (hwhole : whole ≠ []) (hfraction : fraction ≠ []) :
    placedDigits (whole ++ fraction) whole.length = whole ++ '.' :: fraction := by
  have hpoint : ¬(whole.length : Int) ≤ 0 := by
    have hlength := List.length_pos_iff.2 hwhole
    omega
  have hnone : whole.length - (whole ++ fraction).length = 0 := by
    rw [List.length_append]
    omega
  rw [placedDigits, if_neg hpoint]
  simp only [Int.toNat_natCast, List.take_left', List.drop_left', hnone, List.replicate_zero,
    List.append_nil]

/-- A constant without an exponent keeps its digits, and its sign unless all digits are zero. -/
theorem numericText_positional (negative : Bool) (hwhole : whole ≠ []) (hfraction : fraction ≠ [])
    (hdigits : ∀ c ∈ whole ++ fraction, c.isDigit = true) :
    numericText ((Binary64.signText negative).toList ++ (whole ++ '.' :: fraction)) =
      (if negative && (whole ++ fraction).any (· ≠ '0') then ['-'] else []) ++
        (whole ++ '.' :: fraction) := by
  have hsigned : signed ((Binary64.signText negative).toList ++ (whole ++ '.' :: fraction)) =
      (negative, whole ++ '.' :: fraction) := by
    obtain ⟨c, cs, rfl⟩ := List.exists_cons_of_ne_nil hwhole
    exact signed_of_isDigit negative (hdigits c (by simp)) _
  have hmantissa : (whole ++ '.' :: fraction).span (· ≠ 'e') = (whole ++ '.' :: fraction, []) := by
    have hcs : ∀ c ∈ whole ++ '.' :: fraction, decide (c ≠ 'e') = true := by
      intro c hc
      rw [decide_eq_true_iff]
      rcases List.mem_append.1 hc with hc | hc
      · exact ne_of_isDigit_of_not (hdigits c (List.mem_append_left _ hc)) rfl
      · rcases List.mem_cons.1 hc with rfl | hc
        · decide
        · exact ne_of_isDigit_of_not (hdigits c (List.mem_append_right _ hc)) rfl
    have hspan := span_append hcs .nil
    rwa [List.append_nil] at hspan
  have hpoint : (whole ++ '.' :: fraction).span (· ≠ '.') = (whole, '.' :: fraction) := by
    refine span_append (fun c hc => decide_eq_true_iff.2 ?_) (.cons (by simp) _)
    exact ne_of_isDigit_of_not (hdigits c (List.mem_append_left _ hc)) rfl
  have hshift : (whole.length : Int) + exponentValue [] = whole.length := Int.add_zero _
  unfold numericText
  simp only [hsigned, hmantissa, hpoint, List.drop_succ_cons, List.drop_zero, List.drop_nil, hshift,
    placedDigits_append hwhole hfraction]

/-- The text of a number has no exponent. -/
theorem not_mem_numericText (constant : List Char) : 'e' ∉ numericText constant := by
  have hplaced {digits : List Char} (h : 'e' ∉ digits) (point : Int) :
      'e' ∉ placedDigits digits point := by
    have htake : 'e' ∉ digits.take point.toNat := fun hmem => h (List.mem_of_mem_take hmem)
    have hdrop : 'e' ∉ digits.drop point.toNat := fun hmem => h (List.mem_of_mem_drop hmem)
    unfold placedDigits
    dsimp only
    split
    · simp [h]
    · split
      · simp [htake]
      · simp [htake, hdrop]
  unfold numericText
  simp only [List.span_eq_takeWhile_dropWhile]
  have hmantissa : 'e' ∉ (signed constant).2.takeWhile (· ≠ 'e') := by
    intro hmem
    simpa using List.mem_takeWhile_imp hmem
  generalize (signed constant).2.takeWhile (· ≠ 'e') = mantissa at hmantissa ⊢
  have hdigits : 'e' ∉ mantissa.takeWhile (· ≠ '.') ++ (mantissa.dropWhile (· ≠ '.')).drop 1 := by
    rw [List.mem_append, not_or]
    exact ⟨fun h => hmantissa ((List.takeWhile_sublist _).mem h),
      fun h => hmantissa ((List.dropWhile_sublist _).mem (List.mem_of_mem_drop h))⟩
  rw [List.mem_append, not_or]
  refine ⟨?_, hplaced hdigits _⟩
  split <;> simp

end

/-! ## Writing doubles -/

namespace Binary64

/-- Digits on both sides of a point: the given ones, with zeros filled in around them. -/
structure IsPositional (digits : String) (text whole fraction : List Char) : Prop where
  text_eq : text = whole ++ '.' :: fraction
  whole_ne : whole ≠ []
  fraction_ne : fraction ≠ []
  isDigit : (∀ c ∈ digits.toList, c.isDigit = true) → ∀ c ∈ whole ++ fraction, c.isDigit = true
  any_eq : (whole ++ fraction).any (· ≠ '0') = digits.toList.any (· ≠ '0')

theorem isDigit_of_mem_zeros {k : Nat} {c : Char} (hc : c ∈ List.replicate k '0') :
    c.isDigit = true := by
  rw [List.eq_of_mem_replicate hc]
  rfl

/-- All digits behind the point, with zeros in front. -/
theorem isPositional_of_nonpos {digits : String} {point : Int} (hne : digits.toList ≠ [])
    (hpoint : point ≤ 0) : IsPositional digits (positional digits point).toList ['0']
      (padLeft (digits.length + (-point).toNat) digits).toList := by
  rw [positional, if_pos hpoint]
  refine ⟨by simp, by simp, by simp [padLeft, hne], fun hdigits => ?_, by simp [padLeft]⟩
  simp only [padLeft, String.toList_append, String.toList_ofList, List.mem_append]
  rintro c (hc | hc | hc)
  · exact isDigit_of_mem_zeros (k := 1) hc
  · exact isDigit_of_mem_zeros hc
  · exact hdigits c hc

/-- Digits in front of the point, with zeros up to it, and all others behind it, or a zero. -/
theorem isPositional_of_pos {digits : String} {point : Int} (hpoint : ¬point ≤ 0) :
    IsPositional digits (positional digits point).toList
      (digits.toList.take point.toNat ++
        List.replicate (point.toNat - digits.toList.length) '0')
      (if digits.toList.drop point.toNat = [] then ['0'] else digits.toList.drop point.toNat) := by
  rw [positional, if_neg hpoint]
  refine ⟨?_, ?_, ?_, fun hdigits c hc => ?_, ?_⟩
  · simp only [String.toList_append, String.toList_ofList]
    split <;> simp
  · refine List.length_pos_iff.1 ?_
    simp only [List.length_append, List.length_take, List.length_replicate]
    omega
  · split
    · simp
    next hdrop => exact hdrop
  · simp only [List.mem_append] at hc
    rcases hc with (hc | hc) | hc
    · exact hdigits c (List.mem_of_mem_take hc)
    · exact isDigit_of_mem_zeros hc
    · split at hc
      · exact isDigit_of_mem_zeros (k := 1) hc
      · exact hdigits c (List.mem_of_mem_drop hc)
  · have hzeros (k : Nat) : (List.replicate k '0').any (· ≠ '0') = false := by simp
    conv_rhs => rw [← List.take_append_drop point.toNat digits.toList]
    simp only [List.any_append, hzeros, Bool.or_false]
    split
    next hdrop => simp [hdrop]
    next => rfl

theorem exists_isPositional {digits : String} (hne : digits.toList ≠ []) (point : Int) :
    ∃ whole fraction, IsPositional digits (positional digits point).toList whole fraction := by
  by_cases hpoint : point ≤ 0
  · exact ⟨_, _, isPositional_of_nonpos hne hpoint⟩
  · exact ⟨_, _, isPositional_of_pos hpoint⟩

/-- A number but zero has another digit than zero. -/
theorem any_repr {n : Nat} (hn : n ≠ 0) : (Nat.repr n).toList.any (· ≠ '0') = true := by
  rw [Nat.toList_repr]
  induction n using Nat.strongRecOn with
  | ind n ih =>
    rw [Nat.toDigits_eq_if (by decide)]
    split
    next hlt =>
      interval_cases n <;> simp_all
    next hge =>
      rw [List.any_append, ih (n / 10) (by omega) (by omega), Bool.true_or]

/-! ### Shortest digits -/

theorem roundHalfEven_ge (num den : Nat) : num / den ≤ roundHalfEven num den := by
  unfold roundHalfEven
  dsimp only
  split_ifs <;> omega

/-- Digits that round back to a magnitude but zero are not all zero. -/
theorem coefficient_ne_zero_of_roundingBack? {place count : Nat} {d : ShortDecimal}
    (hplace : place ≠ 0) (h : roundingBack? place count = some d) : d.coefficient ≠ 0 := by
  have hback (e : Int) : ofPlace false place ≠ ofDecimal false 0 e := by
    have hzero : ofDecimal false 0 e = .finite false 0 := by simp [ofDecimal]
    rw [hzero, ofPlace]
    split
    · intro heq
      cases heq
      exact hplace rfl
    · exact nofun
  unfold roundingBack? at h
  dsimp only at h
  generalize decimalPoint _ _ - (count : Int) = exponent at h
  generalize (if 0 ≤ exponent then _ else _ : Nat × Nat) = ratio at h
  have hlow (hyes : decide
      (ofPlace false place = ofDecimal false (ratio.1 / ratio.2) exponent) = true) :
      ratio.1 / ratio.2 ≠ 0 := by
    intro hzero
    rw [hzero] at hyes
    exact hback exponent (of_decide_eq_true hyes)
  split at h
  next hyes _ =>
    cases h
    exact (Nat.lt_of_lt_of_le (Nat.pos_of_ne_zero (hlow hyes)) (roundHalfEven_ge _ _)).ne'
  next hyes _ =>
    cases h
    exact hlow hyes
  next =>
    cases h
    exact Nat.succ_ne_zero _
  next => cases h

theorem coefficient_strip_ne_zero {fuel : Nat} {d : ShortDecimal} (h : d.coefficient ≠ 0) :
    (d.strip fuel).coefficient ≠ 0 := by
  induction fuel generalizing d with
  | zero => exact h
  | succ fuel ih =>
    rw [ShortDecimal.strip]
    split
    next hdivides =>
      refine ih ?_
      dsimp only
      omega
    next => exact h

theorem shortest_of_coefficient_eq_zero {place : Nat} (hplace : place ≠ 0)
    (h : (shortest place).coefficient = 0) : shortest place = ⟨0, 0⟩ := by
  unfold shortest at h ⊢
  cases hfound : (List.range 17).findSome? fun i => roundingBack? place (i + 1) with
  | none => rfl
  | some d =>
    obtain ⟨i, _, hi⟩ := List.exists_of_findSome?_eq_some hfound
    rw [hfound] at h
    exact absurd h (coefficient_strip_ne_zero (coefficient_ne_zero_of_roundingBack? hplace hi))

/-! ### Texts -/

/-- A double that is written positionally, and is no negative zero. -/
def isPlain (x : Binary64) : Bool :=
  x.isFinite && !x.text.toList.contains 'e' && x.text != "-0.0"

theorem mem_scientific (l : Layout) (digits : String) (point : Int) :
    'e' ∈ (scientific l digits point).toList := by
  unfold scientific
  dsimp only
  split_ifs <;> simp

/-- The digits of a finite double; those of zero are fixed. -/
def digitsAt (place : Nat) : ShortDecimal := if place = 0 then ⟨0, 0⟩ else shortest place

theorem digitsAt_of_coefficient_eq_zero {place : Nat} (h : (digitsAt place).coefficient = 0) :
    digitsAt place = ⟨0, 0⟩ := by
  unfold digitsAt at h ⊢
  split
  next => rfl
  next hplace =>
    rw [if_neg hplace] at h
    exact shortest_of_coefficient_eq_zero hplace h

theorem text_finite (negative : Bool) (place : Place) :
    (finite negative place).text = signText negative ++
      if layout.firstPoint ≤ (digitsAt place).point ∧
          (digitsAt place).point ≤ layout.lastPoint then
        positional (digitsAt place).digits (digitsAt place).point
      else scientific layout (digitsAt place).digits (digitsAt place).point := rfl

/-- The number that a double's literal writes has the double's text exactly when the double is
    finite and is written without an exponent and without a sign before a zero. -/
theorem sqlText_eq_iff {x : Binary64} : x.sqlText = x.text.toList ↔ x.isPlain = true := by
  cases x with
  | nan => decide
  | infinite negative => cases negative <;> decide
  | finite negative place =>
    have hplain : (finite negative place).isPlain = true ↔
        'e' ∉ (finite negative place).text.toList ∧ (finite negative place).text ≠ "-0.0" := by
      simp [isPlain, isFinite]
    have hsigned (h : numericText (finite negative place).text.toList =
        (finite negative place).text.toList) : (finite negative place).text ≠ "-0.0" := by
      intro heq
      rw [heq] at h
      exact absurd h (by decide)
    rw [hplain, sqlText]
    refine ⟨fun h => ⟨fun he => not_mem_numericText _ (h ▸ he), hsigned h⟩, ?_⟩
    rintro ⟨hexponent, hnegative⟩
    have htext := text_finite negative place
    split at htext
    next =>
      have hne : (digitsAt place).digits.toList ≠ [] :=
        fun h => Nat.repr_ne_empty (String.toList_eq_nil_iff.1 h)
      obtain ⟨whole, fraction, h⟩ := exists_isPositional hne (digitsAt place).point
      have hbody : (finite negative place).text.toList =
          (signText negative).toList ++ (whole ++ '.' :: fraction) := by
        rw [htext, String.toList_append, h.text_eq]
      rw [hbody, numericText_positional negative h.whole_ne h.fraction_ne
        (h.isDigit fun c hc => isDigit_of_mem_repr hc), h.any_eq]
      cases negative with
      | false => rfl
      | true =>
        have hcoefficient : (digitsAt place).coefficient ≠ 0 := by
          intro hzero
          rw [digitsAt_of_coefficient_eq_zero hzero] at htext
          exact hnegative htext
        rw [ShortDecimal.digits, any_repr hcoefficient]
        rfl
    next =>
      rw [htext, String.toList_append] at hexponent
      exact absurd (List.mem_append_right _ (mem_scientific _ _ _)) hexponent

end Binary64

end SqlDialects
