-- SUMMARY: What a validator accepts and gives back, case by case, so that what validation keeps is shown without running it.
import SqlDialects.Proofs.Steps
import SqlDialects.Validator

/-!
# Outcomes of validators

A validator looks at the value that an argument is known as. It gives that value back, or
the whole number or the other name it stands for. Each case has its condition, and a
validator gives nothing else back.
-/

namespace SqlDialects

theorem Number.isDecimal_eq_false {n : Number} (h : ∀ d, n ≠ .decimal d) : n.isDecimal = false := by
  cases n with
  | decimal d => exact absurd rfl (h d)
  | whole => rfl
  | double => rfl

namespace Validator

/-- What a validator gives back for a value that an argument is known as. -/
inductive Gives : Validator → Value → Value → Prop
  | truth (b : Bool) : Gives .boolean (.bool b) (.bool b)
  | omitted {minimum maximum : Option Value} :
      Gives (.wholeNumber true minimum maximum) .null .null
  /-- A number with a whole part that is within the bounds is that part. -/
  | whole {allowNone : Bool} {minimum maximum : Option Value} {n : Number} {m : Int}
      (hpart : wholePart (.number n) n = .ok m)
      (hbounds : checkBounds minimum maximum (.whole m) = .ok ()) :
      Gives (.wholeNumber allowNone minimum maximum) (.number n) (.whole m)
  | number {minimum maximum : Option Value} {n : Number} (hdecimal : n.isDecimal = false)
      (hbounds : checkBounds minimum maximum n = .ok ()) :
      Gives (.number minimum maximum) (.number n) (.number n)
  | allowed {values : List Value} {allowNone : Bool} {v : Value}
      (hallowed : v = .null ∧ (allowNone = true ∨ values = []) ∨
        anyOf (matchesCandidate v) values = .ok true) :
      Gives (.allowed values allowNone) v v
  /-- Another name of a value stands for it. -/
  | choice {values : List Value} {aliases : List (String × Value)} {s : String}
      (hlisted : anyOf ((aliases.lookup s).getD (.text s)).same values = .ok true) :
      Gives (.choice values aliases) (.text s) ((aliases.lookup s).getD (.text s))

variable {u v w : Value} {values : List Value} {allowNone : Bool}
  {minimum maximum : Option Value} {n : Number}

/-! ## Checks -/

theorem known_eq_ok_iff : known v = .ok u ↔ v.isStatic = true ∧ v.staticValue = u := by
  unfold known
  split
  next hstatic => simp [hstatic]
  next hstatic => simp [hstatic, reject]

theorem checkWhole_eq_ok_iff : checkWhole v minimum maximum n = .ok w ↔
    ∃ m, wholePart v n = .ok m ∧ checkBounds minimum maximum (.whole m) = .ok () ∧
      .whole m = w := by
  simp only [checkWhole, bind_eq_ok_iff, pure_eq_ok_iff]
  refine exists_congr fun m => and_congr_right fun _ => ?_
  constructor
  · rintro ⟨_, h⟩
    exact h
  · intro h
    exact ⟨(), h⟩

theorem checkNumber_eq_ok_iff : checkNumber minimum maximum n = .ok w ↔
    checkBounds minimum maximum n = .ok () ∧ .number n = w := by
  simp only [checkNumber, bind_eq_ok_iff, pure_eq_ok_iff]
  constructor
  · rintro ⟨_, h⟩
    exact h
  · intro h
    exact ⟨(), h⟩

/-- A comparison with candidates lets what was compared pass. -/
theorem compared_eq_ok_iff {found : Value → Except Error Bool} {why : Rejection} :
    (do if ← anyOf found values then return v else reject why) = .ok w ↔
      anyOf found values = .ok true ∧ v = w := by
  rw [bind_eq_ok_iff]
  constructor
  · rintro ⟨b, hfound, h⟩
    cases b with
    | true => exact ⟨hfound, pure_eq_ok_iff.1 h⟩
    | false => cases h
  · rintro ⟨hfound, rfl⟩
    exact ⟨true, hfound, rfl⟩

theorem checkAllowed_of_ne_null (hnull : v ≠ .null) :
    checkAllowed values allowNone v = (do
      if ← anyOf (matchesCandidate v) values then return v else reject (.unsupported v)) := by
  unfold checkAllowed
  dsimp only
  split
  · exact absurd rfl hnull
  · rfl

theorem checkAllowed_eq_ok_iff : checkAllowed values allowNone v = .ok w ↔
    w = v ∧ (v = .null ∧ (allowNone = true ∨ values = []) ∨
      anyOf (matchesCandidate v) values = .ok true) := by
  by_cases hnull : v = .null
  · subst hnull
    by_cases hallowed : allowNone = true ∨ values = []
    · have homitted : (allowNone || values.isEmpty) = true := by simpa using hallowed
      simp only [checkAllowed, homitted, if_true, pure_eq_ok_iff, hallowed, and_self, true_or,
        and_true]
      exact eq_comm
    · have homitted : (allowNone || values.isEmpty) = false := by simpa using hallowed
      simp only [checkAllowed, homitted, Bool.false_eq_true, if_false, compared_eq_ok_iff,
        hallowed, and_false, false_or]
      rw [and_comm, eq_comm]
  · rw [checkAllowed_of_ne_null hnull, compared_eq_ok_iff]
    simp only [hnull, false_and, false_or]
    rw [and_comm, eq_comm]

/-! ## Outcomes -/

theorem gives_of_apply {validator : Validator} (h : validator.apply v = .ok w) :
    validator.Gives v.staticValue w := by
  cases validator with
  | boolean =>
    obtain ⟨u, hu, h⟩ := bind_eq_ok_iff.1 h
    rw [(known_eq_ok_iff.1 hu).2]
    split at h
    · cases h
      exact .truth _
    · cases h
  | wholeNumber allowNone minimum maximum =>
    obtain ⟨u, hu, h⟩ := bind_eq_ok_iff.1 h
    rw [(known_eq_ok_iff.1 hu).2]
    split at h
    · split at h
      next hnone =>
        cases h
        rw [hnone]
        exact .omitted
      next => cases h
    · obtain ⟨m, hpart, hbounds, rfl⟩ := checkWhole_eq_ok_iff.1 h
      exact .whole hpart hbounds
    · cases h
  | number minimum maximum =>
    obtain ⟨u, hu, h⟩ := bind_eq_ok_iff.1 h
    rw [(known_eq_ok_iff.1 hu).2]
    split at h
    next => cases h
    next _ n hdecimal =>
      obtain ⟨hbounds, rfl⟩ := checkNumber_eq_ok_iff.1 h
      exact .number (Number.isDecimal_eq_false hdecimal) hbounds
    next => cases h
  | allowed values allowNone =>
    rw [apply] at h
    split at h
    · obtain ⟨rfl, hallowed⟩ := checkAllowed_eq_ok_iff.1 h
      exact .allowed hallowed
    · cases h
  | choice values aliases =>
    obtain ⟨u, hu, h⟩ := bind_eq_ok_iff.1 h
    rw [(known_eq_ok_iff.1 hu).2]
    split at h
    · obtain ⟨hlisted, rfl⟩ := compared_eq_ok_iff.1 h
      exact .choice hlisted
    · cases h

end Validator

end SqlDialects
