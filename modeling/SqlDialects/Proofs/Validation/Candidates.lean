-- SUMMARY: A validator of allowed values accepts what matches a candidate and nothing else, as long as no column or call is compared with one.
import SqlDialects.Proofs.Fixed.Arguments
import SqlDialects.Proofs.Numbers.Order
import SqlDialects.Proofs.Validation.Comparing
import SqlDialects.Rule.Basic

/-!
# Allowed values

A validator of allowed values goes through its candidates. A truth value matches only
itself, and other scalars match what stands for the same number or is the same text. A
column or a call matches whatever is compared with it, and with a truth value nothing is
compared: so a column is accepted as soon as one candidate is no truth value.
-/

namespace SqlDialects

namespace Scalar

/-- Null, a truth value, a whole number, a double or a text. -/
def isCandidate : Scalar → Bool
  | .null => true
  | .bool _ => true
  | .number n => !n.isDecimal
  | .text _ => true
  | _ => false

def isBool : Scalar → Bool
  | .bool _ => true
  | _ => false

/-- A scalar matches a candidate: it is the same truth value, the same text or null, or a
    number that stands where the candidate stands. -/
inductive Matches : Scalar → Scalar → Prop
  | null : Matches .null .null
  | bool (b : Bool) : Matches (.bool b) (.bool b)
  | number {m n : Number} {p : Line} (hm : m.point? = some p) (hn : n.point? = some p) :
      Matches (.number m) (.number n)
  | text (s : String) : Matches (.text s) (.text s)

end Scalar

namespace Value

theorem staticValue_of_isHost {v : Value} (h : v.isHost = true) : v.staticValue = v := by
  cases v with
  | column => rfl
  | call => rfl
  | _ => cases h

theorem isHost_staticValue_of_not_isStatic {v : Value} (h : v.isStatic = false) :
    v.staticValue.isHost = false := by
  cases v with
  | sql e =>
    cases e with
    | literal => cases h
    | _ => rfl
  | _ => cases h

end Value

/-- Two numbers are equal when they stand at the same place. -/
theorem Number.eq_iff {m n : Number} :
    m.eq n = true ↔ ∃ p, m.point? = some p ∧ n.point? = some p := by
  rw [Number.eq, Number.compare?_eq]
  cases hm : m.point? with
  | none => exact iff_of_false nofun nofun
  | some p =>
    cases hn : n.point? with
    | none => exact iff_of_false nofun nofun
    | some q =>
      show (some (cmp p q) == some .eq) = true ↔ _
      rw [beq_iff_eq, Option.some.injEq, cmp_eq_eq_iff]
      exact ⟨fun h => ⟨p, rfl, congrArg some h.symm⟩, fun ⟨_, hp, hq⟩ =>
        Option.some.inj (hp.trans hq.symm)⟩

namespace Validator

variable {v w : Value} {values : List Value} {allowNone : Bool}

/-! ## Matching a candidate -/

section

variable {s c : Scalar}

theorem isSignaling_of_matches (h : s.Matches c) : s.isSignaling = false := by
  cases h with
  | null => rfl
  | bool => rfl
  | @number m n p hm hn =>
    cases m with
    | decimal d =>
      cases d with
      | nan => cases hm
      | finite => rfl
      | infinite => rfl
    | whole => rfl
    | double => rfl
  | text => rfl

theorem isSignaling_of_isCandidate (h : c.isCandidate = true) : c.isSignaling = false := by
  cases c with
  | number n =>
    cases n with
    | decimal => cases h
    | whole => rfl
    | double => rfl
  | _ => rfl

theorem matchesCandidate_number_iff {m n : Number} (hn : (Scalar.number n).isCandidate = true) :
    matchesCandidate (.number m) (.number n) = .ok true ↔
      (Scalar.number m).Matches (.number n) := by
  have hsame : matchesCandidate (.number m) (.number n) =
      (Scalar.number m).sameChecked (.number n) := rfl
  have heq : (Scalar.number m).same (.number n) = m.eq n := rfl
  rw [hsame]
  constructor
  · intro h
    rw [Scalar.sameChecked] at h
    split at h
    · cases h
    · rw [heq, Except.ok.injEq, Number.eq_iff] at h
      obtain ⟨p, hp, hq⟩ := h
      exact .number hp hq
  · intro h
    rw [Scalar.sameChecked_of_not_isSignaling (isSignaling_of_matches h)
      (isSignaling_of_isCandidate hn), heq]
    cases h with
    | number hp hq => rw [Number.eq_iff.2 ⟨_, hp, hq⟩]

theorem matchesCandidate_eq_true_iff (hc : c.isCandidate = true) :
    matchesCandidate (.scalar s) (.scalar c) = .ok true ↔ s.Matches c := by
  cases c with
  | null =>
    cases s with
    | null => exact iff_of_true rfl .null
    | _ => exact iff_of_false nofun nofun
  | bool b =>
    cases s with
    | bool a =>
      have hmatch : matchesCandidate (.bool a) (.bool b) = .ok (b == a) := rfl
      rw [hmatch, Except.ok.injEq, beq_iff_eq]
      exact ⟨fun h => h ▸ .bool b, fun h => by cases h; rfl⟩
    | _ => exact iff_of_false nofun nofun
  | number n =>
    cases s with
    | number m => exact matchesCandidate_number_iff hc
    | _ => exact iff_of_false nofun nofun
  | text t =>
    cases s with
    | text s =>
      have hmatch : matchesCandidate (.text s) (.text t) = .ok (decide (s = t)) := rfl
      rw [hmatch, Except.ok.injEq, decide_eq_true_iff]
      exact ⟨fun h => h ▸ .text s, fun h => by cases h; rfl⟩
    | _ => exact iff_of_false nofun nofun
  | _ => cases hc

/-- A column or a call is compared with every candidate but a truth value, and matches it. -/
theorem matchesCandidate_of_isHost (hv : v.isHost = true) :
    matchesCandidate v (.scalar c) = .ok (!c.isBool) := by
  cases v with
  | column => cases c <;> rfl
  | call => cases c <;> rfl
  | _ => cases hv

theorem matchesCandidate_of_not_isScalar (hscalar : v.isScalar = false) (hhost : v.isHost = false) :
    matchesCandidate v (.scalar c) = .ok false := by
  cases v with
  | scalar => cases hscalar
  | column => cases hhost
  | call => cases hhost
  | _ => cases c <;> rfl

end

/-! ## Accepted values -/

variable {candidates : List Scalar}

theorem anyOf_scalar_iff {s : Scalar} (hcandidates : ∀ c ∈ candidates, c.isCandidate = true) :
    anyOf (matchesCandidate (.scalar s)) (candidates.map .scalar) = .ok true ↔
      ∃ c ∈ candidates, s.Matches c := by
  constructor
  · intro h
    obtain ⟨_, hmem, hfound⟩ := exists_of_anyOf h
    obtain ⟨c, hc, rfl⟩ := List.mem_map.1 hmem
    exact ⟨c, hc, (matchesCandidate_eq_true_iff (hcandidates c hc)).1 hfound⟩
  · rintro ⟨c, hc, hmatches⟩
    have hcompared : ∀ v ∈ candidates.map Value.scalar,
        ∃ b, matchesCandidate (.scalar s) v = .ok b := by
      intro v hv
      obtain ⟨c', hc', rfl⟩ := List.mem_map.1 hv
      have hquiet : (Value.scalar c').isQuiet = true := by
        simp [Value.isQuiet, Value.everyPart, Value.isQuietPart,
          isSignaling_of_isCandidate (hcandidates c' hc')]
      exact exists_matchesCandidate (Value.compares_scalar (isSignaling_of_matches hmatches)) hquiet
    exact anyOf_eq_true hcompared (List.mem_map.2 ⟨c, hc, rfl⟩)
      ((matchesCandidate_eq_true_iff (hcandidates c hc)).2 hmatches)

theorem anyOf_of_isHost (hv : v.isHost = true) (candidates : List Scalar) :
    anyOf (matchesCandidate v) (candidates.map .scalar) = .ok (candidates.any (!·.isBool)) := by
  induction candidates with
  | nil => rfl
  | cons c rest ih =>
    rw [List.map_cons, anyOf, matchesCandidate_of_isHost hv, ok_bind, List.any_cons]
    cases c.isBool with
    | true => exact ih
    | false => rfl

theorem anyOf_of_not_isScalar (hscalar : v.isScalar = false) (hhost : v.isHost = false)
    (candidates : List Scalar) :
    anyOf (matchesCandidate v) (candidates.map .scalar) = .ok false := by
  apply anyOf_eq_false
  intro u hu
  obtain ⟨c, _, rfl⟩ := List.mem_map.1 hu
  exact matchesCandidate_of_not_isScalar hscalar hhost

/-- A value is accepted exactly when it is known and is a scalar that matches a candidate,
    or null where null is allowed; and an expression that is no literal is refused. -/
structure AcceptsExactly (candidates : List Scalar) (allowNone : Bool) (v : Value) : Prop where
  accepted : ∀ w, (allowed (candidates.map .scalar) allowNone).apply v = .ok w ↔
    w = v.staticValue ∧ v.isStatic = true ∧ ∃ s, v.staticValue = .scalar s ∧
      ((∃ c ∈ candidates, s.Matches c) ∨ s = .null ∧ (allowNone = true ∨ candidates = []))
  refused : v.isStatic = false ∨ v.isHost = true →
    ∃ why, (allowed (candidates.map .scalar) allowNone).apply v = .error (.rejected why)

theorem apply_allowed (hstatic : v.isStatic = true) :
    (allowed values allowNone).apply v = checkAllowed values allowNone v.staticValue :=
  if_pos hstatic

theorem apply_allowed_of_not_static (hstatic : v.isStatic = false) :
    (allowed values allowNone).apply v = .error (.rejected .notLiteral) := by
  simp only [apply, hstatic]
  rfl

theorem acceptsExactly_of_not_static (hstatic : v.isStatic = false) :
    AcceptsExactly candidates allowNone v where
  accepted := by
    intro w
    rw [apply_allowed_of_not_static hstatic, hstatic]
    exact iff_of_false nofun nofun
  refused := fun _ => ⟨_, apply_allowed_of_not_static hstatic⟩

theorem acceptsExactly_of_not_isHost (hcandidates : ∀ c ∈ candidates, c.isCandidate = true)
    (hstatic : v.isStatic = true) (hhost : v.staticValue.isHost = false) :
    AcceptsExactly candidates allowNone v where
  accepted := by
    intro w
    rw [apply_allowed hstatic, checkAllowed_eq_ok_iff]
    cases hv : v.staticValue with
    | scalar s => simp [anyOf_scalar_iff hcandidates, hstatic, or_comm]
    | _ =>
      rw [hv] at hhost
      simp [anyOf_of_not_isScalar rfl hhost candidates]
  refused := by
    rintro (h | h)
    · rw [hstatic] at h
      cases h
    · rw [Value.staticValue_of_isHost h, h] at hhost
      cases hhost

theorem acceptsExactly_of_isHost (hstatic : v.isStatic = true)
    (hhost : v.staticValue.isHost = true) :
    AcceptsExactly candidates allowNone v ↔ ¬∃ c ∈ candidates, c.isBool = false := by
  have hnull : v.staticValue ≠ .null := by
    intro hnull
    rw [hnull] at hhost
    cases hhost
  have hscalar : ¬∃ s, v.staticValue = .scalar s := by
    rintro ⟨s, hs⟩
    rw [hs] at hhost
    cases hhost
  have hfound := anyOf_of_isHost hhost candidates
  constructor
  · -- one candidate that is compared is enough for what stands there to be accepted
    rintro ⟨accepted, _⟩ ⟨c, hc, hbool⟩
    have hany : candidates.any (!·.isBool) = true :=
      List.any_eq_true.2 ⟨c, hc, by rw [hbool]; rfl⟩
    rw [hany] at hfound
    have happly : (allowed (candidates.map .scalar) allowNone).apply v = .ok v.staticValue := by
      rw [apply_allowed hstatic]
      exact checkAllowed_eq_ok_iff.2 ⟨rfl, .inr hfound⟩
    obtain ⟨_, _, s, hs, _⟩ := (accepted _).1 happly
    exact hscalar ⟨s, hs⟩
  · intro hbools
    have hany : candidates.any (!·.isBool) = false := by
      rw [List.any_eq_false]
      intro c hc
      cases hbool : c.isBool with
      | true => simp
      | false => exact absurd ⟨c, hc, hbool⟩ hbools
    have happly : (allowed (candidates.map .scalar) allowNone).apply v =
        .error (.rejected (.unsupported v.staticValue)) := by
      rw [apply_allowed hstatic, checkAllowed_of_ne_null hnull, hfound, hany]
      rfl
    refine ⟨fun w => ?_, fun _ => ⟨_, happly⟩⟩
    rw [happly]
    exact iff_of_false nofun fun ⟨_, _, s, hs, _⟩ => hscalar ⟨s, hs⟩

/-- The values that a validator of allowed values accepts are those that match a candidate,
    unless it is a column or a call that stands there, and some candidate is compared with it. -/
theorem acceptsExactly_iff (hcandidates : ∀ c ∈ candidates, c.isCandidate = true) :
    AcceptsExactly candidates allowNone v ↔
      ¬(v.staticValue.isHost = true ∧ ∃ c ∈ candidates, c.isBool = false) := by
  cases hstatic : v.isStatic with
  | false =>
    refine iff_of_true (acceptsExactly_of_not_static hstatic) ?_
    rw [Value.isHost_staticValue_of_not_isStatic hstatic]
    exact fun h => nomatch h.1
  | true =>
    cases hhost : v.staticValue.isHost with
    | false =>
      exact iff_of_true (acceptsExactly_of_not_isHost hcandidates hstatic hhost)
        fun h => nomatch h.1
    | true =>
      rw [acceptsExactly_of_isHost hstatic hhost]
      simp

theorem acceptsExactly_iff_truth :
    (∀ c ∈ [Scalar.bool true, .bool false], c.isCandidate = true) ∧
      AcceptsExactly [.bool true, .bool false] false (.column "x" none) ∧
      ¬AcceptsExactly [.bool true, .null] true (.sql (.literal (.call "f" [] []))) := by
  refine ⟨by decide, (acceptsExactly_iff (by decide)).2 (by decide), fun h => ?_⟩
  exact (acceptsExactly_iff (by decide)).1 h (by decide)

/-- A column counts as the text it is compared with. -/
theorem not_acceptsExactly_column :
    (allowed [.text "day"] false).apply (.column "x" none) = .ok (.column "x" none) ∧
      ¬AcceptsExactly [.text "day"] false (.column "x" none) := by
  refine ⟨rfl, fun h => ?_⟩
  obtain ⟨_, _, s, hs, _⟩ := (h.accepted (.column "x" none)).1 rfl
  cases hs

end Validator

end SqlDialects
