-- SUMMARY: What may stand in the place of an argument, and that a rule's validators and its template keep what renders.
import SqlDialects.Proofs.Bound
import SqlDialects.Proofs.Fixed.Arguments
import SqlDialects.Proofs.Writing.Lengths
import SqlDialects.Rule.Patterns
import SqlDialects.Tables.Postgres

/-!
# Arguments that render

Most arguments must render, each as an expression of its own. A few functions take
more in one place: the right side of a membership test may be a tuple, a pattern may
be marked as fixed, and the second operand of a sign may be left out. A validator gives
back what renders, so a rule whose template writes what it is bound to makes an
expression that renders.
-/

namespace SqlDialects

/-! ## Slots -/

/-- What may stand in the place of an argument. -/
inductive Slot where
  | operand
  /-- An operand that may be left out. -/
  | optional
  /-- The right side of a membership test. -/
  | items
  /-- A pattern, which may be marked as fixed. -/
  | pattern
  deriving DecidableEq

namespace Slot

def signs : List String := ["+", "-"]

def matchers : List String := ["str_detect", "str_starts", "str_ends"]

/-- The slot of the second argument of a function. -/
def second (function : String) : Slot :=
  if function ∈ signs then .optional
  else if function = "%in%" then .items
  else if function ∈ matchers then .pattern
  else .operand

def ofPosition (function : String) : Nat → Slot
  | 1 => second function
  | _ => .operand

/-- The name of the second parameter of a function that takes more there. -/
def secondName (function : String) : String :=
  if function ∈ signs then "y"
  else if function = "%in%" then "table"
  else "pattern"

def ofParameter (function parameter : String) : Slot :=
  if parameter = secondName function then second function else .operand

/-- What fits into a slot can be written there. -/
def Fits (d : Dialect) : Slot → Value → Prop
  | .operand, v => v.Renders d
  | .optional, v => v = .scalar .omitted ∨ v.Renders d
  | .items, v => v.Renders d ∨ ∃ items, v = .tuple items ∧ ∀ item ∈ items, item.Renders d
  | .pattern, v => v.unmarked.Renders d

theorem fits_of_renders {d : Dialect} {slot : Slot} {v : Value} (h : v.Renders d) :
    slot.Fits d v := by
  cases slot with
  | operand => exact h
  | optional => exact .inr h
  | items => exact .inl h
  | pattern =>
    cases v with
    | fixed pattern =>
      obtain ⟨_, hs⟩ := h rfl
      cases hs
    | _ => exact h

end Slot

/-! ## Known values -/

section

variable {d : Dialect} {v w : Value}

theorem Value.renders_staticValue (h : v.Renders d) : v.staticValue.Renders d := by
  cases v with
  | sql e =>
    cases e with
    | literal v =>
      cases v with
      | sql e =>
        obtain ⟨_, hs⟩ := Value.exists_literal h
        cases hs
      | _ => exact h
    | _ => exact h
  | _ => exact h

/-- What renders and is known when translating is a scalar that has a literal. -/
theorem Value.exists_scalar_of_isStatic (hstatic : v.isStatic = true) (h : v.Renders d) :
    ∃ s text, v.staticValue = .scalar s ∧ d.backend.scalarLiteral s = .ok text := by
  have written {v : Value} (h : (Expr.literal v).Renders d) :
      ∃ s text, v = .scalar s ∧ d.backend.scalarLiteral s = .ok text := by
    obtain ⟨text, htext⟩ := Value.exists_literal h
    cases v with
    | scalar s => exact ⟨s, text, rfl, htext⟩
    | _ => cases htext
  cases v with
  | sql e =>
    cases e with
    | literal v => exact written h
    | _ => cases hstatic
  | _ => exact written h

theorem Value.nulFree_bareText (hstatic : v.isStatic = true) (h : v.Renders d) :
    NulFree v.staticValue.bareText.toList := by
  obtain ⟨s, text, heq, htext⟩ := Value.exists_scalar_of_isStatic hstatic h
  rw [heq]
  exact Backend.nulFree_bareText htext

/-! ## Values of a rule's own -/

/-- A short literal, such as a default is: null, a truth value, a digit, a finite number or
    a text without a NUL character. -/
def Value.isPlainLiteral : Value → Bool
  | .scalar .null => true
  | .scalar (.bool _) => true
  | .scalar (.number (.whole n)) => n.natAbs < 10
  | .scalar (.number (.double x)) => x.isFinite
  | .scalar (.text s) => !s.toList.contains (Char.ofNat 0)
  | _ => false

theorem Value.renders_double {x : Binary64} (h : x.isFinite = true) :
    (Value.double x).Renders d := by
  cases x with
  | finite => exact renders_scalar ⟨_, rfl⟩
  | infinite => cases h
  | nan => cases h

theorem Value.renders_of_isPlainLiteral (h : v.isPlainLiteral = true) : v.Renders d := by
  unfold isPlainLiteral at h
  split at h
  · exact renders_null
  · exact renders_bool _
  · exact renders_digit (of_decide_eq_true h)
  · exact renders_double h
  · exact renders_text (by simpa [NulFree] using h)
  · cases h

/-- All defaults are short literals. -/
def Signature.hasPlainDefaults (sig : Signature) : Bool :=
  sig.all fun p => (p.default.getD .null).isPlainLiteral

theorem Signature.renders_default {sig : Signature} (h : sig.hasPlainDefaults = true) :
    ∀ p ∈ sig, (p.default.getD .null).Renders d :=
  fun p hp => Value.renders_of_isPlainLiteral (List.all_eq_true.1 h p hp)

/-! ## Validators -/

theorem isBelow_whole (n m : Int) : (Number.whole n).isBelow (.whole m) = .ok (n < m) := by
  rw [Number.isBelow, Number.relates_number (compare?_whole n m)]
  rcases Int.lt_trichotomy n m with h | rfl | h
  · simp [h]
  · simp
  · simp [Int.not_lt.2 (Int.le_of_lt h), Int.ne_of_gt h]

namespace Validator

/-- The values that a validator may give back of its own are short literals. -/
def hasPlainAliases : Validator → Bool
  | .choice _ aliases => aliases.all fun a => a.2.isPlainLiteral
  | _ => true

/-- The whole part of a number that renders is not too long. -/
theorem renders_wholePart {n : Number} {m : Int} (hn : (Value.number n).Renders d)
    (h : wholePart v n = .ok m) : (Value.whole m).Renders d := by
  unfold wholePart at h
  split at h
  · cases h
    exact hn
  · cases h
  · cases h
  · split at h
    next r hr =>
      split at h
      · cases h
        exact Value.renders_whole (Binary64.isWritable_num hr)
      · cases h
    next => cases h
  · cases h

theorem Gives.renders {validator : Validator} {u : Value} (h : validator.Gives u w)
    (haliases : validator.hasPlainAliases = true) (hu : u.Renders d) : w.Renders d := by
  cases h with
  | truth => exact hu
  | omitted => exact hu
  | whole hpart _ => exact renders_wholePart hu hpart
  | number => exact hu
  | allowed => exact hu
  | @choice values aliases s _ =>
    cases hlookup : aliases.lookup s with
    | none => exact hu
    | some v =>
      exact Value.renders_of_isPlainLiteral (List.all_eq_true.1 haliases _ (mem_of_lookup hlookup))

/-- A validator gives back what renders. -/
theorem keeps_renders {validator : Validator} (haliases : validator.hasPlainAliases = true) :
    validator.Keeps fun v => v.Renders d :=
  fun _ _ hv h => (gives_of_apply h).renders haliases (Value.renders_staticValue hv)

theorem between_of_checkBounds {low high n : Int} {u : Unit}
    (h : checkBounds (some (.whole low)) (some (.whole high)) (.whole n) = .ok u) :
    low ≤ n ∧ n ≤ high := by
  simp only [checkBounds, isBelow_whole, isAbove_whole, ok_bind] at h
  split at h
  next => cases h
  next hlow =>
    split at h
    next => cases h
    next hhigh => simp_all

/-- Between two bounds there are whole numbers only, and null where it is allowed. -/
theorem eq_whole_of_apply {allowNone : Bool} {low high : Int}
    (h : (wholeNumber allowNone (some (.whole low)) (some (.whole high))).apply v = .ok w) :
    w = .null ∨ ∃ n, w = .whole n ∧ low ≤ n ∧ n ≤ high := by
  have hgives := gives_of_apply h
  generalize v.staticValue = u at hgives
  cases hgives with
  | omitted => exact .inl rfl
  | whole _ hbounds => exact .inr ⟨_, rfl, between_of_checkBounds hbounds⟩

end Validator

end

/-! ## Rules -/

/-- What a template looks at beside its arguments renders. -/
structure Setting.Renders (d : Dialect) (s : Setting) : Prop where
  window : s.window.Renders d
  weekStart : ∀ v, Postgres.daysShort s.options.weekStart = .ok v → v.Renders d

/-- A rule that makes an expression that renders when its parameters are bound to what is
    asked, as its defaults are and as its validators give back. -/
structure Rule.KeepsRendering (d : Dialect) (P : String → Value → Prop) (r : Rule) : Prop where
  default : ∀ p ∈ r.signature, P p.name (p.default.getD .null)
  validators : ∀ entry ∈ r.validators, ∀ validator ∈ entry.2, validator.Keeps (P entry.1)
  expand : ∀ (s : Setting) (bound args : Arguments) (e : Expr), s.Renders d →
    validate s.backend r.validators bound = .ok args → args.All P →
      r.template.expand s args = .ok (.sql e) → e.Renders d

theorem Rule.KeepsRendering.build {d : Dialect} {P : String → Value → Prop} {r : Rule} {s : Setting}
    {args : List Value} {named : List (String × Value)} {e : Expr} (h : r.KeepsRendering d P)
    (hs : s.Renders d) (hmeets : r.signature.Meets P args named)
    (he : r.build s args named = .ok e) : e.Renders d := by
  obtain ⟨bound, validated, hbound, hvalidated, hexpand⟩ := Rule.exists_of_build he
  have hbound := Signature.all_bind hmeets h.default hbound
  exact h.expand s bound validated e hs hvalidated (all_validate h.validators hbound hvalidated)
    hexpand

end SqlDialects
