-- SUMMARY: Binding and validating arguments keeps them confined.
import SqlDialects.Proofs.Bound
import SqlDialects.Proofs.Confinement.Basic
import SqlDialects.Proofs.Validation.Outcomes

/-!
# Confinement of bound arguments

Confined arguments stay confined when they are bound to a signature whose defaults
are confined, and when validators run on them. A validator gives back what it is
given, a number, or one of its own aliases.
-/

namespace SqlDialects

/-! ## Bound arguments -/

def Bound.Confined : Bound → Prop
  | .one v => v.isConfined = true
  | .many vs => allConfined vs = true
  | .fields named => ∀ n ∈ named, n.2.isConfined = true

def Arguments.Confined (args : Arguments) : Prop := ∀ a ∈ args, a.2.Confined

/-- The defaults of a signature are confined. -/
def Signature.isConfined (sig : Signature) : Bool :=
  sig.all fun p => (p.default.getD .null).isConfined

/-- What a template looks at beside its arguments is confined. -/
structure Setting.Confined (s : Setting) : Prop where
  window : s.window.isConfined = true
  weekStart : s.options.weekStart.isConfined = true

namespace Arguments.Confined

variable {args : Arguments}

theorem value (h : args.Confined) (name : String) : (args.value name).isConfined = true := by
  unfold Arguments.value
  split
  next v hv => exact h _ (mem_of_lookup hv)
  next => rfl

theorem rest (h : args.Confined) (name : String) : allConfined (args.rest name) = true := by
  unfold Arguments.rest
  split
  next vs hvs => exact h _ (mem_of_lookup hvs)
  next => rfl

end Arguments.Confined

/-! ## Binding -/

theorem allConfined_iff {vs : List Value} :
    allConfined vs = true ↔ ∀ v ∈ vs, v.isConfined = true := by
  induction vs with
  | nil => simp [allConfined]
  | cons v vs ih => simp [allConfined, ih]

theorem Bound.confined_iff {b : Bound} : b.Confined ↔ b.All fun v => v.isConfined = true := by
  cases b with
  | one v => rfl
  | many vs => exact allConfined_iff
  | fields named => rfl

theorem Arguments.confined_iff {args : Arguments} :
    args.Confined ↔ args.All fun _ v => v.isConfined = true :=
  forall₂_congr fun _ _ => Bound.confined_iff

theorem Signature.confined_bind {sig : Signature} {args : List Value}
    {named : List (String × Value)} {bound : Arguments} (hsig : sig.isConfined = true)
    (hargs : allConfined args = true) (hnamed : ∀ n ∈ named, n.2.isConfined = true)
    (h : sig.bind args named = .ok bound) : bound.Confined := by
  have hargs := allConfined_iff.1 hargs
  refine Arguments.confined_iff.2 (all_bind ⟨fun i p v _ hv => ?_, fun _ _ _ => hargs, hnamed,
    fun _ _ _ => hnamed⟩ (List.all_eq_true.1 hsig) h)
  exact hargs v (List.mem_of_getElem? hv)

/-! ## Validation -/

/-- The values a validator may give back of its own are confined. -/
def Validator.isConfined : Validator → Bool
  | .choice _ aliases => aliases.all fun a => a.2.isConfined
  | _ => true

def validatorsConfined (validators : List (String × List Validator)) : Bool :=
  validators.all fun v => v.2.all Validator.isConfined

/-- What a validator gives back is confined. -/
theorem Validator.Gives.confined {validator : Validator} {u w : Value} (h : validator.Gives u w)
    (hvalidator : validator.isConfined = true) (hu : u.isConfined = true) :
    w.isConfined = true := by
  cases h with
  | truth => rfl
  | omitted => rfl
  | whole => rfl
  | number => rfl
  | allowed => exact hu
  | @choice values aliases s _ =>
    cases hlookup : aliases.lookup s with
    | none => rfl
    | some v => exact List.all_eq_true.1 hvalidator _ (mem_of_lookup hlookup)

theorem confined_validate {backend : Backend} {validators : List (String × List Validator)}
    {args args' : Arguments} (hvalidators : validatorsConfined validators = true)
    (hargs : args.Confined) (h : validate backend validators args = .ok args') :
    args'.Confined := by
  refine Arguments.confined_iff.2 (all_validate (fun entry hentry validator hvalidator => ?_)
    (Arguments.confined_iff.1 hargs) h)
  have hconfined := List.all_eq_true.1 (List.all_eq_true.1 hvalidators entry hentry)
  exact fun v w hv hw => (Validator.gives_of_apply hw).confined (hconfined validator hvalidator)
    (Value.isConfined_staticValue hv)

end SqlDialects
