-- SUMMARY: No rule fails for want of another rule: binding, validators and templates look no name up.
import SqlDialects.Proofs.Resolution.Tables

/-!
# Failures of rules

That a name has no rule is found out when the name is resolved, and nowhere else.
Binding, validators and templates fail for reasons of their own: a rule whose
template looks no name up and whose validators compare with scalars only never
reports a name without a rule. Every rule of the tables is one.
-/

namespace SqlDialects

/-- A name has no rule. -/
def Error.isMissingRule : Error → Bool
  | .unknownFunction .. => true
  | _ => false

/-- If it fails, it is not for want of a rule. -/
def MissesNoRule {α : Type} (x : Except Error α) : Prop :=
  ∀ e, x = .error e → e.isMissingRule = false

section

variable {α β : Type}

theorem missesNoRule_ok (a : α) : MissesNoRule (Except.ok a) :=
  fun _ h => nomatch h

theorem missesNoRule_error {e : Error} (he : e.isMissingRule = false) :
    MissesNoRule (Except.error e : Except Error α) := by
  intro e' h
  cases h
  exact he

theorem MissesNoRule.bind {x : Except Error α} {f : α → Except Error β} (hx : MissesNoRule x)
    (hf : ∀ a, MissesNoRule (f a)) : MissesNoRule (x >>= f) := by
  cases x with
  | error e => exact missesNoRule_error (hx e rfl)
  | ok a => exact hf a

end

/-! ## Validators -/

def Value.isScalar : Value → Bool
  | .scalar _ => true
  | _ => false

namespace Validator

/-- Every value that a validator compares an argument with is a scalar. -/
def hasScalarCandidates : Validator → Bool
  | .allowed values _ => values.all Value.isScalar
  | .choice values _ => values.all Value.isScalar
  | _ => true

theorem missesNoRule_reject {α : Type} (why : Rejection) :
    MissesNoRule (reject why : Except Error α) :=
  missesNoRule_error rfl

theorem missesNoRule_known (v : Value) : MissesNoRule (known v) := by
  unfold known
  split
  · exact missesNoRule_ok _
  · exact missesNoRule_reject _

theorem missesNoRule_wholePart (v : Value) (n : Number) : MissesNoRule (wholePart v n) := by
  unfold wholePart
  split
  · exact missesNoRule_ok _
  · exact missesNoRule_error rfl
  · exact missesNoRule_reject _
  · split
    · split
      · exact missesNoRule_ok _
      · exact missesNoRule_reject _
    · exact missesNoRule_reject _
  · exact missesNoRule_reject _

theorem missesNoRule_relates (n : Number) (v : Value) (accepts : Ordering → Bool) :
    MissesNoRule (n.relates v accepts) := by
  unfold Number.relates
  split
  · split
    · split
      · exact missesNoRule_ok _
      · split
        · exact missesNoRule_error rfl
        · exact missesNoRule_ok _
    · exact missesNoRule_error rfl
  · split
    · exact missesNoRule_ok _
    · exact missesNoRule_error rfl

theorem missesNoRule_checkBounds (minimum maximum : Option Value) (n : Number) :
    MissesNoRule (checkBounds minimum maximum n) := by
  have bound (b : Bool) (why : Rejection) :
      MissesNoRule (if b then reject why else pure PUnit.unit : Except Error PUnit) := by
    split
    · exact missesNoRule_reject _
    · exact missesNoRule_ok _
  have upper : MissesNoRule (checkBounds none maximum n) := by
    cases maximum with
    | none => exact missesNoRule_ok _
    | some high => exact (missesNoRule_relates n high _).bind fun b => bound b _
  cases minimum with
  | none => exact upper
  | some low =>
    refine (missesNoRule_relates n low _).bind fun b => ?_
    cases b with
    | true => exact missesNoRule_reject _
    | false => exact upper

theorem missesNoRule_same {candidate : Value} (h : candidate.isScalar = true) (v : Value) :
    MissesNoRule (v.same candidate) := by
  cases candidate with
  | scalar b =>
    cases v with
    | scalar a =>
      show MissesNoRule (a.sameChecked b)
      unfold Scalar.sameChecked
      split
      · exact missesNoRule_error rfl
      · exact missesNoRule_ok _
    | _ => exact missesNoRule_ok _
  | _ => cases h

theorem missesNoRule_anyOf {found : Value → Except Error Bool} {values : List Value}
    (h : ∀ v ∈ values, MissesNoRule (found v)) : MissesNoRule (anyOf found values) := by
  induction values with
  | nil => exact missesNoRule_ok _
  | cons v values ih =>
    refine (h v List.mem_cons_self).bind fun b => ?_
    split
    · exact missesNoRule_ok _
    · exact ih fun v hv => h v (List.mem_cons_of_mem _ hv)

theorem missesNoRule_matchesCandidate {candidate : Value} (h : candidate.isScalar = true)
    (v : Value) : MissesNoRule (matchesCandidate v candidate) := by
  unfold matchesCandidate
  split
  · exact missesNoRule_ok _
  · exact missesNoRule_ok _
  · exact missesNoRule_ok _
  · exact missesNoRule_same h v

theorem missesNoRule_checkAllowed {values : List Value} (h : values.all Value.isScalar = true)
    (allowNone : Bool) (v : Value) : MissesNoRule (checkAllowed values allowNone v) := by
  have hfound : MissesNoRule (anyOf (matchesCandidate v) values) :=
    missesNoRule_anyOf fun candidate hmem =>
      missesNoRule_matchesCandidate (List.all_eq_true.1 h candidate hmem) v
  have hcompared : MissesNoRule (do
      if ← anyOf (matchesCandidate v) values then return v else reject (.unsupported v)) := by
    refine hfound.bind fun b => ?_
    split
    · exact missesNoRule_ok _
    · exact missesNoRule_reject _
  unfold checkAllowed
  dsimp only
  split
  · split
    · exact missesNoRule_ok _
    · exact hcompared
  · exact hcompared

theorem missesNoRule_checkChoice {values : List Value} (h : values.all Value.isScalar = true)
    (aliases : List (String × Value)) (s : String) :
    MissesNoRule (checkChoice values aliases s) := by
  refine (missesNoRule_anyOf fun candidate hmem =>
    missesNoRule_same (List.all_eq_true.1 h candidate hmem) _).bind fun b => ?_
  split
  · exact missesNoRule_ok _
  · exact missesNoRule_reject _

theorem missesNoRule_apply {validator : Validator} (h : validator.hasScalarCandidates = true)
    (v : Value) : MissesNoRule (validator.apply v) := by
  cases validator with
  | boolean =>
    refine (missesNoRule_known v).bind fun u => ?_
    split
    · exact missesNoRule_ok _
    · exact missesNoRule_reject _
  | wholeNumber allowNone minimum maximum =>
    refine (missesNoRule_known v).bind fun u => ?_
    split
    · split
      · exact missesNoRule_ok _
      · exact missesNoRule_reject _
    next n =>
      exact (missesNoRule_wholePart _ n).bind fun m =>
        (missesNoRule_checkBounds minimum maximum _).bind fun _ => missesNoRule_ok _
    · exact missesNoRule_reject _
  | number minimum maximum =>
    refine (missesNoRule_known v).bind fun u => ?_
    split
    · exact missesNoRule_reject _
    next n _ => exact (missesNoRule_checkBounds minimum maximum n).bind fun _ => missesNoRule_ok _
    · exact missesNoRule_reject _
  | allowed values allowNone =>
    simp only [apply]
    split
    · exact missesNoRule_checkAllowed h allowNone _
    · exact missesNoRule_reject _
  | choice values aliases =>
    refine (missesNoRule_known v).bind fun u => ?_
    split
    next s => exact missesNoRule_checkChoice h aliases s
    · exact missesNoRule_reject _

theorem missesNoRule_applyBound {validator : Validator} (h : validator.hasScalarCandidates = true)
    (b : Bound) : MissesNoRule (validator.applyBound b) := by
  cases b with
  | one v => exact (missesNoRule_apply h v).bind fun _ => missesNoRule_ok _
  | many vs => exact (missesNoRule_apply h _).bind fun _ => missesNoRule_ok _
  | fields named =>
    cases validator with
    | allowed values allowNone =>
      rw [applyBound]
      split
      · exact missesNoRule_ok _
      · exact missesNoRule_reject _
    | _ => exact missesNoRule_reject _

end Validator

/-- A refused argument is reported as one, and other errors stay as they are. -/
theorem missesNoRule_runValidators (backend : Backend) (argument : String)
    {validators : List Validator} (h : ∀ v ∈ validators, v.hasScalarCandidates = true) (b : Bound) :
    MissesNoRule (runValidators backend argument validators b) := by
  induction validators generalizing b with
  | nil => exact missesNoRule_ok _
  | cons v vs ih =>
    rw [runValidators]
    split
    next b' _ => exact ih (fun v hv => h v (List.mem_cons_of_mem _ hv)) b'
    next e he =>
      have hmissing := Validator.missesNoRule_applyBound (h v List.mem_cons_self) b e he
      refine missesNoRule_error ?_
      cases e with
      | rejected =>
        rw [Validator.report]
        split <;> rfl
      | _ => exact hmissing

theorem missesNoRule_validate (backend : Backend) {validators : List (String × List Validator)}
    (h : ∀ entry ∈ validators, ∀ v ∈ entry.2, v.hasScalarCandidates = true) (args : Arguments) :
    MissesNoRule (validate backend validators args) := by
  induction validators generalizing args with
  | nil => exact missesNoRule_ok _
  | cons entry rest ih =>
    have hrest := ih fun entry hentry => h entry (List.mem_cons_of_mem _ hentry)
    rw [validate]
    split
    · exact hrest args
    next b _ =>
      exact (missesNoRule_runValidators backend _ (h entry List.mem_cons_self) b).bind fun _ =>
        hrest _

/-! ## Rules -/

/-- A rule that looks no name up. -/
structure Rule.IsClosed (r : Rule) : Prop where
  candidates : ∀ entry ∈ r.validators, ∀ v ∈ entry.2, v.hasScalarCandidates = true
  expand : ∀ s args, MissesNoRule (r.template.expand s args)

theorem Template.missesNoRule_apply {t : Template}
    (h : ∀ s args, MissesNoRule (t.expand s args)) (s : Setting) (args : Arguments) :
    MissesNoRule (t.apply s args) := by
  unfold Template.apply
  split
  · exact missesNoRule_error rfl
  · exact h s args

theorem Rule.IsClosed.missesNoRule_build {r : Rule} (h : r.IsClosed) (s : Setting)
    (args : List Value) (named : List (String × Value)) : MissesNoRule (r.build s args named) := by
  unfold Rule.build
  split
  · exact missesNoRule_error rfl
  next bound _ =>
    refine (missesNoRule_validate s.backend h.candidates bound).bind fun validated => ?_
    refine (Template.missesNoRule_apply h.expand s validated).bind fun v => ?_
    split
    · exact missesNoRule_ok _
    · exact missesNoRule_error rfl

/-! ## Templates -/

namespace Template

theorem missesNoRule_refused (name : String) (s : Setting) (args : Arguments) :
    MissesNoRule ((refused name).expand s args) :=
  missesNoRule_error rfl

end Template

theorem Rule.missesNoRule_log (s : Setting) (args : Arguments) :
    MissesNoRule (Rule.log.template.expand s args) := by
  dsimp only [Rule.log]
  split
  · split
    · split
      · exact missesNoRule_ok _
      · exact missesNoRule_ok _
    · exact missesNoRule_error rfl
  · exact missesNoRule_error rfl

theorem Rule.missesNoRule_patternMatch (place : PatternPlace) (s : Setting) (args : Arguments) :
    MissesNoRule ((Rule.patternMatch place).template.expand s args) := by
  rw [expand_patternMatch_eq]
  refine MissesNoRule.bind (fun e he => ?_) fun _ => missesNoRule_ok _
  rw [error_of_matchPattern he]
  rfl

namespace Postgres

theorem missesNoRule_daysShort (v : Value) : MissesNoRule (daysShort v) := by
  unfold daysShort
  split
  · split
    · exact missesNoRule_ok _
    · exact missesNoRule_error rfl
  · cases v with
    | column => exact missesNoRule_ok _
    | call => exact missesNoRule_ok _
    | _ => exact missesNoRule_error rfl

theorem missesNoRule_wday (s : Setting) (args : Arguments) :
    MissesNoRule (wday.template.expand s args) := by
  dsimp only [wday]
  split
  · refine MissesNoRule.bind ?_ fun _ => missesNoRule_ok _
    unfold weekShift
    split
    · exact missesNoRule_daysShort _
    · exact missesNoRule_daysShort _
  · split
    · exact missesNoRule_ok _
    · exact missesNoRule_ok _

theorem missesNoRule_period (unit : String) (s : Setting) (args : Arguments) :
    MissesNoRule ((period unit).expand s args) := by
  refine MissesNoRule.bind ?_ fun _ => missesNoRule_ok _
  unfold interval
  split
  · split
    next n _ =>
      refine MissesNoRule.bind ?_ fun _ => missesNoRule_ok _
      unfold wholeText
      split
      · exact missesNoRule_ok _
      · exact missesNoRule_error rfl
    · exact missesNoRule_ok _
    · exact missesNoRule_error rfl
  · exact missesNoRule_ok _

end Postgres

/-! ## Rows -/

theorem General.isClosed_rows (c : Context) :
    ∀ row ∈ General.rows c, (row.2.named row.1).IsClosed := by
  cases c
  all_goals
    simp only [rows, scalarRules, aggregateRules, windowRules, List.forall_mem_cons]
    and_intros
    all_goals
      first
      | exact ⟨by decide, fun _ _ => missesNoRule_ok _⟩
      | exact ⟨by decide, Rule.missesNoRule_log⟩
      | exact List.forall_mem_nil _

theorem Postgres.isClosed_rows (c : Context) :
    ∀ row ∈ Postgres.rows c, (row.2.named row.1).IsClosed := by
  cases c
  all_goals
    simp only [rows, scalarRules, aggregateRules, windowRules, List.forall_mem_append,
      List.forall_mem_cons, List.forall_mem_map]
    and_intros
    all_goals
      first
      | exact ⟨by decide, fun _ _ => missesNoRule_ok _⟩
      | exact ⟨by decide, Rule.missesNoRule_log⟩
      | exact ⟨by decide, Rule.missesNoRule_patternMatch _⟩
      | exact ⟨by decide, missesNoRule_wday⟩
      | exact ⟨by decide, Template.missesNoRule_refused _⟩
      | exact List.forall_mem_nil _
      | exact fun unit _ => ⟨fun _ h => absurd h List.not_mem_nil, missesNoRule_period unit⟩

/-- A rule that a backend resolves never fails for want of another rule. -/
theorem Backend.isClosed_of_resolve {backend : Backend} {name : String} {c : Context} {rule : Rule}
    (h : backend.variant.resolve name c = .ok rule) : rule.IsClosed :=
  forall_of_resolve (P := fun _ r => r.IsClosed) General.isClosed_rows Postgres.isClosed_rows h

end SqlDialects
