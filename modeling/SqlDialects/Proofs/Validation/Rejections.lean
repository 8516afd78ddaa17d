-- SUMMARY: What a validator refuses is reported as an unsupported argument when what it accepts can be shown; infinity, where a whole number is asked for, is refused in another way.
import SqlDialects.Proofs.Validation.Bounds
import SqlDialects.Proofs.Validation.Candidates

/-!
# Refused arguments

A validator that is given plain data answers: it gives a value back, or it refuses what
it was given, and what it refuses is reported as an unsupported argument of the parameter
it validates. A validator of whole numbers takes the whole part of a number first, and
infinity has none. That is no refusal of the validator, and it is not reported as one.
A report shows what the validator accepts, so there is none where a number among it has
too many digits to be written.
-/

namespace SqlDialects

/-! ## Answers -/

/-- A step gives something back, or it is refused by a validator. -/
def Answers {α : Type} (r : Except Error α) : Prop :=
  (∃ a, r = .ok a) ∨ ∃ why, r = .error (.rejected why)

section

variable {α β : Type}

theorem answers_ok (a : α) : Answers (.ok a) := .inl ⟨a, rfl⟩

theorem answers_reject (why : Rejection) : Answers (Validator.reject why : Except Error α) :=
  .inr ⟨why, rfl⟩

theorem Answers.bind {r : Except Error α} {f : α → Except Error β} (hr : Answers r)
    (hf : ∀ a, r = .ok a → Answers (f a)) : Answers (r >>= f) := by
  rcases hr with ⟨a, rfl⟩ | ⟨why, rfl⟩
  · exact hf a rfl
  · exact .inr ⟨why, rfl⟩

theorem Answers.ite {c : Prop} [Decidable c] {r r' : Except Error α} (hr : Answers r)
    (hr' : Answers r') : Answers (if c then r else r') := by
  split
  · exact hr
  · exact hr'

end

/-- A bound of the kinds of numbers that a validator is given: no decimal. -/
def Value.isBound : Value → Bool
  | .scalar s => s.toNumber?.any (!·.isDecimal)
  | _ => false

namespace Validator

/-- The bounds of a validator are numbers, no candidate holds a signaling NaN, and other
    names stand for plain data. -/
def isTyped : Validator → Bool
  | .boolean => true
  | .wholeNumber _ minimum maximum => minimum.all Value.isBound && maximum.all Value.isBound
  | .number minimum maximum => minimum.all Value.isBound && maximum.all Value.isBound
  | .allowed values _ => values.all Value.isQuiet
  | .choice values aliases => values.all Value.isQuiet && aliases.all (·.2.isData)

/-- Infinity stands where a validator asks for a whole number. -/
def MeetsInfinity : Validator → Value → Prop
  | .wholeNumber .., v => ∃ negative, v.staticValue = .double (.infinite negative)
  | _, _ => False

variable {v w : Value} {n : Number} {minimum maximum : Option Value}

theorem exists_relates {bound : Value} (hn : n.isDecimal = false) (hbound : bound.isBound = true)
    (accepts : Ordering → Bool) : ∃ b, n.relates bound accepts = .ok b := by
  cases bound with
  | scalar s =>
    obtain ⟨m, hm, hdecimal⟩ := (Option.any_eq_true _ _).1 hbound
    have hm' : m.isDecimal = false := by simpa using hdecimal
    simp only [Number.relates, hm, hn, hm', Bool.or_self, Bool.false_eq_true, if_false]
    split <;> exact ⟨_, rfl⟩
  | _ => cases hbound

theorem answers_checkBounds (hn : n.isDecimal = false)
    (hbounds : (minimum.all Value.isBound && maximum.all Value.isBound) = true) :
    Answers (checkBounds minimum maximum n) := by
  obtain ⟨hminimum, hmaximum⟩ := Bool.and_eq_true_iff.1 hbounds
  have upper : Answers (checkBounds none maximum n) := by
    cases maximum with
    | none => exact answers_ok ()
    | some bound =>
      rw [checkBounds_none_some]
      exact .bind (.inl (exists_relates hn hmaximum _))
        fun _ _ => .ite (answers_reject _) (answers_ok ())
  cases minimum with
  | none => exact upper
  | some bound =>
    rw [checkBounds_some]
    exact .bind (.inl (exists_relates hn hminimum _)) fun _ _ => .ite (answers_reject _) upper

theorem answers_wholePart (h : ∀ negative, n ≠ .double (.infinite negative)) :
    Answers (wholePart v n) := by
  unfold wholePart
  split
  · exact answers_ok _
  next negative => exact absurd rfl (h negative)
  · exact answers_reject _
  · split
    · exact .ite (answers_ok _) (answers_reject _)
    · exact answers_reject _
  · exact answers_reject _

/-! ## What each validator answers -/

theorem answers_known : Answers (known v) := .ite (answers_ok _) (answers_reject _)

theorem answers_anyOf {found : Value → Except Error Bool} {values : List Value}
    (h : ∀ c ∈ values, ∃ b, found c = .ok b) : Answers (anyOf found values) := by
  induction values with
  | nil => exact answers_ok _
  | cons c rest ih =>
    obtain ⟨hc, hrest⟩ := List.forall_mem_cons.1 h
    exact .bind (.inl hc) fun _ _ => .ite (answers_ok _) (ih hrest)

theorem answers_checkAllowed {values : List Value} {allowNone : Bool} (hv : v.Compares)
    (hvalues : values.all Value.isQuiet = true) : Answers (checkAllowed values allowNone v) := by
  have hfound : ∀ c ∈ values, ∃ b, matchesCandidate v c = .ok b := fun c hc =>
    exists_matchesCandidate hv (List.all_eq_true.1 hvalues c hc)
  unfold checkAllowed
  exact .ite (answers_ok _) (.bind (answers_anyOf hfound)
    fun _ _ => .ite (answers_ok _) (answers_reject _))

section

variable {values : List Value} {aliases : List (String × Value)} {s : String}

theorem isData_lookup (haliases : aliases.all (·.2.isData) = true) :
    ((aliases.lookup s).getD (.text s)).isData = true := by
  cases hlookup : aliases.lookup s with
  | none => rfl
  | some v => exact List.all_eq_true.1 haliases _ (mem_of_lookup hlookup)

theorem answers_checkChoice (hvalues : values.all Value.isQuiet = true)
    (haliases : aliases.all (·.2.isData) = true) : Answers (checkChoice values aliases s) := by
  have hsame := Value.compares_of_isData (isData_lookup (s := s) haliases)
  unfold checkChoice
  exact .bind (answers_anyOf fun c hc => hsame c (List.all_eq_true.1 hvalues c hc))
    fun _ _ => .ite (answers_ok _) (answers_reject _)

end

/-- A validator that is given what can be compared answers, unless it asks for a whole number
    and infinity is given. -/
theorem answers_apply {validator : Validator} (htyped : validator.isTyped = true)
    (hv : v.staticValue.Compares) (hinfinity : ¬validator.MeetsInfinity v) :
    Answers (validator.apply v) := by
  cases validator with
  | boolean =>
    refine answers_known.bind fun u _ => ?_
    split
    · exact answers_ok _
    · exact answers_reject _
  | wholeNumber allowNone minimum maximum =>
    refine answers_known.bind fun u hknown => ?_
    have hu := (known_eq_ok_iff.1 hknown).2
    split
    · exact .ite (answers_ok _) (answers_reject _)
    next n =>
      have hfinite (negative : Bool) : n ≠ .double (.infinite negative) := by
        rintro rfl
        exact hinfinity ⟨negative, hu⟩
      exact (answers_wholePart hfinite).bind fun _ _ =>
        (answers_checkBounds rfl htyped).bind fun _ _ => answers_ok _
    · exact answers_reject _
  | number minimum maximum =>
    refine answers_known.bind fun u _ => ?_
    split
    · exact answers_reject _
    next n hdecimal _ =>
      have hn := Number.isDecimal_eq_false hdecimal
      exact (answers_checkBounds hn htyped).bind fun _ _ => answers_ok _
    · exact answers_reject _
  | allowed values allowNone =>
    exact .ite (answers_checkAllowed hv htyped) (answers_reject _)
  | choice values aliases =>
    obtain ⟨hvalues, haliases⟩ := Bool.and_eq_true_iff.1 htyped
    refine answers_known.bind fun u _ => ?_
    split
    · exact answers_checkChoice hvalues haliases
    · exact answers_reject _

theorem not_answers_apply {validator : Validator} (hstatic : v.isStatic = true)
    (hinfinity : validator.MeetsInfinity v) : ¬Answers (validator.apply v) := by
  cases validator with
  | wholeNumber allowNone minimum maximum =>
    obtain ⟨negative, hv⟩ := hinfinity
    have happly : (wholeNumber allowNone minimum maximum).apply v =
        .error (.lapse .infiniteWhole) := by
      simp only [apply, known, hstatic, hv]
      rfl
    rw [happly]
    rintro (⟨_, h⟩ | ⟨_, h⟩) <;> cases h
  | _ => cases hinfinity

theorem Gives.isData {validator : Validator} {u : Value} (h : validator.Gives u w)
    (htyped : validator.isTyped = true) (hu : u.isData = true) : w.isData = true := by
  cases h with
  | truth => rfl
  | omitted => rfl
  | whole => rfl
  | number => exact hu
  | allowed => exact hu
  | choice => exact isData_lookup (Bool.and_eq_true_iff.1 htyped).2

/-- A validator gives back plain data. -/
theorem keeps_isKnownData {validator : Validator} (htyped : validator.isTyped = true) :
    validator.Keeps fun v => v.isKnownData = true :=
  fun _ _ hv h => Value.isKnownData_of_isData
    ((gives_of_apply h).isData htyped (Bool.and_eq_true_iff.1 hv).2)

/-! ## Bound values -/

/-- Infinity is handed, as one value, to a validator that asks for a whole number. -/
def MeetsInfinityIn (validator : Validator) : Bound → Prop
  | .one v => validator.MeetsInfinity v
  | _ => False

theorem answers_applyBound {validator : Validator} {b : Bound} (htyped : validator.isTyped = true)
    (hb : b.All fun v => v.isKnownData = true) (hinfinity : ¬validator.MeetsInfinityIn b) :
    Answers (validator.applyBound b) := by
  cases b with
  | one v =>
    have hv := Value.compares_of_isData (Bool.and_eq_true_iff.1 hb).2
    exact (answers_apply htyped hv hinfinity).bind fun _ _ => answers_ok _
  | many vs =>
    have hvs : (Value.tuple vs).Compares :=
      Value.compares_tuple fun v hv => Value.compares_of_isKnownData (hb v hv)
    have hinfinity : ¬validator.MeetsInfinity (.tuple vs) := by
      cases validator with
      | wholeNumber => rintro ⟨_, ⟨⟩⟩
      | _ => exact id
    exact (answers_apply (v := .tuple vs) htyped hvs hinfinity).bind fun _ _ => answers_ok _
  | fields named =>
    unfold applyBound
    cases validator with
    | allowed => exact .ite (answers_ok _) (answers_reject _)
    | _ => exact answers_reject _

theorem not_answers_applyBound {validator : Validator} {b : Bound}
    (hb : b.All fun v => v.isKnownData = true) (hinfinity : validator.MeetsInfinityIn b) :
    ¬Answers (validator.applyBound b) := by
  cases b with
  | one v =>
    have hnot := not_answers_apply (Bool.and_eq_true_iff.1 hb).1 hinfinity
    simp only [applyBound]
    cases happly : validator.apply v with
    | ok w => exact absurd (.inl ⟨w, happly⟩) hnot
    | error e =>
      rw [happly] at hnot
      rintro (⟨_, ⟨⟩⟩ | ⟨why, h⟩)
      cases h
      exact hnot (.inr ⟨why, rfl⟩)
  | _ => cases hinfinity

end Validator

/-! ## Reports -/

namespace Rule

/-- Every validator that is handed something answers; what one refuses is reported, under the
    name of the parameter and with what the validator accepts; and nothing else fails. -/
structure ReportsRejections (r : Rule) (s : Setting) (args : List Value)
    (named : List (String × Value)) (bound : Arguments) : Prop where
  answers : ∀ name validator b, Handed r.validators bound name validator b →
    Answers (validator.applyBound b)
  reported : ∀ name validator b why, Handed r.validators bound name validator b →
    validator.applyBound b = .error (.rejected why) →
      r.build s args named =
        .error (.unsupportedArgument name validator.accepted (some s.backend.displayName))
  only : ∀ e, validate s.backend r.validators bound = .error e →
    ∃ name validator b why, Handed r.validators bound name validator b ∧
      validator.applyBound b = .error (.rejected why) ∧
      e = .unsupportedArgument name validator.accepted (some s.backend.displayName)

variable {r : Rule} {s : Setting} {args : List Value} {named : List (String × Value)}
variable {bound : Arguments}

theorem build_of_validate_error {e : Error} (hbound : r.signature.bind args named = .ok bound)
    (h : validate s.backend r.validators bound = .error e) : r.build s args named = .error e := by
  simp only [build, hbound, h]
  rfl

/-- What a validator accepts can be shown, or it does not refuse. -/
def ShowsRefusal (validator : Validator) (b : Bound) : Prop :=
  ∀ why, validator.applyBound b = .error (.rejected why) → validator.accepted.isShowable = true

/-- When every validator answers and shows what it accepts, refusals are all that validation
    reports. -/
theorem reportsRejections_of_answers (hbound : r.signature.bind args named = .ok bound)
    (hanswers : ∀ name validator b, Handed r.validators bound name validator b →
      Answers (validator.applyBound b))
    (hshows : ∀ name validator b, Handed r.validators bound name validator b →
      ShowsRefusal validator b) : r.ReportsRejections s args named bound where
  answers := hanswers
  reported := by
    intro name validator b why handed hb
    refine build_of_validate_error hbound (validate_eq_error_iff.2 ⟨_, _, _, _, handed, hb, ?_⟩)
    rw [Validator.report, if_pos (hshows _ _ _ handed why hb)]
  only := by
    intro e h
    obtain ⟨name, validator, b, cause, handed, hb, rfl⟩ := validate_eq_error_iff.1 h
    rcases hanswers name validator b handed with ⟨b', hok⟩ | ⟨why, hrejected⟩
    · cases hok.symm.trans hb
    · cases hrejected.symm.trans hb
      refine ⟨name, validator, b, why, handed, hb, ?_⟩
      rw [Validator.report, if_pos (hshows _ _ _ handed why hb)]

/-- A refusal is not reported when what the validator accepts cannot be shown. -/
theorem ReportsRejections.showsRefusal (h : r.ReportsRejections s args named bound)
    (hbound : r.signature.bind args named = .ok bound) {name : String} {validator : Validator}
    {b : Bound} (handed : Handed r.validators bound name validator b) :
    ShowsRefusal validator b := by
  intro why hb
  by_contra hshowable
  have hreport : validator.report s.backend name (.rejected why) = .lapse .tooManyDigits := by
    rw [Validator.report, if_neg hshowable]
  have hbuild := build_of_validate_error hbound
    (validate_eq_error_iff.2 ⟨name, validator, b, _, handed, hb, hreport.symm⟩)
  cases hbuild.symm.trans (h.reported name validator b why handed hb)

/-- Plain data that is refused is reported, exactly when infinity is not handed to a validator
    that asks for a whole number, and what a validator that refuses accepts can be shown. -/
theorem reportsRejections_iff
    (htyped : ∀ entry ∈ r.validators, ∀ validator ∈ entry.2, validator.isTyped = true)
    (hbound : r.signature.bind args named = .ok bound)
    (hdata : bound.All fun name v => name ∈ r.validators.map (·.1) → v.isKnownData = true) :
    r.ReportsRejections s args named bound ↔
      ∀ name validator b, Handed r.validators bound name validator b →
        ¬validator.MeetsInfinityIn b ∧ ShowsRefusal validator b := by
  have handedData {name : String} {validator : Validator} {b : Bound}
      (handed : Handed r.validators bound name validator b) :
      validator.isTyped = true ∧ b.All fun v => v.isKnownData = true := by
    have hkeeps : ∀ entry ∈ r.validators, ∀ validator ∈ entry.2, validator.Keeps
        fun v => entry.1 ∈ r.validators.map (·.1) → v.isKnownData = true :=
      fun entry hentry validator hvalidator v w hv h hname =>
        Validator.keeps_isKnownData (htyped entry hentry validator hvalidator) v w (hv hname) h
    obtain ⟨⟨validators, hmem, hvalidator⟩, hb⟩ := handed.all hkeeps hdata
    have hname : name ∈ r.validators.map (·.1) := List.mem_map.2 ⟨_, hmem, rfl⟩
    exact ⟨htyped _ hmem _ hvalidator, hb.mono fun v hv => hv hname⟩
  constructor
  · intro h name validator b handed
    refine ⟨fun hinfinity => ?_, h.showsRefusal hbound handed⟩
    exact Validator.not_answers_applyBound (handedData handed).2 hinfinity
      (h.answers name validator b handed)
  · intro h
    refine reportsRejections_of_answers hbound (fun name validator b handed => ?_)
      fun name validator b handed => (h name validator b handed).2
    obtain ⟨hvalidator, hb⟩ := handedData handed
    exact Validator.answers_applyBound hvalidator hb (h name validator b handed).1

theorem reportsRejections_iff_nan :
    (∀ entry ∈ General.round.validators, ∀ validator ∈ entry.2, validator.isTyped = true) ∧
      General.round.signature.bind [.column "x" none, .double .nan] [] =
        .ok [("x", .one (.column "x" none)), ("digits", .one (.double .nan))] ∧
      General.round.ReportsRejections { backend := .postgres } [.column "x" none, .double .nan] []
        [("x", .one (.column "x" none)), ("digits", .one (.double .nan))] := by
  have htyped : ∀ entry ∈ General.round.validators, ∀ validator ∈ entry.2,
      validator.isTyped = true := by decide
  refine ⟨htyped, rfl, (reportsRejections_iff htyped rfl ?_).2 ?_⟩
  · refine List.forall_mem_cons.2 ⟨fun hname => absurd hname (by decide), ?_⟩
    exact List.forall_mem_singleton.2 fun _ => rfl
  · intro name validator b handed
    cases handed with
    | here rest bound handed =>
      cases bound
      cases handed with
      | here =>
        refine ⟨fun hinfinity => ?_, fun _ _ => rfl⟩
        obtain ⟨_, ⟨⟩⟩ := hinfinity
      | further _ handed => cases handed
    | further _ _ handed => cases handed
    | unbound missing _ => cases missing

/-- Infinity has no whole part, and what comes of asking for it is no report. -/
theorem not_reportsRejections_infinity :
    General.round.build { backend := .postgres } [.column "x" none, .double (.infinite false)] [] =
        .error (.lapse .infiniteWhole) ∧
      ¬General.round.ReportsRejections { backend := .postgres }
        [.column "x" none, .double (.infinite false)] []
        [("x", .one (.column "x" none)), ("digits", .one (.double (.infinite false)))] := by
  refine ⟨rfl, fun h => ?_⟩
  rcases h.answers "digits" (.wholeNumber false none none) _ (.here [] rfl (.here ..)) with h | h
  · obtain ⟨_, ⟨⟩⟩ := h
  · obtain ⟨_, ⟨⟩⟩ := h

end Rule

end SqlDialects
