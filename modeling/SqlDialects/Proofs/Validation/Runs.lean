-- SUMMARY: Validators run in order, each on what the one before gave back; a run ends in the last result, or in the report of the first that gives none.
import SqlDialects.Proofs.Shapes
import SqlDialects.Rule.Shapes

/-!
# Runs of validators

The validators of one parameter form a chain: the first is handed what the parameter
is bound to, and each further one what the one before gave back. The parameters that
have validators are gone through in the order of the declarations. A validator that
gives nothing back ends the run, so a failing run is a validator together with what it
was handed.
-/

namespace SqlDialects

/-! ## The validators of one parameter -/

namespace Validator

variable {validator : Validator} {validators : List Validator} {b b' c : Bound}

/-- Validators let a bound value pass one after another, each handed what the one before
    gave back. -/
inductive Chain : List Validator → Bound → Bound → Prop
  | nil (b : Bound) : Chain [] b b
  | cons {validator : Validator} {rest : List Validator} {b b₁ b' : Bound}
      (first : validator.applyBound b = .ok b₁) (further : Chain rest b₁ b') :
      Chain (validator :: rest) b b'

/-- One of some validators is handed a bound value: those before it have let theirs pass. -/
inductive Handed : List Validator → Bound → Validator → Bound → Prop
  | here (validator : Validator) (rest : List Validator) (b : Bound) :
      Handed (validator :: rest) b validator b
  | further {validator later : Validator} {rest : List Validator} {b b₁ c : Bound}
      (first : validator.applyBound b = .ok b₁) (handed : Handed rest b₁ later c) :
      Handed (validator :: rest) b later c

theorem chain_cons_iff {rest : List Validator} :
    Chain (validator :: rest) b b' ↔ ∃ b₁, validator.applyBound b = .ok b₁ ∧ Chain rest b₁ b' := by
  constructor
  · rintro (_ | ⟨first, further⟩)
    exact ⟨_, first, further⟩
  · rintro ⟨b₁, first, further⟩
    exact .cons first further

/-- A single validator makes one value of one value. -/
theorem exists_of_chain_one {v : Value} (h : Chain [validator] (.one v) b') :
    ∃ w, validator.apply v = .ok w ∧ b' = .one w := by
  obtain ⟨b₁, first, further⟩ := chain_cons_iff.1 h
  simp only [applyBound, bind_eq_ok_iff, pure_eq_ok_iff] at first
  obtain ⟨w, hw, rfl⟩ := first
  cases further
  exact ⟨w, hw, rfl⟩

/-- What validators keep stays so along a chain. -/
theorem Chain.all {p : Value → Prop} (h : Chain validators b b')
    (hkeeps : ∀ v ∈ validators, v.Keeps p) (hb : b.All p) : b'.All p := by
  induction h with
  | nil => exact hb
  | cons first _ ih =>
    obtain ⟨hfirst, hrest⟩ := List.forall_mem_cons.1 hkeeps
    exact ih hrest (all_applyBound hfirst hb first)

/-- What validators keep holds of whatever one of them is handed. -/
theorem Handed.all {p : Value → Prop} (h : Handed validators b validator c)
    (hkeeps : ∀ v ∈ validators, v.Keeps p) (hb : b.All p) : validator ∈ validators ∧ c.All p := by
  induction h with
  | here => exact ⟨List.mem_cons_self, hb⟩
  | further first _ ih =>
    obtain ⟨hfirst, hrest⟩ := List.forall_mem_cons.1 hkeeps
    obtain ⟨hmem, hc⟩ := ih hrest (all_applyBound hfirst hb first)
    exact ⟨List.mem_cons_of_mem _ hmem, hc⟩

end Validator

section

variable {backend : Backend} {argument : String} {validators : List Validator} {b b' : Bound}

theorem runValidators_cons_ok {validator : Validator} {b₁ : Bound}
    (h : validator.applyBound b = .ok b₁) :
    runValidators backend argument (validator :: validators) b =
      runValidators backend argument validators b₁ := by
  rw [runValidators, h]

theorem runValidators_cons_error {validator : Validator} {e : Error}
    (h : validator.applyBound b = .error e) :
    runValidators backend argument (validator :: validators) b =
      .error (validator.report backend argument e) := by
  rw [runValidators, h]

/-- A run gives a result exactly when the validators form a chain to it. -/
theorem runValidators_eq_ok_iff :
    runValidators backend argument validators b = .ok b' ↔ Validator.Chain validators b b' := by
  induction validators generalizing b with
  | nil =>
    constructor
    · intro h
      cases h
      exact .nil _
    · rintro ⟨⟩
      rfl
  | cons validator rest ih =>
    simp only [Validator.chain_cons_iff, runValidators_cons_eq_ok_iff, ih]

/-- A run fails exactly when some validator is handed a value of which it gives nothing. -/
theorem runValidators_eq_error_iff {e : Error} :
    runValidators backend argument validators b = .error e ↔
      ∃ validator c cause, Validator.Handed validators b validator c ∧
        validator.applyBound c = .error cause ∧ e = validator.report backend argument cause := by
  constructor
  · intro h
    induction validators generalizing b with
    | nil => cases h
    | cons validator rest ih =>
      cases hfirst : validator.applyBound b with
      | ok b₁ =>
        rw [runValidators_cons_ok hfirst] at h
        obtain ⟨later, c, cause, handed, hc⟩ := ih h
        exact ⟨later, c, cause, .further hfirst handed, hc⟩
      | error cause =>
        rw [runValidators_cons_error hfirst] at h
        exact ⟨validator, b, cause, .here .., hfirst, (Except.error.inj h).symm⟩
  · rintro ⟨validator, c, cause, handed, hc, rfl⟩
    induction handed with
    | here => exact runValidators_cons_error hc
    | further first _ ih => rw [runValidators_cons_ok first, ih hc]

end

/-! ## The validators of all parameters -/

section

variable {backend : Backend} {entries : List (String × List Validator)} {args args' : Arguments}
variable {name : String} {validators : List Validator} {b b' : Bound}

/-- A validator of a parameter is handed a bound value: all that run before it have let
    theirs pass. -/
inductive Handed : List (String × List Validator) → Arguments → String → Validator → Bound → Prop
  | here {name : String} {validators : List Validator} {args : Arguments} {b c : Bound}
      {validator : Validator} (rest : List (String × List Validator))
      (bound : args.lookup name = some b) (handed : validator.Handed validators b c) :
      Handed ((name, validators) :: rest) args name validator c
  | further {name later : String} {validators : List Validator} {args : Arguments} {b b' c : Bound}
      {validator : Validator} {rest : List (String × List Validator)}
      (bound : args.lookup name = some b) (first : Validator.Chain validators b b')
      (handed : Handed rest (args.set name b') later validator c) :
      Handed ((name, validators) :: rest) args later validator c
  | unbound {name later : String} {validators : List Validator} {args : Arguments} {c : Bound}
      {validator : Validator} {rest : List (String × List Validator)}
      (missing : args.lookup name = none) (handed : Handed rest args later validator c) :
      Handed ((name, validators) :: rest) args later validator c

/-- What the validators keep of each parameter holds of whatever one of them is handed. -/
theorem Handed.all {P : String → Value → Prop} {validator : Validator} {c : Bound}
    (h : Handed entries args name validator c)
    (hkeeps : ∀ entry ∈ entries, ∀ v ∈ entry.2, v.Keeps (P entry.1)) (hargs : args.All P) :
    (∃ validators, (name, validators) ∈ entries ∧ validator ∈ validators) ∧ c.All (P name) := by
  induction h with
  | here rest bound handed =>
    obtain ⟨hmem, hc⟩ :=
      handed.all (hkeeps _ List.mem_cons_self) (hargs _ (mem_of_lookup bound))
    exact ⟨⟨_, List.mem_cons_self, hmem⟩, hc⟩
  | further bound first _ ih =>
    obtain ⟨hfirst, hrest⟩ := List.forall_mem_cons.1 hkeeps
    obtain ⟨⟨validators, hmem, hvalidator⟩, hc⟩ :=
      ih hrest (hargs.set (first.all hfirst (hargs _ (mem_of_lookup bound))))
    exact ⟨⟨validators, List.mem_cons_of_mem _ hmem, hvalidator⟩, hc⟩
  | unbound _ _ ih =>
    obtain ⟨⟨validators, hmem, hvalidator⟩, hc⟩ := ih (List.forall_mem_cons.1 hkeeps).2 hargs
    exact ⟨⟨validators, List.mem_cons_of_mem _ hmem, hvalidator⟩, hc⟩

theorem validate_cons_some {rest : List (String × List Validator)}
    (h : args.lookup name = some b) :
    validate backend ((name, validators) :: rest) args = (do
      let b' ← runValidators backend name validators b
      validate backend rest (args.set name b')) := by
  rw [validate, h]

theorem validate_cons_none {rest : List (String × List Validator)} (h : args.lookup name = none) :
    validate backend ((name, validators) :: rest) args = validate backend rest args := by
  rw [validate, h]

/-- Validation leaves the parameters, and changes what they are bound to. -/
theorem names_of_validate (h : validate backend entries args = .ok args') :
    args'.map (·.1) = args.map (·.1) := by
  induction entries generalizing args with
  | nil =>
    cases h
    rfl
  | cons entry rest ih =>
    obtain ⟨name, validators⟩ := entry
    cases hname : args.lookup name with
    | none =>
      rw [validate_cons_none hname] at h
      exact ih h
    | some b =>
      rw [validate_cons_some hname] at h
      obtain ⟨b', _, h⟩ := bind_eq_ok_iff.1 h
      rw [ih h, Arguments.map_fst_set]

/-- The validators of a bound parameter form a chain from what it is bound to. -/
theorem chain_of_validate (hnames : (entries.map (·.1)).Nodup)
    (h : validate backend entries args = .ok args') (hmem : (name, validators) ∈ entries)
    (hb : args.lookup name = some b) :
    ∃ b', Validator.Chain validators b b' ∧ args'.lookup name = some b' := by
  induction entries generalizing args with
  | nil => cases hmem
  | cons entry rest ih =>
    obtain ⟨first, firstValidators⟩ := entry
    rw [List.map_cons, List.nodup_cons] at hnames
    rcases List.mem_cons.1 hmem with heq | hmem
    · -- what comes later validates other parameters
      obtain ⟨rfl, rfl⟩ := Prod.mk.inj heq
      rw [validate_cons_some hb] at h
      obtain ⟨b', hb', h⟩ := bind_eq_ok_iff.1 h
      refine ⟨b', runValidators_eq_ok_iff.1 hb', ?_⟩
      rw [lookup_of_validate h hnames.1, Arguments.lookup_set_self hb]
    · have hne : name ≠ first := fun heq => hnames.1 (heq ▸ List.mem_map.2 ⟨_, hmem, rfl⟩)
      cases hfirst : args.lookup first with
      | none =>
        rw [validate_cons_none hfirst] at h
        exact ih hnames.2 h hmem hb
      | some old =>
        rw [validate_cons_some hfirst] at h
        obtain ⟨new, _, h⟩ := bind_eq_ok_iff.1 h
        refine ih hnames.2 h hmem ?_
        rw [Arguments.lookup_set_of_ne hne, hb]

/-- Validation fails exactly when some validator is handed a value of which it gives
    nothing, and with that validator's report. -/
theorem validate_eq_error_iff {e : Error} :
    validate backend entries args = .error e ↔
      ∃ name validator c cause, Handed entries args name validator c ∧
        validator.applyBound c = .error cause ∧ e = validator.report backend name cause := by
  constructor
  · intro h
    induction entries generalizing args with
    | nil => cases h
    | cons entry rest ih =>
      obtain ⟨name, validators⟩ := entry
      cases hname : args.lookup name with
      | none =>
        rw [validate_cons_none hname] at h
        obtain ⟨later, validator, c, cause, handed, hc⟩ := ih h
        exact ⟨later, validator, c, cause, .unbound hname handed, hc⟩
      | some b =>
        rw [validate_cons_some hname] at h
        cases hrun : runValidators backend name validators b with
        | ok b' =>
          rw [hrun, ok_bind] at h
          obtain ⟨later, validator, c, cause, handed, hc⟩ := ih h
          exact ⟨later, validator, c, cause,
            .further hname (runValidators_eq_ok_iff.1 hrun) handed, hc⟩
        | error failure =>
          obtain ⟨validator, c, cause, handed, hc, hfailure⟩ := runValidators_eq_error_iff.1 hrun
          rw [hrun] at h
          cases h
          exact ⟨name, validator, c, cause, .here rest hname handed, hc, hfailure⟩
  · rintro ⟨name, validator, c, cause, handed, hc, rfl⟩
    induction handed with
    | here rest bound handed =>
      rw [validate_cons_some bound, runValidators_eq_error_iff.2 ⟨_, _, _, handed, hc, rfl⟩]
      rfl
    | further bound first _ ih =>
      rw [validate_cons_some bound, runValidators_eq_ok_iff.2 first, ok_bind, ih hc]
    | unbound missing _ ih => rw [validate_cons_none missing, ih hc]

end

/-! ## Declared validators -/

namespace Signature

/-- Binding binds every parameter, in the order of the signature. -/
theorem names_bind {sig : Signature} {args : List Value} {named : List (String × Value)}
    {bound : Arguments} (h : sig.bind args named = .ok bound) : bound.map (·.1) = sig.names := by
  obtain ⟨_, _, _, _, _, _, rfl, _⟩ := exists_of_bind h
  exact names_fill ..

end Signature

theorem exists_lookup_of_mem_names {args : Arguments} {name : String}
    (h : name ∈ args.map (·.1)) : ∃ b, args.lookup name = some b :=
  Option.isSome_iff_exists.1 (mem_names_iff_lookup.1 h)

namespace Rule

/-- Arguments in which every declared validator has run: what a validated parameter is given
    is what its last validator gave back, and the other parameters stay bound as they were. -/
structure Validated (r : Rule) (bound given : Arguments) : Prop where
  boundNames : bound.map (·.1) = r.parameters
  givenNames : given.map (·.1) = r.parameters
  chains : ∀ name validators, (name, validators) ∈ r.validators →
    ∃ b b', bound.lookup name = some b ∧ Validator.Chain validators b b' ∧
      given.lookup name = some b'
  others : ∀ name, name ∉ r.validators.map (·.1) → given.lookup name = bound.lookup name

/-- Whenever the rule builds an expression, every declared validator has run on what the
    arguments and the defaults are bound to, and the template is given the results. -/
def RunsDeclared (r : Rule) : Prop :=
  ∀ s args named e, r.build s args named = .ok e →
    ∃ bound given, r.signature.bind args named = .ok bound ∧ r.Validated bound given ∧
      r.template.expand s given = .ok (.sql e)

/-- A rule is refused exactly when its validators name something that is no parameter, and a
    rule that is made has these validators and runs them all. -/
def ChecksDeclared (name : String) (t : Template) (validators : List (String × List Validator)) :
    Prop :=
  ((∃ unknown, make name t validators = .error (.unknownParameters name unknown)) ↔
      ∃ n ∈ validators.map (·.1), n ∉ t.signature.names) ∧
    ∀ r, make name t validators = .ok r → r = ⟨name, t, validators⟩ ∧ r.RunsDeclared

theorem runsDeclared {r : Rule} (hnames : (r.validators.map (·.1)).Nodup)
    (hknown : ∀ n ∈ r.validators.map (·.1), n ∈ r.parameters) : r.RunsDeclared := by
  intro s args named e h
  obtain ⟨bound, given, hbound, hgiven, hexpand⟩ := exists_of_build h
  have hparameters := Signature.names_bind hbound
  refine ⟨bound, given, hbound, ⟨hparameters, ?_, ?_, ?_⟩, hexpand⟩
  · rw [names_of_validate hgiven]
    exact hparameters
  · intro name validators hmem
    obtain ⟨b, hb⟩ : ∃ b, bound.lookup name = some b := by
      refine exists_lookup_of_mem_names ?_
      rw [hparameters]
      exact hknown name (List.mem_map.2 ⟨_, hmem, rfl⟩)
    obtain ⟨b', hchain, hb'⟩ := chain_of_validate hnames hgiven hmem hb
    exact ⟨b, b', hb, hchain, hb'⟩
  · intro name hname
    exact lookup_of_validate hgiven hname

section

variable {name : String} {t : Template} {validators : List (String × List Validator)}

theorem make_eq_ok (name : String)
    (h : ∀ n ∈ validators.map (·.1), n = settingParameter ∨ n ∈ t.signature.names) :
    make name t validators = .ok { name, template := t, validators } := by
  have hfilter : (validators.map (·.1)).filter
      (!(settingParameter :: t.signature.names).contains ·) = [] := by
    rw [List.filter_eq_nil_iff]
    intro n hn
    simpa [← or_iff_not_imp_left] using h n hn
  unfold make
  dsimp only
  rw [hfilter]

theorem make_eq_error (name : String) {n : String} (hn : n ∈ validators.map (·.1))
    (hsetting : n ≠ settingParameter) (hparameter : n ∉ t.signature.names) :
    ∃ unknown, make name t validators = .error (.unknownParameters name unknown) := by
  unfold make
  dsimp only
  split
  next hfilter =>
    have hmem : n ∈ (validators.map (·.1)).filter
        (!(settingParameter :: t.signature.names).contains ·) :=
      List.mem_filter.2 ⟨hn, by simpa using ⟨hsetting, hparameter⟩⟩
    rw [hfilter] at hmem
    cases hmem
  next => exact ⟨_, rfl⟩

/-- A name that is unknown altogether is refused. -/
theorem checksDeclared_of_unknown {n : String} (hn : n ∈ validators.map (·.1))
    (hsetting : n ≠ settingParameter) (hparameter : n ∉ t.signature.names) :
    ChecksDeclared name t validators := by
  obtain ⟨unknown, hmake⟩ := make_eq_error name hn hsetting hparameter
  refine ⟨⟨fun _ => ⟨n, hn, hparameter⟩, fun _ => ⟨unknown, hmake⟩⟩, fun r hr => ?_⟩
  rw [hmake] at hr
  cases hr

/-- Validators of parameters alone are taken, and they run. -/
theorem checksDeclared_of_known (hnames : (validators.map (·.1)).Nodup)
    (hknown : ∀ n ∈ validators.map (·.1), n ∈ t.signature.names) :
    ChecksDeclared name t validators := by
  have hmake := make_eq_ok name fun n hn => .inr (hknown n hn)
  refine ⟨⟨?_, ?_⟩, fun r hr => ?_⟩
  · rintro ⟨unknown, herror⟩
    rw [hmake] at herror
    cases herror
  · rintro ⟨n, hn, hparameter⟩
    exact absurd (hknown n hn) hparameter
  · rw [hmake] at hr
    cases hr
    exact ⟨rfl, runsDeclared hnames hknown⟩

/-- Declarations are checked unless the setting's name is declared, which counts as known
    though it is no parameter, and nothing else is wrong. -/
theorem checksDeclared_iff (hsetting : settingParameter ∉ t.signature.names)
    (hnames : (validators.map (·.1)).Nodup) :
    ChecksDeclared name t validators ↔
      (settingParameter ∈ validators.map (·.1) →
        ∃ n ∈ validators.map (·.1), n ≠ settingParameter ∧ n ∉ t.signature.names) := by
  by_cases hunknown : ∃ n ∈ validators.map (·.1), n ≠ settingParameter ∧ n ∉ t.signature.names
  · obtain ⟨n, hn, hne, hparameter⟩ := hunknown
    exact iff_of_true (checksDeclared_of_unknown hn hne hparameter)
      fun _ => ⟨n, hn, hne, hparameter⟩
  · have hknown : ∀ n ∈ validators.map (·.1), n = settingParameter ∨ n ∈ t.signature.names := by
      intro n hn
      by_contra hnot
      exact hunknown ⟨n, hn, not_or.1 hnot⟩
    by_cases hdeclared : settingParameter ∈ validators.map (·.1)
    · refine iff_of_false (fun hchecks => ?_) fun himp => hunknown (himp hdeclared)
      obtain ⟨unknown, herror⟩ := hchecks.1.2 ⟨_, hdeclared, hsetting⟩
      rw [make_eq_ok name hknown] at herror
      cases herror
    · refine iff_of_true (checksDeclared_of_known hnames fun n hn => ?_) fun h => absurd h hdeclared
      exact (hknown n hn).resolve_left fun heq => hdeclared (heq ▸ hn)

end

theorem checksDeclared_iff_boolean :
    settingParameter ∉ (Template.call₁ "ABS").signature.names ∧
      ChecksDeclared "abs" (.call₁ "ABS") [("x", [.boolean])] ∧
      ¬ChecksDeclared "abs" (.call₁ "ABS") [("x", [.boolean]), (settingParameter, [])] := by
  have hsetting : settingParameter ∉ (Template.call₁ "ABS").signature.names := by decide
  refine ⟨hsetting, (checksDeclared_iff hsetting (by decide)).2 (by decide), fun h => ?_⟩
  exact absurd ((checksDeclared_iff hsetting (by decide)).1 h) (by decide)

/-- A validator of the setting's name is taken, and no parameter is there to run it on. -/
theorem not_checksDeclared_setting :
    make "abs" (.call₁ "ABS") [(settingParameter, [.boolean])] =
        .ok ⟨"abs", .call₁ "ABS", [(settingParameter, [.boolean])]⟩ ∧
      ¬ChecksDeclared "abs" (.call₁ "ABS") [(settingParameter, [.boolean])] := by
  have hmake : make "abs" (.call₁ "ABS") [(settingParameter, [.boolean])] =
      .ok ⟨"abs", .call₁ "ABS", [(settingParameter, [.boolean])]⟩ := make_eq_ok _ (by decide)
  refine ⟨hmake, fun h => ?_⟩
  obtain ⟨unknown, herror⟩ := h.1.2 ⟨settingParameter, List.mem_cons_self, by decide⟩
  rw [hmake] at herror
  cases herror

end Rule

end SqlDialects
