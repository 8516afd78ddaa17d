-- SUMMARY: A fixed pattern among the arguments of a rule shows in a parameter that is bound to it, and no validator lets it pass.
import SqlDialects.Proofs.Bound
import SqlDialects.Proofs.Fixed.Showing
import SqlDialects.Proofs.Resolution.Failures
import SqlDialects.Proofs.Validation.Outcomes

/-!
# Fixed patterns among arguments

When a fixed pattern shows in an argument, it shows in the parameter to which the
argument is bound. A validator compares with scalars, so it refuses the argument. A
rule that writes every parameter it does not validate therefore builds an expression
in which the fixed pattern shows.
-/

namespace SqlDialects

def Bound.showsFixed : Bound → Bool
  | .one v => v.showsFixed
  | .many vs => anyShowFixed vs
  | .fields _ => false

/-- A fixed pattern shows in what a parameter of a kind is bound to. -/
def Arguments.showsAt (args : Arguments) (p : Param) : Bool :=
  match p.kind with
  | .rest => anyShowFixed (args.rest p.name)
  | _ => (args.value p.name).showsFixed

/-- A fixed pattern shows in some argument. -/
def ShowsAmong (args : List Value) (named : List (String × Value)) : Prop :=
  (∃ v ∈ args, v.showsFixed = true) ∨ ∃ n ∈ named, n.2.showsFixed = true

/-! ## Binding -/

namespace Arguments

variable {args : Arguments} {p : Param}

theorem value_of_lookup {name : String} {v : Value} (h : args.lookup name = some (.one v)) :
    args.value name = v := by
  rw [value, h]

theorem rest_of_lookup {name : String} {vs : List Value} (h : args.lookup name = some (.many vs)) :
    args.rest name = vs := by
  rw [rest, h]

theorem showsAt_of_ne_rest (h : p.kind ≠ .rest) :
    args.showsAt p = (args.value p.name).showsFixed := by
  unfold showsAt
  split
  next hrest => exact absurd hrest h
  next => rfl

theorem showsAt_of_rest (h : p.kind = .rest) :
    args.showsAt p = anyShowFixed (args.rest p.name) := by
  rw [showsAt, h]

theorem exists_bound_of_showsAt (h : args.showsAt p = true) :
    ∃ b, args.lookup p.name = some b ∧ b.showsFixed = true := by
  unfold showsAt at h
  split at h
  · unfold rest at h
    split at h
    next vs hvs => exact ⟨_, hvs, h⟩
    next => cases h
  · unfold value at h
    split at h
    next v hv => exact ⟨_, hv, h⟩
    next => cases h

/-- What shows in a parameter depends on what it is bound to alone. -/
theorem showsAt_congr {args' : Arguments} (h : args'.lookup p.name = args.lookup p.name) :
    args'.showsAt p = args.showsAt p := by
  simp only [showsAt, value, rest, h]

end Arguments

theorem Param.ne_rest_of_takesPosition {p : Param} (h : p.takesPosition = true) :
    p.kind ≠ .rest := by
  intro hrest
  simp [Param.takesPosition, hrest] at h

theorem Signature.Dealt.exists_showsAt {sig : Signature} {args : List Value}
    {named : List (String × Value)} {bound : Arguments} (h : sig.Dealt args named bound)
    (hshows : ShowsAmong args named) : ∃ p ∈ sig, bound.showsAt p = true := by
  rcases hshows with ⟨v, hv, hshow⟩ | ⟨n, hn, hshow⟩
  · obtain ⟨i, hi⟩ := List.getElem?_of_mem hv
    rcases h.byPosition i v hi with ⟨p, hp, hkind, _, hlookup⟩ | ⟨p, hp, hkind, vs, hvs, hlookup⟩
    · refine ⟨p, List.mem_of_getElem? hp, ?_⟩
      rw [Arguments.showsAt_of_ne_rest (Param.ne_rest_of_takesPosition hkind),
        Arguments.value_of_lookup hlookup]
      exact hshow
    · refine ⟨p, hp, ?_⟩
      rw [Arguments.showsAt_of_rest hkind, Arguments.rest_of_lookup hlookup]
      exact anyShowFixed_iff.2 ⟨v, hvs, hshow⟩
  · obtain ⟨p, hp, hname, hkind, hlookup⟩ := h.byName n hn
    refine ⟨p, hp, ?_⟩
    rw [Arguments.showsAt_of_ne_rest hkind, hname, Arguments.value_of_lookup hlookup]
    exact hshow

/-! ## Validation -/

namespace Validator

variable {v w : Value}

/-- Whatever is found equal to a scalar shows no fixed pattern. -/
theorem showsFixed_of_same {candidate : Value} (hcandidate : candidate.isScalar = true)
    (h : v.same candidate = .ok true) : v.showsFixed = false := by
  cases candidate with
  | scalar b =>
    cases v with
    | scalar => rfl
    | column => rfl
    | call => rfl
    | _ => cases h
  | _ => cases hcandidate

theorem showsFixed_of_matchesCandidate {candidate : Value} (hcandidate : candidate.isScalar = true)
    (h : matchesCandidate v candidate = .ok true) : v.showsFixed = false := by
  unfold matchesCandidate at h
  split at h
  · rfl
  · cases h
  · cases h
  · exact showsFixed_of_same hcandidate h

theorem exists_of_anyOf {found : Value → Except Error Bool} {values : List Value}
    (h : anyOf found values = .ok true) : ∃ candidate ∈ values, found candidate = .ok true := by
  induction values with
  | nil => cases h
  | cons candidate rest ih =>
    obtain ⟨b, hb, h⟩ := bind_eq_ok_iff.1 h
    cases b with
    | true => exact ⟨candidate, List.mem_cons_self, hb⟩
    | false =>
      obtain ⟨candidate', hmem, hfound⟩ := ih h
      exact ⟨candidate', List.mem_cons_of_mem _ hmem, hfound⟩

/-- A validator that compares with scalars refuses what shows a fixed pattern. -/
theorem Gives.showsFixed {validator : Validator} {u : Value} (h : validator.Gives u w)
    (hcandidates : validator.hasScalarCandidates = true) : u.showsFixed = false := by
  cases h with
  | allowed hallowed =>
    rcases hallowed with ⟨rfl, _⟩ | hfound
    · rfl
    · obtain ⟨candidate, hmem, hfound⟩ := exists_of_anyOf hfound
      exact showsFixed_of_matchesCandidate (List.all_eq_true.1 hcandidates candidate hmem) hfound
  | _ => rfl

theorem showsFixed_of_apply {validator : Validator}
    (hcandidates : validator.hasScalarCandidates = true) (h : validator.apply v = .ok w) :
    v.showsFixed = false := by
  rw [← Value.showsFixed_staticValue]
  exact (gives_of_apply h).showsFixed hcandidates

end Validator

theorem Validator.showsFixed_of_applyBound {validator : Validator} {b b' : Bound}
    (hcandidates : validator.hasScalarCandidates = true) (h : validator.applyBound b = .ok b') :
    b.showsFixed = false := by
  cases b with
  | one v =>
    obtain ⟨w, hw, _⟩ := bind_eq_ok_iff.1 h
    exact showsFixed_of_apply hcandidates hw
  | many vs =>
    obtain ⟨w, hw, _⟩ := bind_eq_ok_iff.1 h
    have hvs := showsFixed_of_apply hcandidates hw
    rwa [Value.showsFixed] at hvs
  | fields named => rfl

/-- The first of some validators refuses what shows a fixed pattern. -/
theorem showsFixed_of_runValidators {backend : Backend} {argument : String} {validator : Validator}
    {rest : List Validator} {b b' : Bound} (hcandidates : validator.hasScalarCandidates = true)
    (h : runValidators backend argument (validator :: rest) b = .ok b') :
    b.showsFixed = false := by
  obtain ⟨_, hb, _⟩ := runValidators_cons_eq_ok_iff.1 h
  exact Validator.showsFixed_of_applyBound hcandidates hb

/-- A parameter that passed its validators shows no fixed pattern. -/
theorem showsAt_of_validate {backend : Backend} {validators : List (String × List Validator)}
    {args args' : Arguments} (h : validate backend validators args = .ok args') {p : Param}
    (hvalidators : ∀ entry ∈ validators, entry.2 ≠ [] ∧ ∀ v ∈ entry.2, v.hasScalarCandidates = true)
    (hp : p.name ∈ validators.map (·.1)) : args.showsAt p = false := by
  induction validators generalizing args with
  | nil => cases hp
  | cons entry rest ih =>
    obtain ⟨name, vs⟩ := entry
    obtain ⟨hne, hcandidates⟩ := hvalidators _ List.mem_cons_self
    have hrest := fun entry hentry => hvalidators entry (List.mem_cons_of_mem _ hentry)
    refine Bool.eq_false_iff.2 fun hshows => ?_
    obtain ⟨b, hb, hbshows⟩ := Arguments.exists_bound_of_showsAt hshows
    by_cases hname : p.name = name
    · obtain ⟨v, vs, rfl⟩ := List.exists_cons_of_ne_nil hne
      rw [hname] at hb
      obtain ⟨hnone, _⟩ | ⟨b₁, _, hb₁, hrun, _⟩ := cases_of_validate h
      · rw [hb] at hnone
        cases hnone
      · obtain rfl : b = b₁ := Option.some.inj (hb.symm.trans hb₁)
        rw [showsFixed_of_runValidators (hcandidates v List.mem_cons_self) hrun] at hbshows
        cases hbshows
    · have hmem : p.name ∈ rest.map (·.1) := (List.mem_cons.1 hp).resolve_left hname
      obtain ⟨_, h⟩ | ⟨_, b', _, _, h⟩ := cases_of_validate h
      · rw [ih h hrest hmem] at hshows
        cases hshows
      · rw [← Arguments.showsAt_congr (Arguments.lookup_set_of_ne hname b'), ih h hrest hmem]
          at hshows
        cases hshows

/-! ## Rules -/

/-- When a fixed pattern shows in an argument, it shows in what the rule builds, which is
    no literal. -/
def Rule.ShowsArguments (r : Rule) : Prop :=
  ∀ s args named e, (named.map (·.1)).Nodup → ShowsAmong args named →
    r.build s args named = .ok e → e.showsFixed = true ∧ (Value.sql e).isStatic = false

/-- A rule that writes every parameter it does not validate. -/
structure Rule.WritesParameters (r : Rule) : Prop where
  names : r.signature.names.Nodup
  kinds : ∀ p ∈ r.signature, p.kind ≠ .extra
  validators : ∀ entry ∈ r.validators, entry.2 ≠ [] ∧ ∀ v ∈ entry.2, v.hasScalarCandidates = true
  expand : ∀ s args v, r.template.expand s args = .ok v → ∀ p ∈ r.signature,
    p.name ∈ r.validators.map (·.1) ∨
      (args.showsAt p = true → v.showsFixed = true ∧ v.isStatic = false)

theorem Rule.WritesParameters.showsArguments {r : Rule} (h : r.WritesParameters) :
    r.ShowsArguments := by
  intro s args named e hnamed hshows he
  obtain ⟨bound, validated, hbound, hvalidated, hexpand⟩ := Rule.exists_of_build he
  have hdealt := Signature.dealt_bind h.names h.kinds hnamed hbound
  obtain ⟨p, hp, hshow⟩ := hdealt.exists_showsAt hshows
  have hunvalidated : p.name ∉ r.validators.map (·.1) := by
    intro hmem
    rw [showsAt_of_validate hvalidated h.validators hmem] at hshow
    cases hshow
  rw [← Arguments.showsAt_congr (lookup_of_validate hvalidated hunvalidated)] at hshow
  exact (h.expand s validated _ hexpand p hp).resolve_left hunvalidated hshow

end SqlDialects
