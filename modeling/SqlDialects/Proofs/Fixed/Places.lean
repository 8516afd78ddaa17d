-- SUMMARY: What an argument of a function is for, and how the functions that treat one argument unlike the others write a fixed pattern in it.
import SqlDialects.Proofs.Fixed.Rules
import SqlDialects.Proofs.Traced

/-!
# Places of arguments

A few functions treat one of their arguments unlike the others. A pattern may be
marked as fixed, and what is looked for in an empty table is not written. The place of
an argument says what it is for, and what a mark at a place has to come to in the
translated argument for the function to write it.
-/

namespace SqlDialects

/-! ## Trees -/

/-- An operand that is left out. -/
def Value.isOmitted : Value → Bool
  | .scalar .omitted => true
  | _ => false

def Value.isEmptySequence : Value → Bool
  | .list [] => true
  | .tuple [] => true
  | _ => false

mutual

/-- Known when translating: no column and no call, but a sum of one known operand is
    that operand. -/
def Value.isKnown : Value → Bool
  | .column .. => false
  | .call name args named => name == "+" && isKnownOperand args && isKnownNamedOperand named
  | .sql e => (Value.sql e).isStatic
  | _ => true

def isKnownOperand : List Value → Bool
  | [] => true
  | v :: vs => v.isKnown && vs.all Value.isOmitted

def isKnownNamedOperand : List (String × Value) → Bool
  | [] => true
  | (name, v) :: rest =>
    (if name = "x" then v.isKnown else v.isOmitted) && isKnownNamedOperand rest

end

/-! ## Places -/

/-- What an argument is for. -/
inductive ArgumentPlace where
  | plain
  /-- A pattern that is sought anywhere in a text. -/
  | pattern
  /-- A pattern that is sought at the start or the end of a text. -/
  | affix
  /-- What is looked for in an empty table. -/
  | unused
  deriving DecidableEq

namespace ArgumentPlace

/-- The parameters of the functions that treat one argument unlike the others. -/
def parameters (function : String) : List String :=
  if function = "+" then ["x", "y"]
  else if function = "%in%" then ["x", "table"]
  else if function ∈ ["str_detect", "str_starts", "str_ends"] then ["string", "pattern", "negate"]
  else []

/-- The place of a parameter; `unused` when the function looks in an empty table. -/
def ofParameter (function : String) (unused : Bool) (parameter : String) : ArgumentPlace :=
  if function = "str_detect" ∧ parameter = "pattern" then .pattern
  else if function ∈ ["str_starts", "str_ends"] ∧ parameter = "pattern" then .affix
  else if function = "%in%" ∧ parameter = "x" ∧ unused = true then .unused
  else .plain

/-- The place of a positional argument. -/
def ofPosition (function : String) (unused : Bool) (i : Nat) : ArgumentPlace :=
  ofParameter function unused ((parameters function)[i]?.getD "")

/-- Marks inside an argument at a place count, also when the argument is known. -/
def sees (overlook known : Bool) : ArgumentPlace → Bool
  | .plain => true
  | .pattern => true
  | .affix => !(overlook && known)
  | .unused => false

end ArgumentPlace

/-- The table of a membership test has no items. -/
def hasEmptyTable (args : List Value) (named : List (String × Value)) : Bool :=
  args[1]?.any Value.isEmptySequence ||
    named.any fun n => n.1 == "table" && n.2.isEmptySequence

/-! ## What a place exposes -/

/-- What a mark at a place comes to in the translated argument. -/
def ArgumentPlace.Exposes (v v' : Value) : ArgumentPlace → Prop
  | .plain => v'.showsFixed = true ∧ (v'.isStatic = true → v.isKnown = true)
  | .pattern => v'.unmarked.showsFixed = true
  | .affix => v'.unmarked.showsFixed = true ∧ v'.unmarked.isStatic = false
  | .unused => False

/-- An unmarked argument exposes at every place at which marks inside it are seen. -/
theorem ArgumentPlace.exposes_of_sees {place : ArgumentPlace} {v v' : Value}
    (hunmarked : v'.unmarked = v') (hshows : v'.showsFixed = true)
    (hknown : v'.isStatic = true → v.isKnown = true)
    (hsees : place.sees true v.isKnown = true) : place.Exposes v v' := by
  cases place with
  | plain => exact ⟨hshows, hknown⟩
  | pattern =>
    rw [Exposes, hunmarked]
    exact hshows
  | affix =>
    rw [Exposes, hunmarked]
    refine ⟨hshows, Bool.eq_false_iff.2 fun hstatic => ?_⟩
    simp [sees, hknown hstatic] at hsees
  | unused => cases hsees

/-- Some argument exposes at its place. -/
def ExposesAmong (positions : Nat → ArgumentPlace) (parameters : String → ArgumentPlace)
    (args args' : List Value) (named named' : List (String × Value)) : Prop :=
  (∃ (i : Nat) (v v' : Value), args[i]? = some v ∧ args'[i]? = some v' ∧
    (positions i).Exposes v v') ∨
  ∃ (name : String) (v v' : Value), (name, v) ∈ named ∧ (name, v') ∈ named' ∧
    (parameters name).Exposes v v'

/-! ## Translated arguments -/

namespace Translator

variable {t : Translator} {c : Context} {w : Window}

/-- An argument that is translated to nothing given was not given. -/
theorem isOmitted_of_argument {v : Value}
    (h : (t.argument c w v).outcome = .ok (.scalar .omitted)) :
    v.isOmitted = true := by
  cases v with
  | scalar s =>
    cases h
    rfl
  | call name args named =>
    simp only [argument, Traced.outcome_bind_eq_ok_iff] at h
    obtain ⟨_, _, _, _, _, _, _, _, h⟩ := h
    cases h
  | column => cases h
  | fixed pattern =>
    obtain ⟨_, _, h⟩ := Traced.outcome_bind_eq_ok_iff.1 h
    cases h
  | list items =>
    obtain ⟨_, _, h⟩ := Traced.outcome_bind_eq_ok_iff.1 h
    cases h
  | tuple items =>
    obtain ⟨_, _, h⟩ := Traced.outcome_bind_eq_ok_iff.1 h
    cases h
  | sql => cases h
  | window => cases h

theorem isEmptySequence_of_argument {v : Value} (h : (t.argument c w v).outcome = .ok (.tuple [])) :
    v.isEmptySequence = true := by
  have empty {items : List Value} (h : (t.arguments c w items).outcome = .ok []) : items = [] := by
    cases items with
    | nil => rfl
    | cons v vs =>
      obtain ⟨_, hnone, _⟩ := exists_argument_of_getElem? h (i := 0) rfl
      cases hnone
  cases v with
  | list items =>
    obtain ⟨items', hitems, h⟩ := Traced.outcome_bind_eq_ok_iff.1 h
    cases h
    rw [empty hitems]
    rfl
  | tuple items =>
    obtain ⟨items', hitems, h⟩ := Traced.outcome_bind_eq_ok_iff.1 h
    cases h
    rw [empty hitems]
    rfl
  | call name args named =>
    simp only [argument, Traced.outcome_bind_eq_ok_iff] at h
    obtain ⟨_, _, _, _, _, _, _, _, h⟩ := h
    cases h
  | fixed pattern =>
    obtain ⟨_, _, h⟩ := Traced.outcome_bind_eq_ok_iff.1 h
    cases h
  | column => cases h
  | scalar => cases h
  | sql => cases h
  | window => cases h

end Translator

/-! ## Functions -/

section

variable {t : Translator} {c : Context} {w : Window} {s : Setting}
variable {args args' : List Value} {named named' : List (String × Value)} {bound : Arguments}
variable {e : Expr}

theorem Arguments.lookup_of_value {name : String} {v : Value} (h : bound.value name = v)
    (hv : v ≠ .null) : bound.lookup name = some (.one v) := by
  unfold value at h
  split at h
  next hlookup =>
    rw [hlookup, h]
  next => exact absurd h.symm hv

/-- An argument is given for a parameter of a function, by position or by name. -/
def GivenFor (function : String) (args : List Value) (named : List (String × Value))
    (parameter : String) (v : Value) : Prop :=
  (∃ i : Nat, (ArgumentPlace.parameters function)[i]? = some parameter ∧ args[i]? = some v) ∨
    (parameter, v) ∈ named

/-- An argument that exposes at its place is given for a parameter, and is what the
    parameter is bound to. -/
theorem exists_exposes_of_dealt {function : String} {unused : Bool} {sig : Signature}
    (hdealt : sig.Dealt args' named' bound)
    (hnames : sig.names = ArgumentPlace.parameters function) (hkinds : ∀ p ∈ sig, p.kind ≠ .rest)
    (h : ExposesAmong (.ofPosition function unused) (.ofParameter function unused) args args'
      named named') :
    ∃ parameter ∈ ArgumentPlace.parameters function, ∃ v,
      GivenFor function args named parameter v ∧
      (ArgumentPlace.ofParameter function unused parameter).Exposes v (bound.value parameter) := by
  rcases h with ⟨i, v, v', hv, hv', hexposes⟩ | ⟨name, v, v', hv, hv', hexposes⟩
  · rcases hdealt.byPosition i v' hv' with ⟨p, hp, _, _, hlookup⟩ | ⟨p, hp, hrest, _⟩
    · have hname : (ArgumentPlace.parameters function)[i]? = some p.name := by
        rw [← hnames, Signature.names, List.getElem?_map, hp]
        rfl
      rw [ArgumentPlace.ofPosition, hname, Option.getD_some] at hexposes
      refine ⟨p.name, List.mem_of_getElem? hname, v, .inl ⟨i, hname, hv⟩, ?_⟩
      rw [Arguments.value_of_lookup hlookup]
      exact hexposes
    · exact absurd hrest (hkinds p hp)
  · obtain ⟨p, hp, hname, _, hlookup⟩ := hdealt.byName _ hv'
    have hmem : p.name ∈ sig.names := List.mem_map.2 ⟨p, hp, rfl⟩
    rw [hname, hnames] at hmem
    refine ⟨name, hmem, v, .inr hv, ?_⟩
    rw [Arguments.value_of_lookup hlookup]
    exact hexposes

/-! ### Membership -/

/-- What is looked for is written unless the table that was given is empty. -/
theorem Translator.showsFixed_of_isIn (hargs : (t.arguments c w args).outcome = .ok args')
    (hnamed : (t.namedArguments c w named).outcome = .ok named')
    (hdistinct : (named'.map (·.1)).Nodup)
    (hexposes : ExposesAmong (.ofPosition "%in%" (hasEmptyTable args named))
      (.ofParameter "%in%" (hasEmptyTable args named)) args args' named named')
    (h : Rule.build { name := "%in%", template := General.isIn } s args' named' = .ok e) :
    e.showsFixed = true ∧ (Value.sql e).isStatic = false := by
  obtain ⟨bound, _, hbound, hvalidated, hexpand⟩ := Rule.exists_of_build h
  cases hvalidated
  have hdealt := Signature.dealt_bind (by decide) (by decide) hdistinct hbound
  obtain ⟨parameter, hparameter, v, _, hv⟩ :=
    exists_exposes_of_dealt hdealt rfl (by decide) hexposes
  refine General.showsFixed_of_isIn hexpand ?_
  have hcases : parameter = "x" ∨ parameter = "table" := by
    simpa [ArgumentPlace.parameters] using hparameter
  rcases hcases with rfl | rfl
  · cases hempty : hasEmptyTable args named with
    | true =>
      rw [hempty] at hv
      cases hv
    | false =>
      rw [hempty] at hv
      refine .inr ⟨hv.1, fun htable => ?_⟩
      -- an empty table was given, so it is empty before translation
      have hgiven := hdealt.given (.required "table") (List.mem_cons_of_mem _ List.mem_cons_self) _
        (Arguments.lookup_of_value htable (by simp))
      simp only [hasEmptyTable, Bool.or_eq_false_iff] at hempty
      rcases hgiven with ⟨i, q, hq, hname, hi⟩ | hmem | hdefault
      · match i, hq, hi with
        | 0, hq, _ =>
          cases hq
          exact absurd hname (by decide)
        | 1, _, hi =>
          obtain ⟨u, hu, harg⟩ := exists_of_getElem?_arguments hargs hi
          simp [hu, isEmptySequence_of_argument harg] at hempty
      · obtain ⟨u, hu, harg⟩ := exists_of_mem_namedArguments hnamed hmem
        have hnone := List.any_eq_false.1 hempty.2 _ hu
        simp [isEmptySequence_of_argument harg] at hnone
      · cases hdefault
  · exact .inl hv.1

/-! ### Sums -/

theorem isKnownNamedOperand_iff : isKnownNamedOperand named = true ↔
    ∀ n ∈ named, (if n.1 = "x" then n.2.isKnown else n.2.isOmitted) = true := by
  induction named with
  | nil => simp [isKnownNamedOperand]
  | cons n rest ih => simp [isKnownNamedOperand, ih]

theorem GivenFor.first_of_plus {v : Value} (h : GivenFor "+" args named "x" v) :
    args[0]? = some v ∨ ("x", v) ∈ named := by
  rcases h with ⟨i, hi, hv⟩ | h
  · match i with
    | 0 => exact .inl hv
    | 1 => simp [ArgumentPlace.parameters] at hi
    | i + 2 => simp [ArgumentPlace.parameters] at hi
  · exact .inr h

/-- The arguments of a sum: the first operand is given once, by its position or by its
    name, and all else is given for the second one. -/
theorem Translator.operands_of_plus (hargs : (t.arguments c w args).outcome = .ok args')
    (hnamed : (t.namedArguments c w named).outcome = .ok named')
    (hdealt : General.plus.signature.Dealt args' named' bound) :
    (∀ u, args[0]? = some u → "x" ∉ named.map (·.1)) ∧
      ∀ u, (∃ i, args[i + 1]? = some u) ∨ (∃ n ∈ named, n.1 ≠ "x" ∧ n.2 = u) →
        (t.argument c w u).outcome = .ok (bound.value "y") := by
  have hkinds : ∀ p ∈ General.plus.signature, p.kind ≠ .rest := by decide
  have hsecond : ∀ p ∈ General.plus.signature, p.name ≠ "x" → p.name = "y" := by decide
  refine ⟨fun u hu => ?_, fun u hu => ?_⟩
  · obtain ⟨u', hu', _⟩ := exists_argument_of_getElem? hargs hu
    rw [← names_namedArguments hnamed]
    rcases hdealt.byPosition 0 u' hu' with ⟨p, hp, _, hname, _⟩ | ⟨p, hp, hrest, _⟩
    · cases hp
      exact hname
    · exact absurd hrest (hkinds p hp)
  · rcases hu with ⟨i, hi⟩ | ⟨n, hn, hname, rfl⟩
    · obtain ⟨u', hu', harg⟩ := exists_argument_of_getElem? hargs hi
      rcases hdealt.byPosition (i + 1) u' hu' with ⟨p, hp, _, _, hlookup⟩ | ⟨p, hp, hrest, _⟩
      · match i, hp with
        | 0, hp =>
          cases hp
          rw [Param.name_optional] at hlookup
          rw [Arguments.value_of_lookup hlookup]
          exact harg
        | i + 1, hp => cases hp
      · exact absurd hrest (hkinds p hp)
    · obtain ⟨u', hu', harg⟩ := exists_argument_of_mem hnamed hn
      obtain ⟨p, hp, hpname, _, hlookup⟩ := hdealt.byName _ hu'
      have hy : n.1 = "y" := by
        rw [← hpname] at hname ⊢
        exact hsecond p hp hname
      rw [hy] at hlookup
      rw [Arguments.value_of_lookup hlookup]
      exact harg

/-- A sum of one known operand is known: nothing but that operand was given. -/
theorem Translator.isKnown_plus (hargs : (t.arguments c w args).outcome = .ok args')
    (hnamed : (t.namedArguments c w named).outcome = .ok named')
    (hdistinct : (named.map (·.1)).Nodup) (hdealt : General.plus.signature.Dealt args' named' bound)
    (hy : bound.value "y" = .scalar .omitted) {v : Value}
    (hgiven : args[0]? = some v ∨ ("x", v) ∈ named) (hv : v.isKnown = true) :
    (Value.call "+" args named).isKnown = true := by
  obtain ⟨hfirst, hothers⟩ := operands_of_plus hargs hnamed hdealt
  rw [hy] at hothers
  have hoperand : isKnownOperand args = true := by
    cases args with
    | nil => rfl
    | cons u us =>
      have hu : u = v := by
        rcases hgiven with hu | hmem
        · exact Option.some.inj hu
        · exact absurd (List.mem_map.2 ⟨_, hmem, rfl⟩) (hfirst u rfl)
      rw [isKnownOperand, hu, hv, Bool.true_and, List.all_eq_true]
      intro u' hu'
      exact isOmitted_of_argument (hothers u' (.inl (List.getElem?_of_mem hu')))
  have hnamedOperand : isKnownNamedOperand named = true := by
    refine isKnownNamedOperand_iff.2 fun n hn => ?_
    split
    next hname =>
      have hn' : ("x", n.2) ∈ named := hname ▸ hn
      rcases hgiven with hu | hmem
      · exact absurd (List.mem_map.2 ⟨_, hn', rfl⟩) (hfirst v hu)
      · have hlookup := lookup_of_mem hdistinct hmem
        rw [lookup_of_mem hdistinct hn'] at hlookup
        cases hlookup
        exact hv
    next hname => exact isOmitted_of_argument (hothers n.2 (.inr ⟨n, hn, hname, rfl⟩))
  rw [Value.isKnown, hoperand, hnamedOperand]
  rfl

/-- The operands of a sum are written. A sum that is a literal is its one operand. -/
theorem Translator.showsFixed_of_plus (hargs : (t.arguments c w args).outcome = .ok args')
    (hnamed : (t.namedArguments c w named).outcome = .ok named')
    (hdistinct : (named.map (·.1)).Nodup) {unused : Bool}
    (hexposes : ExposesAmong (.ofPosition "+" unused) (.ofParameter "+" unused) args args' named
      named')
    (h : Rule.build { name := "+", template := General.plus } s args' named' = .ok e) :
    e.showsFixed = true ∧
      ((Value.sql e).isStatic = true → (Value.call "+" args named).isKnown = true) := by
  obtain ⟨bound, _, hbound, hvalidated, hexpand⟩ := Rule.exists_of_build h
  cases hvalidated
  have hdealt := Signature.dealt_bind (by decide) (by decide)
    (by rwa [names_namedArguments hnamed]) hbound
  obtain ⟨parameter, hparameter, v, hgiven, hv⟩ :=
    exists_exposes_of_dealt hdealt rfl (by decide) hexposes
  have hcases : parameter = "x" ∨ parameter = "y" := by
    simpa [ArgumentPlace.parameters] using hparameter
  rcases hcases with rfl | rfl
  · obtain ⟨hshows, hstatic⟩ := General.showsFixed_of_plus hexpand (.inl hv.1)
    refine ⟨hshows, fun he => ?_⟩
    obtain ⟨hy, hx⟩ := hstatic he
    exact isKnown_plus hargs hnamed hdistinct hdealt hy hgiven.first_of_plus (hv.2 hx)
  · obtain ⟨hshows, hstatic⟩ := General.showsFixed_of_plus hexpand (.inr hv.1)
    refine ⟨hshows, fun he => ?_⟩
    have hy := hv.1
    rw [(hstatic he).1] at hy
    cases hy

/-! ### Patterns -/

/-- The functions that match patterns, and where in a text they seek them. -/
def Postgres.matchers : List (String × PatternPlace) :=
  [("str_detect", .anywhere), ("str_starts", .start), ("str_ends", .stop)]

/-- What a function that matches patterns is given exposes a pattern that it writes, or
    another argument in which a fixed pattern shows. -/
theorem Postgres.exposes_of_matcher {function : String} {place : PatternPlace} {unused : Bool}
    (hfunction : (function, place) ∈ matchers) {parameter : String} {v v' : Value}
    (h : (ArgumentPlace.ofParameter function unused parameter).Exposes v v') :
    parameter ≠ "pattern" ∧ v'.showsFixed = true ∨
      parameter = "pattern" ∧ v'.unmarked.showsFixed = true ∧
        (place = .anywhere ∨ v'.unmarked.isStatic = false) := by
  simp only [matchers, List.mem_cons, Prod.mk.injEq, List.not_mem_nil, or_false] at hfunction
  by_cases hparameter : parameter = "pattern"
  · rcases hfunction with ⟨rfl, rfl⟩ | ⟨rfl, rfl⟩ | ⟨rfl, rfl⟩
    · simp only [ArgumentPlace.ofParameter, hparameter, and_self, if_true] at h
      exact .inr ⟨hparameter, h, .inl rfl⟩
    · simp [ArgumentPlace.ofParameter, hparameter] at h
      exact .inr ⟨hparameter, h.1, .inr h.2⟩
    · simp [ArgumentPlace.ofParameter, hparameter] at h
      exact .inr ⟨hparameter, h.1, .inr h.2⟩
  · rcases hfunction with ⟨rfl, rfl⟩ | ⟨rfl, rfl⟩ | ⟨rfl, rfl⟩
    all_goals
      simp [ArgumentPlace.ofParameter, hparameter] at h
      exact .inl ⟨hparameter, h.1⟩

/-- A function that matches patterns writes its pattern, marked or not, unless it is known
    and sought at the start or the end, and every other argument that it does not validate. -/
theorem Postgres.showsFixed_of_matcher {function : String} {place : PatternPlace} {unused : Bool}
    (hfunction : (function, place) ∈ matchers) (hdistinct : (named'.map (·.1)).Nodup)
    (hexposes : ExposesAmong (.ofPosition function unused) (.ofParameter function unused) args args'
      named named')
    (h : Rule.build { Rule.patternMatch place with name := function } s args' named' = .ok e) :
    e.showsFixed = true ∧ (Value.sql e).isStatic = false := by
  obtain ⟨bound, validated, hbound, hvalidated, hexpand⟩ := Rule.exists_of_build h
  have hdealt : (patternSignature "negate").Dealt args' named' bound :=
    Signature.dealt_bind (by decide) (by decide) hdistinct hbound
  have hnames : (patternSignature "negate").names = ArgumentPlace.parameters function := by
    revert hfunction
    simp only [matchers, List.mem_cons, Prod.mk.injEq, List.not_mem_nil, or_false]
    rintro (⟨rfl, _⟩ | ⟨rfl, _⟩ | ⟨rfl, _⟩) <;> rfl
  obtain ⟨parameter, hparameter, v, _, hv⟩ :=
    exists_exposes_of_dealt hdealt hnames (by decide) hexposes
  have kept {name : String} (hname : name ≠ "negate") : validated.value name = bound.value name := by
    have hlookup := lookup_of_validate hvalidated
      (fun h => hname (List.mem_singleton.1 h) : name ∉ ["negate"])
    rw [Arguments.value, Arguments.value, hlookup]
  refine Rule.showsFixed_of_patternMatch hexpand ?_
  rw [kept (by decide), kept (by decide)]
  rcases exposes_of_matcher hfunction hv with ⟨hname, hshows⟩ | ⟨rfl, hpattern⟩
  · rw [← hnames] at hparameter
    have hcases : parameter = "string" ∨ parameter = "pattern" ∨ parameter = "negate" := by
      simpa [patternSignature, Signature.names] using hparameter
    rcases hcases with rfl | rfl | rfl
    · exact .inl hshows
    · exact absurd rfl hname
    · -- whether the answer is negated is validated
      have hrefused := showsAt_of_validate hvalidated (p := .optional "negate" (.bool false))
        ((by decide : ∀ entry ∈ [("negate", [Validator.boolean])],
          entry.2 ≠ [] ∧ ∀ v ∈ entry.2, v.hasScalarCandidates = true))
        List.mem_cons_self
      rw [Arguments.showsAt_optional, hshows] at hrefused
      cases hrefused
  · exact .inr hpattern

end

end SqlDialects
