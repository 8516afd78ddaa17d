-- SUMMARY: Every function that is resolved makes an expression that renders of arguments that fit its slots.
import SqlDialects.Proofs.Writing.Rules

/-!
# Functions with a slot of their own

A sign, a membership test and a match of a pattern take more in their second place than
an operand. What they make of it renders too. A pattern that is known when translating
becomes part of a text, and whatever has a literal can be part of a text.
-/

namespace SqlDialects

variable {d : Dialect}

/-- What a function asks of its parameters. -/
def Slot.demand (d : Dialect) (function parameter : String) : Value → Prop :=
  (ofParameter function parameter).Fits d

theorem Slot.demand_of_renders {function parameter : String} {v : Value} (h : v.Renders d) :
    Slot.demand d function parameter v :=
  fits_of_renders h

theorem Slot.fits_value {function : String} {args : Arguments}
    (hargs : args.All (Slot.demand d function)) {parameter : String} {slot : Slot}
    (hslot : ofParameter function parameter = slot) : slot.Fits d (args.value parameter) :=
  hslot ▸ hargs.value (fits_of_renders Value.renders_null)

/-! ## Signs and membership -/

namespace General

theorem keepsRendering_signed {op : String} (hop : op ∈ Slot.signs) {single : Expr → Expr}
    (hsingle : ∀ e : Expr, e.Renders d → (single e).Renders d) :
    Rule.KeepsRendering d (Slot.demand d op) { name := op, template := signed op single } := by
  have hx : Slot.ofParameter op "x" = .operand := by
    simp [Slot.ofParameter, Slot.secondName, hop]
  have hy : Slot.ofParameter op "y" = .optional := by
    simp [Slot.ofParameter, Slot.secondName, Slot.second, hop]
  refine ⟨?_, List.forall_mem_nil _, ?_⟩
  · refine List.forall_mem_cons.2 ⟨Slot.demand_of_renders Value.renders_null,
      List.forall_mem_singleton.2 ?_⟩
    show (Slot.ofParameter op "y").Fits d (.scalar .omitted)
    rw [hy]
    exact .inl rfl
  · intro s bound args e _ _ hargs he
    cases he
    have hfirst : (args.value "x").Renders d := Slot.fits_value hargs hx
    have hsecond := Slot.fits_value hargs hy
    dsimp only
    split
    next => exact hsingle _ hfirst
    next hgiven => exact Expr.renders_binaryOf hfirst (hsecond.resolve_left hgiven)

theorem keepsRendering_plus :
    Rule.KeepsRendering d (Slot.demand d "+") { name := "+", template := plus } :=
  keepsRendering_signed (by decide) fun _ he => he

theorem keepsRendering_minus :
    Rule.KeepsRendering d (Slot.demand d "-") { name := "-", template := minus } :=
  keepsRendering_signed (by decide) fun _ he => Expr.renders_unary he

theorem keepsRendering_isIn :
    Rule.KeepsRendering d (Slot.demand d "%in%") { name := "%in%", template := isIn } := by
  have hnull {parameter : String} : Slot.demand d "%in%" parameter .null :=
    Slot.demand_of_renders Value.renders_null
  refine ⟨?_, List.forall_mem_nil _, ?_⟩
  · exact List.forall_mem_cons.2 ⟨hnull, List.forall_mem_singleton.2 hnull⟩
  · intro s bound args e _ _ hargs he
    cases he
    have hx : Slot.operand.Fits d (args.value "x") := Slot.fits_value hargs (by decide)
    have htable : Slot.items.Fits d (args.value "table") := Slot.fits_value hargs (by decide)
    dsimp only
    split
    next => grind
    next items _ heq =>
      rw [heq] at htable
      rcases htable with htuple | ⟨_, hitems, hrenders⟩
      · obtain ⟨_, hs⟩ := htuple rfl
        cases hs
      · cases hitems
        exact Expr.renders_binary hx (Expr.renders_group (List.forall_mem_map.2 hrenders))
    next hempty htuple =>
      have hoperand : (args.value "table").Renders d := by
        rcases htable with hrenders | ⟨items, heq, _⟩
        · exact hrenders
        · exact absurd heq (htuple items)
      exact Expr.renders_binary hx (Expr.renders_group (List.forall_mem_singleton.2 hoperand))

end General

/-! ## Patterns -/

theorem nulFree_escapeLike {s : String} (h : NulFree s.toList) : NulFree (escapeLike s).toList := by
  have hlist (cs : List Char) (h : NulFree cs) : NulFree (escapeLikeList cs) := by
    induction cs with
    | nil => exact .nil
    | cons c cs ih =>
      rw [NulFree.cons_iff] at h
      rw [escapeLikeList]
      split <;> simp [h.1, ih h.2]
  rw [escapeLike, String.toList_ofList]
  exact hlist _ h

theorem nulFree_likePattern (place : PatternPlace) {s : String} (h : NulFree s.toList) :
    NulFree (likePattern place s).toList :=
  .ite (.append (nulFree_escapeLike h) (by decide)) (.append (by decide) (nulFree_escapeLike h))

section

variable {place : PatternPlace} {string pattern : Value} {negated : Bool} {e : Expr}

theorem renders_matchFixed (hstring : string.Renders d) (hpattern : pattern.unmarked.Renders d)
    (h : matchFixed place string pattern negated = .ok e) : e.Renders d := by
  have hposition : (Expr.callOf "STRPOS" [.sql string.toExpr, pattern.unmarked]).Renders d := by
    grind
  unfold matchFixed at h
  dsimp only at h
  split at h
  · grind
  · split at h
    next hstatic =>
      obtain ⟨text, htext, h⟩ := bind_eq_ok_iff.1 h
      cases h
      have hbare : NulFree text.toList := by
        rw [Value.eq_bareText_of_asBareText htext]
        exact Value.nulFree_bareText hstatic hpattern
      have hlike := nulFree_likePattern place hbare
      grind
    next =>
      split at h
      · grind
      · have hlength : (Expr.callOf "LENGTH" [pattern.unmarked]).Renders d := by grind
        grind

/-- A pattern that is a literal becomes part of a longer text. -/
theorem renders_anchored {before after : String} (hbefore : NulFree before.toList)
    (hafter : NulFree after.toList) {pattern : Expr} (hpattern : pattern.Renders d)
    (h : anchored before pattern after = .ok e) : e.Renders d := by
  unfold anchored at h
  split at h
  next v =>
    obtain ⟨text, htext, h⟩ := bind_eq_ok_iff.1 h
    cases h
    have hbare : NulFree text.toList := by
      rw [Value.eq_bareText_of_asBareText htext]
      exact Value.nulFree_bareText (v := .sql (.literal v)) rfl hpattern
    have hwhole : NulFree (before ++ text ++ after).toList :=
      .append (.append hbefore hbare) hafter
    grind
  next =>
    have hfirst : (Expr.literal (.text before)).Renders d := by grind
    have hlast : (Expr.literal (.text after)).Renders d := by grind
    grind

theorem renders_matchRegex {operator : String} (hstring : string.Renders d)
    (hpattern : pattern.Renders d) (h : matchRegex place operator string pattern negated = .ok e) :
    e.Renders d := by
  obtain ⟨anchored, hanchored, h⟩ := bind_eq_ok_iff.1 h
  cases h
  have hplaced : anchored.Renders d := by
    rw [← Value.renders_toExpr] at hpattern
    unfold anchoredAt at hanchored
    split at hanchored
    · exact renders_anchored (by decide) (by decide) hpattern hanchored
    · exact renders_anchored (by decide) (by decide) hpattern hanchored
    · cases hanchored
      exact hpattern
  split <;> grind

end

theorem Slot.ofParameter_matcher {function : String} (h : function ∈ matchers)
    (parameter : String) :
    ofParameter function parameter = if parameter = "pattern" then .pattern else .operand := by
  simp only [matchers, List.mem_cons, List.not_mem_nil, or_false] at h
  rcases h with rfl | rfl | rfl <;> rfl

theorem Slot.positions_matcher {function : String} (h : function ∈ matchers) :
    ∀ entry ∈ (patternSignature "negate").names.zipIdx,
      ofPosition function entry.2 = ofParameter function entry.1 := by
  simp only [matchers, List.mem_cons, List.not_mem_nil, or_false] at h
  rcases h with rfl | rfl | rfl <;> decide

theorem Slot.exists_place {function : String} (h : function ∈ matchers) :
    ∃ place, (function, place) ∈ Postgres.matchers := by
  simp only [matchers, List.mem_cons, List.not_mem_nil, or_false] at h
  rcases h with rfl | rfl | rfl <;> simp [Postgres.matchers]

/-- A match writes its pattern without its mark. -/
theorem Postgres.keepsRendering_matcher {function : String} {place : PatternPlace}
    (hfunction : function ∈ Slot.matchers) :
    Rule.KeepsRendering d (Slot.demand d function)
      { Rule.patternMatch place with name := function } := by
  have hslot := Slot.ofParameter_matcher hfunction
  have hnull {parameter : String} : Slot.demand d function parameter .null :=
    Slot.demand_of_renders Value.renders_null
  refine ⟨?_, ?_, ?_⟩
  · exact List.forall_mem_cons.2 ⟨hnull, List.forall_mem_cons.2 ⟨hnull,
      List.forall_mem_singleton.2 (Slot.demand_of_renders (Value.renders_bool false))⟩⟩
  · refine List.forall_mem_singleton.2 (List.forall_mem_singleton.2 fun v w hv hw => ?_)
    rw [Slot.demand, hslot "negate", if_neg (by decide)] at hv ⊢
    exact Validator.keeps_renders rfl v w hv hw
  · intro s bound args e _ _ hargs he
    have hstring : (args.value "string").Renders d :=
      Slot.fits_value hargs ((hslot "string").trans (if_neg (by decide)))
    have hpattern : (args.value "pattern").unmarked.Renders d :=
      Slot.fits_value hargs ((hslot "pattern").trans (if_pos rfl))
    rw [Rule.expand_patternMatch_eq] at he
    obtain ⟨e, hmatch, he⟩ := bind_eq_ok_iff.1 he
    cases he
    unfold matchPattern at hmatch
    split at hmatch
    next => exact renders_matchFixed hstring hpattern hmatch
    next hfixed =>
      rw [Value.unmarked_of_not_isFixedPattern hfixed] at hpattern
      exact renders_matchRegex hstring hpattern hmatch

/-! ## Functions -/

namespace Slot

variable {function : String} {sig : Signature} {args : List Value} {named : List (String × Value)}

/-- Where every argument has a parameter of its own, arguments that fit their slots are
    what the parameters ask. -/
theorem meets_of_positions
    (hpositions : ∀ entry ∈ sig.names.zipIdx,
      ofPosition function entry.2 = ofParameter function entry.1)
    (hkinds : ∀ p ∈ sig, p.kind ≠ .rest ∧ p.kind ≠ .extra)
    (hargs : ∀ (i : Nat) (v : Value), args[i]? = some v → (ofPosition function i).Fits d v)
    (hnamed : ∀ n ∈ named, (ofParameter function n.1).Fits d n.2) :
    sig.Meets (demand d function) args named where
  byPosition := by
    intro i p v hp hv
    have hname : (p.name, i) ∈ sig.names.zipIdx := by
      rw [List.mem_zipIdx_iff_getElem?, Signature.names, List.getElem?_map, hp]
      rfl
    rw [demand, ← hpositions _ hname]
    exact hargs i v hv
  rest := fun p hp hkind => absurd hkind (hkinds p hp).1
  byName := hnamed
  extra := fun p hp hkind => absurd hkind (hkinds p hp).2

theorem second_of_not_mem (h : function ∉ functions) : second function = .operand := by
  simp only [functions, List.mem_cons, List.mem_append, not_or] at h
  simp [second, h]

/-- All arguments of a function without a slot of its own are operands. -/
theorem meets_of_not_mem (h : function ∉ functions)
    (hargs : ∀ (i : Nat) (v : Value), args[i]? = some v → (ofPosition function i).Fits d v)
    (hnamed : ∀ n ∈ named, (ofParameter function n.1).Fits d n.2) :
    sig.Meets (fun _ v => v.Renders d) args named := by
  have hposition (i : Nat) : ofPosition function i = .operand := by
    unfold ofPosition
    split
    · exact second_of_not_mem h
    · rfl
  have hparameter (parameter : String) : ofParameter function parameter = .operand := by
    rw [ofParameter, second_of_not_mem h, ite_self]
  have hargs : ∀ (i : Nat) (v : Value), args[i]? = some v → v.Renders d := by
    intro i v hv
    have hfits := hargs i v hv
    rwa [hposition] at hfits
  have hnamed : ∀ n ∈ named, n.2.Renders d := by
    intro n hn
    have hfits := hnamed n hn
    rwa [hparameter] at hfits
  refine ⟨fun i _ v _ => hargs i v, fun _ _ _ v hv => ?_, hnamed, fun _ _ _ => hnamed⟩
  obtain ⟨i, hi⟩ := List.getElem?_of_mem hv
  exact hargs i v hi

end Slot

namespace Backend

variable {backend : Backend} {function : String} {c : Context} {rule : Rule}

theorem keepsOperands_of_resolve (hfunction : function ∉ Slot.functions)
    (h : backend.variant.resolve function c = .ok rule) : rule.KeepsOperands d := by
  refine (forall_of_resolve (P := fun name r => name ∈ Slot.functions ∨ r.KeepsOperands d)
    ?_ ?_ h).resolve_left hfunction
  · intro c
    cases c with
    | scalar => exact General.keepsOperands_scalarRules
    | aggregate => exact fun row hrow => .inr (General.keepsOperands_aggregateRules row hrow)
    | window => exact fun row hrow => .inr (General.keepsOperands_windowRules row hrow)
  · intro c
    cases c with
    | scalar => exact Postgres.keepsOperands_scalarRules
    | aggregate => exact fun row hrow => .inr (Postgres.keepsOperands_aggregateRules row hrow)
    | window => exact fun row hrow => .inr (Postgres.keepsOperands_windowRules row hrow)

/-- What a resolved function makes of arguments that fit its slots renders. -/
theorem renders_of_build {s : Setting} {args : List Value} {named : List (String × Value)}
    {e : Expr} (hrule : backend.variant.resolve function c = .ok rule) (hs : s.Renders d)
    (hargs : ∀ (i : Nat) (v : Value), args[i]? = some v → (Slot.ofPosition function i).Fits d v)
    (hnamed : ∀ n ∈ named, (Slot.ofParameter function n.1).Fits d n.2)
    (he : rule.build s args named = .ok e) : e.Renders d := by
  by_cases hfunction : function ∈ Slot.functions
  · simp only [Slot.functions, Slot.signs, List.mem_cons, List.cons_append, List.nil_append]
      at hfunction
    rcases hfunction with rfl | rfl | rfl | hmatcher
    · rw [resolve_isIn] at hrule
      cases hrule
      exact General.keepsRendering_isIn.build hs
        (Slot.meets_of_positions (by decide) (by decide) hargs hnamed) he
    · rw [resolve_plus] at hrule
      cases hrule
      exact General.keepsRendering_plus.build hs
        (Slot.meets_of_positions (by decide) (by decide) hargs hnamed) he
    · rw [resolve_minus] at hrule
      cases hrule
      exact General.keepsRendering_minus.build hs
        (Slot.meets_of_positions (by decide) (by decide) hargs hnamed) he
    · obtain ⟨place, hplace⟩ := Slot.exists_place hmatcher
      obtain rfl := eq_of_resolve_matcher hplace hrule
      have hkinds : ∀ p ∈ patternSignature "negate", p.kind ≠ .rest ∧ p.kind ≠ .extra := by decide
      exact (Postgres.keepsRendering_matcher hmatcher).build hs
        (Slot.meets_of_positions (Slot.positions_matcher hmatcher) hkinds hargs hnamed) he
  · exact (keepsOperands_of_resolve hfunction hrule).build hs
      (Slot.meets_of_not_mem hfunction hargs hnamed) he

end Backend

end SqlDialects
