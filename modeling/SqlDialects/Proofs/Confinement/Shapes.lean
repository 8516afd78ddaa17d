-- SUMMARY: The shapes and patterns that rules are made of keep user data confined.
import SqlDialects.Proofs.Confinement.Binding
import SqlDialects.Rule.Patterns
import SqlDialects.Rule.Shapes

/-!
# Confinement of common shapes

A template *confines* when it makes confined values of confined arguments, and a
rule when its template does and its validators have confined aliases. Every
common shape confines when the words it is given belong to the vocabulary.
-/

namespace SqlDialects

structure Template.Confines (t : Template) : Prop where
  signature : t.signature.isConfined = true
  expand : ∀ s args v, s.Confined → args.Confined → t.expand s args = .ok v → v.isConfined = true

structure Rule.Confines (r : Rule) : Prop where
  template : r.template.Confines
  validators : validatorsConfined r.validators = true

/-- A confining rule builds confined expressions of confined arguments. -/
theorem Rule.Confines.build {r : Rule} {s : Setting} {args : List Value}
    {named : List (String × Value)} {e : Expr} (h : r.Confines) (hs : s.Confined)
    (hargs : allConfined args = true) (hnamed : ∀ n ∈ named, n.2.isConfined = true)
    (he : r.build s args named = .ok e) : e.isConfined = true := by
  obtain ⟨bound, validated, hbound, hvalidated, hv⟩ := Rule.exists_of_build he
  have hbound := Signature.confined_bind h.template.signature hargs hnamed hbound
  exact h.template.expand s validated _ hs (confined_validate h.validators hbound hvalidated) hv

/-! ## Windows -/

section

variable {w : Window} {e : Expr}

theorem Window.isConfined_plain (name : Option String) {partitionBy orderBy : List Expr}
    (hpartition : allConfinedExprs partitionBy = true) (horder : allConfinedExprs orderBy = true) :
    (⟨partitionBy, orderBy, none, name⟩ : Window).isConfined = true := by
  simp [Window.isConfined, hpartition, horder]

theorem Window.confined_partitionBy (hw : w.isConfined = true) :
    allConfinedExprs w.partitionBy = true := by
  simp only [Window.isConfined_eq, Bool.and_eq_true] at hw
  exact hw.1.1

theorem Window.confined_orderBy (hw : w.isConfined = true) :
    allConfinedExprs w.orderBy = true := by
  simp only [Window.isConfined_eq, Bool.and_eq_true] at hw
  exact hw.1.2

theorem Window.isConfined_forAggregate (hw : w.isConfined = true) :
    w.forAggregate.isConfined = true := by
  unfold Window.forAggregate
  split
  · exact hw
  · exact isConfined_plain none (confined_partitionBy hw) rfl

theorem Expr.isConfined_over (he : e.isConfined = true) (hw : w.isConfined = true) :
    (Expr.over e w).isConfined = true := by
  rw [Expr.isConfined, he, hw]
  rfl

end

/-! ## Scalar shapes -/

namespace Template

/-- A template that only looks at its arguments confines when what it makes is confined. -/
theorem confines_pure {sig : Signature} {make : Arguments → Expr} (hsig : sig.isConfined = true)
    (h : ∀ args : Arguments, args.Confined → (make args).isConfined = true) :
    (Template.pure sig make).Confines := by
  refine ⟨hsig, ?_⟩
  intro s args v _ hargs hv
  cases hv
  exact h args hargs

theorem confines_windowed {sig : Signature} {make : Window → Arguments → Expr}
    (hsig : sig.isConfined = true)
    (h : ∀ (w : Window) (args : Arguments), w.isConfined = true → args.Confined →
      (make w args).isConfined = true) :
    (Template.windowed sig make).Confines := by
  refine ⟨hsig, ?_⟩
  intro s args v hs hargs hv
  cases hv
  exact h s.window args hs.window hargs

theorem confines_binary {op : String} (hop : op ∈ Vocabulary.binaryOperators) :
    (Template.binary op).Confines :=
  confines_pure rfl fun _ hargs =>
    Expr.isConfined_binaryOf hop (hargs.value "x") (hargs.value "y")

theorem allConfined_pair {v w : Value} (hv : v.isConfined = true) (hw : w.isConfined = true) :
    allConfined [v, w] = true := by
  simp [allConfined, hv, hw]

theorem allConfined_single {v : Value} (hv : v.isConfined = true) : allConfined [v] = true := by
  simp [allConfined, hv]

theorem confines_call₁ {name : String} (hname : name ∈ Vocabulary.functions) :
    (Template.call₁ name).Confines :=
  confines_pure rfl fun _ hargs =>
    Expr.isConfined_callOf hname (allConfined_single (hargs.value "x"))

theorem confines_call₂ {name : String} (hname : name ∈ Vocabulary.functions) :
    (Template.call₂ name).Confines :=
  confines_pure rfl fun _ hargs =>
    Expr.isConfined_callOf hname (allConfined_pair (hargs.value "x") (hargs.value "y"))

theorem confines_callAny {name : String} (hname : name ∈ Vocabulary.functions) :
    (Template.callAny name).Confines :=
  confines_pure rfl fun _ hargs => Expr.isConfined_callOf hname (hargs.rest "args")

theorem confines_cast {typeName : String} (htype : typeName ∈ Vocabulary.castTypes) :
    (Template.cast typeName).Confines := by
  refine confines_pure rfl ?_
  intro args hargs
  simp [Expr.isConfined, htype, hargs.value "x"]

theorem confines_cotangent : Template.cotangent.Confines := by
  refine confines_pure rfl ?_
  intro args hargs
  have htangent : (Expr.callOf "TAN" [args.value "x"]).isConfined = true :=
    Expr.isConfined_callOf (by decide) (allConfined_single (hargs.value "x"))
  exact Expr.isConfined_binaryOf (by decide) rfl htangent

theorem confines_refused (name : String) : (Template.refused name).Confines := by
  refine ⟨rfl, ?_⟩
  intro s args v _ _ hv
  cases hv

/-! ## Aggregate and window shapes -/

theorem confines_aggregate {f : String} (hf : f ∈ Vocabulary.functions) :
    (Template.aggregate f).Confines :=
  confines_pure rfl fun _ hargs => Expr.isConfined_callOf hf (allConfined_single (hargs.value "x"))

theorem confines_aggregateOver {f : String} (hf : f ∈ Vocabulary.functions) :
    (Template.aggregateOver f).Confines := by
  refine confines_windowed rfl ?_
  intro w args hw hargs
  have hcall := Expr.isConfined_callOf hf (allConfined_single (hargs.value "x"))
  exact Expr.isConfined_over hcall (Window.isConfined_forAggregate hw)

theorem confines_aggregateOver₂ {f : String} (hf : f ∈ Vocabulary.functions) :
    (Template.aggregateOver₂ f).Confines := by
  refine confines_windowed rfl ?_
  intro w args hw hargs
  have hcall := Expr.isConfined_callOf hf (allConfined_pair (hargs.value "x") (hargs.value "y"))
  exact Expr.isConfined_over hcall (Window.isConfined_forAggregate hw)

theorem confines_rank {f : String} (hf : f ∈ Vocabulary.functions) :
    (Template.rank f).Confines := by
  refine confines_windowed rfl ?_
  intro w args hw hargs
  have hcall : (Expr.call f [] false).isConfined = true := by
    simp [Expr.isConfined, allConfinedExprs, hf]
  have hx := hargs.value "x"
  split
  · exact Expr.isConfined_over hcall hw
  · refine Expr.isConfined_over hcall
      (Window.isConfined_plain none (Window.confined_partitionBy hw) ?_)
    simp [allConfinedExprs, hx]

theorem confines_cumulative {f : String} (hf : f ∈ Vocabulary.functions) :
    (Template.cumulative f).Confines := by
  refine confines_windowed rfl ?_
  intro w args hw hargs
  have hcall := Expr.isConfined_callOf hf (allConfined_single (hargs.value "x"))
  refine Expr.isConfined_over hcall ?_
  simp [Window.confined_partitionBy hw, Window.confined_orderBy hw, allConfined, Value.isConfined]

end Template

/-! ## Validated shapes -/

namespace Rule

theorem confines_of_template {name : String} {t : Template}
    {validators : List (String × List Validator)} (ht : t.Confines)
    (hvalidators : validatorsConfined validators = true) :
    Rule.Confines { name, template := t, validators } :=
  ⟨ht, hvalidators⟩

theorem confines_paste (separator : String) : (Rule.paste (.text separator)).Confines := by
  refine confines_of_template (Template.confines_pure rfl ?_) rfl
  intro args hargs
  refine Expr.isConfined_callOf (by decide) ?_
  simp [allConfined, hargs.value "sep", hargs.rest "args"]

theorem confines_log : Rule.log.Confines := by
  refine ⟨⟨rfl, ?_⟩, rfl⟩
  intro s args v _ hargs hv
  have hx := Template.allConfined_single (hargs.value "x")
  simp only [Rule.log] at hv
  split at hv
  · split at hv
    · split at hv
      · cases hv
        exact Expr.isConfined_callOf (by decide) hx
      · cases hv
        have hquotient : (Expr.callOf "log" [args.value "x"]).isConfined = true :=
          Expr.isConfined_callOf (by decide) hx
        exact Expr.isConfined_binaryOf (by decide) hquotient
          (Expr.isConfined_callOf (by decide) rfl)
    · cases hv
  · cases hv

theorem confines_aggregate {f : String} (hf : f ∈ Vocabulary.functions) :
    (Rule.aggregate f).Confines :=
  confines_of_template (Template.confines_aggregate hf) rfl

theorem confines_aggregateOver {f : String} (hf : f ∈ Vocabulary.functions) :
    (Rule.aggregateOver f).Confines :=
  confines_of_template (Template.confines_aggregateOver hf) rfl

end Rule

/-! ## Patterns -/

theorem Value.isConfined_unmarked {v : Value} (hv : v.isConfined = true) :
    v.unmarked.isConfined = true := by
  cases v with
  | fixed pattern => exact hv
  | _ => exact hv

section

variable {place : PatternPlace} {string pattern : Value} {negated : Bool} {e e' : Expr}

/-- Fixed text is matched by a call or by a literal that holds its text. -/
theorem isConfined_matchFixed (hstring : string.isConfined = true)
    (hpattern : pattern.isConfined = true) (he : matchFixed place string pattern negated = .ok e) :
    e.isConfined = true := by
  have hunmarked := Value.isConfined_unmarked hpattern
  have hexpr : (Value.sql string.toExpr).isConfined = true := by
    simp [Value.isConfined, hstring]
  have hposition :
      (Expr.callOf "STRPOS" [.sql string.toExpr, pattern.unmarked]).isConfined = true :=
    Expr.isConfined_callOf (by decide) (Template.allConfined_pair hexpr hunmarked)
  unfold matchFixed at he
  dsimp only at he
  split at he
  · cases he
    refine Expr.isConfined_binaryOf ?_ hposition rfl
    cases negated <;> decide
  · split at he
    · obtain ⟨_, _, he⟩ := bind_eq_ok_iff.1 he
      cases he
      refine Expr.isConfined_binary ?_ (by simpa using hstring) rfl
      cases negated <;> decide
    · split at he
      · cases he
        refine Expr.isConfined_binaryOf ?_ hposition rfl
        cases negated <;> decide
      · cases he
        have hlength : (Expr.callOf "LENGTH" [pattern.unmarked]).isConfined = true :=
          Expr.isConfined_callOf (by decide) (Template.allConfined_single hunmarked)
        refine Expr.isConfined_binary ?_ ?_ (by simpa using hunmarked)
        · cases negated <;> decide
        · exact Expr.isConfined_callOf (by decide) (Template.allConfined_pair hexpr hlength)

theorem isConfined_anchored {before after : String} (he : e.isConfined = true)
    (h : anchored before e after = .ok e') : e'.isConfined = true := by
  have hconcat : "||" ∈ Vocabulary.binaryOperators := by decide
  unfold anchored at h
  split at h
  · obtain ⟨_, _, h⟩ := bind_eq_ok_iff.1 h
    cases h
    rfl
  · cases h
    simp [Expr.isConfined, Value.isConfined, hconcat, he]

theorem isConfined_anchoredAt (he : e.isConfined = true) (h : anchoredAt place e = .ok e') :
    e'.isConfined = true := by
  unfold anchoredAt at h
  split at h
  · exact isConfined_anchored he h
  · exact isConfined_anchored he h
  · cases h
    exact he

theorem isConfined_matchRegex {operator : String}
    (hoperator : operator ∈ Vocabulary.binaryOperators) (hstring : string.isConfined = true)
    (hpattern : pattern.isConfined = true)
    (he : matchRegex place operator string pattern negated = .ok e) : e.isConfined = true := by
  obtain ⟨anchored, hanchored, he⟩ := bind_eq_ok_iff.1 he
  cases he
  have hright : anchored.isConfined = true :=
    isConfined_anchoredAt (by simpa using hpattern) hanchored
  have hleft : string.toExpr.isConfined = true := by simpa using hstring
  have hmatch := Expr.isConfined_binary hoperator hleft hright
  cases negated with
  | false => exact hmatch
  | true => exact Expr.isConfined_negate hmatch

end

theorem Template.confines_pattern {make : Value → Value → Bool → Except Error Expr}
    (h : ∀ (string pattern : Value) (negated : Bool) (e : Expr), string.isConfined = true →
      pattern.isConfined = true → make string pattern negated = .ok e → e.isConfined = true) :
    (Template.pattern make).Confines := by
  refine ⟨rfl, ?_⟩
  intro s args v _ hargs hv
  obtain ⟨e, he, hv⟩ := bind_eq_ok_iff.1 hv
  cases hv
  exact h _ _ _ e (hargs.value "string") (hargs.value "pattern") he

theorem Template.Confines.apply {t : Template} {s : Setting} {args : Arguments} {v : Value}
    (h : t.Confines) (hs : s.Confined) (hargs : args.Confined) (hv : t.apply s args = .ok v) :
    v.isConfined = true := by
  unfold Template.apply at hv
  split at hv
  · cases hv
  · exact h.expand s args v hs hargs hv

theorem Template.Confines.call {t : Template} {s : Setting} {args : List Value} {v : Value}
    (h : t.Confines) (hs : s.Confined) (hargs : allConfined args = true)
    (hv : t.call s args = .ok v) : v.isConfined = true := by
  unfold Template.call at hv
  split at hv
  next bound hbound =>
    have hbound := Signature.confined_bind h.signature hargs
      (fun n hn => absurd hn List.not_mem_nil) hbound
    exact h.apply hs hbound hv
  next => cases hv

theorem Rule.confines_patternSwitch (place : PatternPlace) {fixed regex : Template}
    (hfixed : fixed.Confines) (hregex : regex.Confines) :
    (Rule.patternSwitch place fixed regex).Confines := by
  refine ⟨⟨rfl, ?_⟩, rfl⟩
  intro s args v hs hargs hv
  have hall :
      allConfined [args.value "string", args.value "pattern", args.value "negate"] = true := by
    simp [allConfined, hargs.value]
  simp only [Rule.patternSwitch] at hv
  split at hv
  · exact hfixed.call hs hall hv
  · exact hregex.call hs hall hv

theorem Rule.confines_patternMatch (place : PatternPlace) : (Rule.patternMatch place).Confines := by
  refine Rule.confines_patternSwitch place ?_ ?_
  · exact Template.confines_pattern fun _ _ _ _ => isConfined_matchFixed
  · exact Template.confines_pattern fun _ _ _ _ => isConfined_matchRegex (by decide)

end SqlDialects
