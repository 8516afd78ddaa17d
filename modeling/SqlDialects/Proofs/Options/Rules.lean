-- SUMMARY: No function but the day of the week looks at the options, so what calls no other is translated alike under all of them.
import SqlDialects.Proofs.Resolution.Order

/-!
# Translation under other options

Only the rule for the day of the week reads an option when it is expanded. By induction
on the tree, an argument in which that function is not called is translated alike under
all options.
-/

namespace SqlDialects

/-! ## Rules that do not look at options -/

/-- A setting under other options. -/
def Setting.under (s : Setting) (options : Options) : Setting := { s with options }

/-- A template that does not look at the options. -/
def Template.IgnoresOptions (t : Template) : Prop :=
  ∀ s options args, t.expand (s.under options) args = t.expand s args

theorem Rule.build_under {r : Rule} (h : r.template.IgnoresOptions) (s : Setting)
    (options : Options) (args : List Value) (named : List (String × Value)) :
    r.build (s.under options) args named = r.build s args named :=
  Rule.build_congr (show (s.under options).backend = s.backend from rfl) (h s options) args named

/-! ## Rows -/

theorem General.ignoresOptions_rows (c : Context) :
    ∀ row ∈ General.rows c, row.1 ≠ "wday" → (row.2.named row.1).template.IgnoresOptions := by
  cases c
  all_goals
    simp only [rows, scalarRules, aggregateRules, windowRules, List.forall_mem_cons]
    and_intros
    all_goals first | exact fun _ _ _ _ => rfl | exact List.forall_mem_nil _

theorem Postgres.ignoresOptions_rows (c : Context) :
    ∀ row ∈ Postgres.rows c, row.1 ≠ "wday" → (row.2.named row.1).template.IgnoresOptions := by
  cases c
  all_goals
    simp only [rows, scalarRules, aggregateRules, windowRules, List.forall_mem_append,
      List.forall_mem_cons, List.forall_mem_map]
    and_intros
    all_goals
      first
      | exact fun _ _ _ _ => rfl
      | exact fun _ _ _ args => Rule.expand_patternMatch_congr _ args
      | exact fun h => absurd rfl h
      | exact List.forall_mem_nil _
      | exact fun _ _ _ _ _ _ => rfl

theorem Backend.ignoresOptions_of_resolve {backend : Backend} {name : String} {c : Context}
    {rule : Rule} (h : backend.variant.resolve name c = .ok rule) (hname : name ≠ "wday") :
    rule.template.IgnoresOptions :=
  forall_of_resolve (P := fun name rule => name ≠ "wday" → rule.template.IgnoresOptions)
    General.ignoresOptions_rows Postgres.ignoresOptions_rows h hname

/-! ## Translation -/

namespace Translator

/-- A translator under other options. -/
def under (t : Translator) (options : Options) : Translator := { t with options }

variable {t : Translator} {c : Context} {w : Window} {options : Options}

/-- An argument in which no day of the week is asked for is translated alike under all
    options. -/
theorem outcome_argument_under {v : Value} (h : "wday" ∉ v.calls) :
    ((t.under options).argument c w v).outcome = (t.argument c w v).outcome := by
  induction v using Value.tree_induction with
  | call name args named ihargs ihnamed =>
    simp only [Value.calls_call, List.mem_cons, List.mem_append, List.mem_flatMap, not_or,
      not_exists, not_and] at h
    obtain ⟨hname, hargs, hnamed⟩ := h
    have hargs := outcome_arguments_congr fun v hv => ihargs v hv (hargs v hv)
    have hnamed := outcome_namedArguments_congr fun n hn =>
      ihnamed n (NameTable.mem_of_mem_ofList hn) (hnamed n hn)
    simp only [argument_call, Traced.outcome_bind, outcome_resolve, hargs, hnamed]
    refine bind_congr_ok fun rule hrule => bind_congr_ok fun args' _ =>
      bind_congr_ok fun named' _ => ?_
    have hbuild := Rule.build_under (Backend.ignoresOptions_of_resolve hrule (Ne.symm hname))
      (t.setting c w) options args' named'
    rw [Traced.ofExcept, Traced.ofExcept]
    exact congrArg (fun outcome => Except.bind outcome _) hbuild
  | fixed pattern ih =>
    have hpattern : "wday" ∉ pattern.calls := h
    simp only [argument, Traced.outcome_bind, ih hpattern]
  | list items ih | tuple items ih =>
    simp only [Value.calls, callsOf_eq_flatMap, List.mem_flatMap, not_exists, not_and] at h
    have hitems := outcome_arguments_congr fun v hv => ih v hv (h v hv)
    simp only [argument, Traced.outcome_bind, hitems]
  | column => rfl
  | scalar => rfl
  | sql => rfl
  | window => rfl

end Translator

end SqlDialects
