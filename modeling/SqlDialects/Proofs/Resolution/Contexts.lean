-- SUMMARY: What translates in scalar context translates to the same expression in every context and over every window.
import SqlDialects.Proofs.Resolution.Tables
import SqlDialects.Proofs.Traced

/-!
# Scalar translations in other contexts

No name of a scalar row is the name of an aggregate or a window row, so a name that
is resolved in scalar context is resolved to the same rule in every context. No
scalar rule looks at the context or at the window. By induction on the tree, a
translation in scalar context is the translation in every context over every window.
-/

namespace SqlDialects

/-! ## Rules that do not look around -/

/-- A setting in another context and over another window. -/
def Setting.moved (s : Setting) (c : Context) (w : Window) : Setting :=
  { s with context := c, window := w }

/-- A template that looks neither at the context nor at the window. -/
def Template.IgnoresContext (t : Template) : Prop :=
  ∀ s c w args, t.expand (s.moved c w) args = t.expand s args

def RuleSource.IgnoresContext (source : RuleSource) : Prop :=
  ∀ name, (source.named name).template.IgnoresContext

theorem Rule.build_moved {r : Rule} (h : r.template.IgnoresContext) (s : Setting) (c : Context)
    (w : Window) (args : List Value) (named : List (String × Value)) :
    r.build (s.moved c w) args named = r.build s args named :=
  Rule.build_congr (show (s.moved c w).backend = s.backend from rfl) (h s c w) args named

/-! ## Scalar rows -/

theorem General.ignoresContext_scalarRules : ∀ row ∈ scalarRules, row.2.IgnoresContext := by
  simp only [scalarRules, List.forall_mem_cons]
  and_intros
  all_goals first | exact fun _ _ _ _ _ => rfl | exact List.forall_mem_nil _

/-- Only the choice of how a pattern is matched hands its setting on. -/
theorem Postgres.ignoresContext_scalarRules : ∀ row ∈ scalarRules, row.2.IgnoresContext := by
  simp only [scalarRules, List.forall_mem_append, List.forall_mem_cons, List.forall_mem_map]
  and_intros
  all_goals
    first
    | exact fun _ _ _ _ _ => rfl
    | exact fun _ _ _ _ args => Rule.expand_patternMatch_congr _ args
    | exact List.forall_mem_nil _
    | exact fun _ _ _ _ _ _ _ => rfl

namespace Backend

variable {backend : Backend} {name : String} {c : Context} {rule : Rule}

theorem ignoresContext_rows_scalar : ∀ row ∈ backend.rows .scalar, row.2.IgnoresContext := by
  cases backend with
  | ansi => exact General.ignoresContext_scalarRules
  | postgres =>
    exact List.forall_mem_append.2
      ⟨Postgres.ignoresContext_scalarRules, General.ignoresContext_scalarRules⟩

def rowNames (backend : Backend) (c : Context) : List String := (backend.rows c).map (·.1)

/-- No aggregate or window row, a backend's own or a general one, takes the name of a
    scalar row. -/
theorem not_mem_rowNames_of_scalar (hc : c ≠ .scalar) :
    ∀ name ∈ backend.rowNames .scalar, name ∉ backend.rowNames c := by
  cases c with
  | scalar => exact absurd rfl hc
  | aggregate => cases backend <;> decide +kernel
  | window => cases backend <;> decide +kernel

theorem mem_rowNames_of_get? (h : (backend.variant.select c).get? name = some rule) :
    name ∈ backend.rowNames c := by
  obtain ⟨source, hsource, _⟩ := exists_row_of_get? h
  exact List.mem_map.2 ⟨_, hsource, rfl⟩

theorem get?_of_resolve_scalar (h : backend.variant.resolve name .scalar = .ok rule) :
    backend.variant.scalar.get? name = some rule := by
  unfold Variant.resolve at h
  split at h
  next hrule =>
    cases h
    exact hrule
  next hnone =>
    rw [show backend.variant.scalar.get? name = none from hnone] at h
    cases h

/-- A name that is resolved in scalar context is resolved to the same rule in every
    context. -/
theorem resolve_of_scalar (h : backend.variant.resolve name .scalar = .ok rule) (c : Context) :
    backend.variant.resolve name c = .ok rule := by
  have hscalar := get?_of_resolve_scalar h
  by_cases hc : c = .scalar
  · exact hc ▸ h
  · cases hown : (backend.variant.select c).get? name with
    | none => simp only [Variant.resolve, hown, hscalar]
    | some other =>
      have hname := mem_rowNames_of_get? (c := .scalar) hscalar
      exact absurd (mem_rowNames_of_get? hown) (not_mem_rowNames_of_scalar hc name hname)

theorem ignoresContext_of_resolve_scalar (h : backend.variant.resolve name .scalar = .ok rule) :
    rule.template.IgnoresContext := by
  obtain ⟨source, hsource, rfl⟩ := exists_row_of_get? (c := .scalar) (get?_of_resolve_scalar h)
  exact ignoresContext_rows_scalar _ hsource name

end Backend

/-! ## Translation -/

namespace Translator

variable {t : Translator} {c : Context} {w w' : Window}

/-- An argument translated in scalar context is translated alike in every context. -/
theorem argument_of_scalar {v v' : Value} (h : (t.argument .scalar w' v).outcome = .ok v') :
    (t.argument c w v).outcome = .ok v' := by
  induction v using Value.tree_induction generalizing v' with
  | call name args named ihargs ihnamed =>
    simp only [argument_call, Traced.outcome_bind_eq_ok_iff, outcome_resolve] at h ⊢
    obtain ⟨rule, hrule, args', hargs, named', hnamed, e, he, h⟩ := h
    have hbuild := Rule.build_moved (Backend.ignoresContext_of_resolve_scalar hrule)
      (t.setting .scalar w') c w args' named'
    have hargs' := forall₂_imp_of_mem (outcome_arguments_eq_ok_iff.1 hargs) fun v hv _ =>
      ihargs v hv
    have hnamed' := forall₂_imp_of_mem (outcome_namedArguments_eq_ok_iff.1 hnamed)
      fun n hn _ => And.imp_right (ihnamed n (NameTable.mem_of_mem_ofList hn))
    exact ⟨rule, Backend.resolve_of_scalar hrule c, args', outcome_arguments_eq_ok_iff.2 hargs',
      named', outcome_namedArguments_eq_ok_iff.2 hnamed', e, hbuild.trans he, h⟩
  | fixed pattern ih =>
    simp only [argument, Traced.outcome_bind_eq_ok_iff] at h ⊢
    obtain ⟨pattern', hpattern, h⟩ := h
    exact ⟨pattern', ih hpattern, h⟩
  | list items ih | tuple items ih =>
    simp only [argument, Traced.outcome_bind_eq_ok_iff] at h ⊢
    obtain ⟨items', hitems, h⟩ := h
    have hitems' := forall₂_imp_of_mem (outcome_arguments_eq_ok_iff.1 hitems) fun v hv _ => ih v hv
    exact ⟨items', outcome_arguments_eq_ok_iff.2 hitems', h⟩
  | column => exact h
  | scalar => exact h
  | sql => exact h
  | window => exact h

/-- A host expression that translates in scalar context, over whatever window,
    translates to the same expression in every context and over every window. -/
theorem translate_of_scalar {v : Value} {e : Expr}
    (h : (t.translate (.ok .scalar) w' v).outcome = .ok e) (c : Context) (w : Window) :
    (t.translate (.ok c) w v).outcome = .ok e := by
  cases v with
  | call name args named =>
    rw [translate_call_eq_ok_iff] at h ⊢
    exact argument_of_scalar h
  | column => exact h
  | fixed => exact h
  | sql => exact h
  | scalar => exact h
  | list => exact h
  | tuple => exact h
  | window => exact h

/-- A lower-cased column that starts with fixed text, over a window as in scalar context. -/
theorem translate_of_scalar_starts :
    ∃ e, (translate ⟨.standard .postgres, {}⟩ (.ok .scalar) {} (.call "str_starts"
        [.call "tolower" [.column "x" none] [], .fixed (.text "a%")] [])).outcome = .ok e ∧
      (translate ⟨.standard .postgres, {}⟩ (.ok .window) { partitionBy := [.ident "g" none] }
        (.call "str_starts"
          [.call "tolower" [.column "x" none] [], .fixed (.text "a%")] [])).outcome = .ok e := by
  have hscalar : (translate ⟨.standard .postgres, {}⟩ (.ok .scalar) {} (.call "str_starts"
      [.call "tolower" [.column "x" none] [], .fixed (.text "a%")] [])).outcome =
        .ok (.binary "LIKE" (.call "LOWER" [.ident "x" none] false)
          (.literal (.text "a\\%%"))) := rfl
  exact ⟨_, hscalar, translate_of_scalar hscalar _ _⟩

end Translator

end SqlDialects
