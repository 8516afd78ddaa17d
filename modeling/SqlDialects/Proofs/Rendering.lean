-- SUMMARY: When lists of expressions and the branches of a case distinction have texts, and what the text of nested parentheses is.
import SqlDialects.Proofs.Lists
import SqlDialects.Render

/-!
# Rendering lists and parentheses

A list of expressions has texts exactly when each of its expressions has one, and the
branches of a case distinction have texts exactly when both sides of each have one.
-/

namespace SqlDialects

variable {d : Dialect}

/-! ## Lists and branches -/

theorem renderAll_eq_mapM (d : Dialect) (es : List Expr) :
    renderAll d es = es.mapM (Expr.render d) := by
  induction es with
  | nil => rfl
  | cons e es ih => rw [renderAll, ih, List.mapM_cons]

theorem renderAll_eq_ok_iff {es : List Expr} {ss : List String} :
    renderAll d es = .ok ss ↔ List.Forall₂ (fun e s => e.render d = .ok s) es ss := by
  rw [renderAll_eq_mapM, mapM_eq_ok_iff]

/-- The text of a branch of a case distinction. -/
def IsBranch (d : Dialect) (when : Expr × Expr) (branch : String) : Prop :=
  ∃ c r, when.1.render d = .ok c ∧ when.2.render d = .ok r ∧
    "WHEN " ++ c ++ " THEN " ++ r = branch

theorem renderWhens_eq_ok_iff {whens : List (Expr × Expr)} {branches : List String} :
    renderWhens d whens = .ok branches ↔ List.Forall₂ (IsBranch d) whens branches := by
  induction whens generalizing branches with
  | nil => simp [renderWhens, eq_comm]
  | cons when whens ih =>
    simp only [renderWhens, bind_eq_ok_iff, pure_eq_ok_iff, List.forall₂_cons_left_iff, ih]
    constructor
    · rintro ⟨c, hc, r, hr, rest, hrest, rfl⟩
      exact ⟨_, rest, ⟨c, r, hc, hr, rfl⟩, hrest, rfl⟩
    · rintro ⟨_, rest, ⟨c, r, hc, hr, rfl⟩, hrest, rfl⟩
      exact ⟨c, hc, r, hr, rest, hrest, rfl⟩

theorem exists_renderAll {es : List Expr} (h : ∀ e ∈ es, ∃ s, e.render d = .ok s) :
    ∃ ss, renderAll d es = .ok ss := by
  simp only [renderAll_eq_ok_iff]
  exact exists_forall₂ h

theorem exists_renderWhens {whens : List (Expr × Expr)}
    (hconditions : ∀ when ∈ whens, ∃ s, when.1.render d = .ok s)
    (hresults : ∀ when ∈ whens, ∃ s, when.2.render d = .ok s) :
    ∃ branches, renderWhens d whens = .ok branches := by
  simp only [renderWhens_eq_ok_iff]
  refine exists_forall₂ fun when hwhen => ?_
  obtain ⟨c, hc⟩ := hconditions when hwhen
  obtain ⟨r, hr⟩ := hresults when hwhen
  exact ⟨_, c, r, hc, hr, rfl⟩

/-! ## Parentheses -/

/-- Nested parentheses are written once, around the innermost expression. -/
theorem render_paren_of_ne {e : Expr} (h : ∀ inner, e ≠ .paren inner) :
    (Expr.paren e).render d = do return parenthesised (← e.render d) := by
  rw [Expr.render]
  exact fun inner => h inner

theorem exists_render_paren_iff {e : Expr} :
    (∃ s, (Expr.paren e).render d = .ok s) ↔ ∃ s, e.render d = .ok s := by
  by_cases hinner : ∃ inner, e = .paren inner
  · obtain ⟨inner, rfl⟩ := hinner
    exact Iff.rfl
  · rw [render_paren_of_ne fun inner heq => hinner ⟨inner, heq⟩]
    simp only [bind_eq_ok_iff]
    constructor
    · rintro ⟨_, s, hs, _⟩
      exact ⟨s, hs⟩
    · rintro ⟨s, hs⟩
      exact ⟨_, s, hs, rfl⟩

end SqlDialects
