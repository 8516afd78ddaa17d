-- SUMMARY: What window functions make of the caller's window: the partition stays, and a name stays only with the whole window.
import SqlDialects.Proofs.Binding
import SqlDialects.Proofs.Resolution.Tables

/-!
# Windows of window functions

A window function is evaluated over a window made of the caller's: some drop the
frame, some set one, and some bring an order of their own. The rows are those of the
caller's partition all the same. A name stands for a whole window, so it must not be
left on a window that was changed: written by its name, the window would be the
unchanged one.
-/

namespace SqlDialects

/-- One window is made of another without changing its partition, and is named only
    when nothing is changed. -/
structure Window.Keeps (kept w : Window) : Prop where
  partitionBy : kept.partitionBy = w.partitionBy
  name : kept.name = none ∨ kept = w

/-- An expression over a window that keeps to the caller's. -/
def Expr.IsOver (w : Window) (e : Expr) : Prop :=
  ∃ inner kept, e = .over inner kept ∧ kept.Keeps w

/-! ## Windows -/

namespace Window

theorem keeps_self (w : Window) : w.Keeps w := ⟨rfl, .inr rfl⟩

/-- Order and frame may be changed in a window without a name. -/
theorem keeps_unnamed (w : Window) (orderBy : List Expr) (frame : Option (List Value)) :
    Keeps { partitionBy := w.partitionBy, orderBy, frame } w :=
  ⟨rfl, .inl rfl⟩

theorem keeps_forAggregate (w : Window) : w.forAggregate.Keeps w := by
  unfold forAggregate
  split
  · exact w.keeps_self
  · exact w.keeps_unnamed [] none

end Window

/-! ## Templates -/

namespace Template

/-- Whatever a template makes is over a window that keeps to the setting's. -/
def KeepsWindow (t : Template) : Prop :=
  ∀ (s : Setting) (args : Arguments) (e : Expr),
    t.expand s args = .ok (.sql e) → e.IsOver s.window

/-- Without a value to rank by, a rank is over the caller's window as it is. -/
theorem keepsWindow_rank (f : String) : (rank f).KeepsWindow := by
  intro s args e he
  cases he
  dsimp only
  split
  next => exact ⟨_, _, rfl, s.window.keeps_self⟩
  next => exact ⟨_, _, rfl, s.window.keeps_unnamed _ none⟩

theorem keepsWindow_refused (name : String) : (refused name).KeepsWindow := by
  intro s args e he
  cases he

end Template

/-! ## Rows -/

theorem General.keepsWindow_windowRules :
    ∀ row ∈ windowRules, (row.2.named row.1).template.KeepsWindow := by
  simp only [windowRules, List.forall_mem_cons]
  and_intros
  all_goals
    first
    | exact List.forall_mem_nil _
    | exact Template.keepsWindow_rank _
    | intro s args e he
      cases he
      first
      | exact ⟨_, _, rfl, s.window.keeps_forAggregate⟩
      | exact ⟨_, _, rfl, s.window.keeps_unnamed _ _⟩

theorem Postgres.keepsWindow_windowRules :
    ∀ row ∈ windowRules, (row.2.named row.1).template.KeepsWindow := by
  simp only [windowRules, List.forall_mem_cons]
  and_intros
  all_goals
    first
    | exact List.forall_mem_nil _
    | exact Template.keepsWindow_refused _
    | intro s args e he
      cases he
      first
      | exact ⟨_, _, rfl, s.window.keeps_forAggregate⟩
      | exact ⟨_, _, rfl, s.window.keeps_unnamed _ _⟩

/-- Every registry in which a backend looks window functions up holds such templates. -/
theorem Backend.keepsWindow_of_lookup {backend : Backend} {registry : Registry}
    (hregistry : registry ∈ backend.variant.window) {name : String} {rule : Rule}
    (hrule : registry.rules.lookup name = some rule) : rule.template.KeepsWindow := by
  obtain ⟨source, hsource, rfl⟩ := exists_row_of_lookup (c := .window) hregistry hrule
  cases backend with
  | ansi => exact General.keepsWindow_windowRules _ hsource
  | postgres =>
    rcases List.mem_append.1 hsource with hsource | hsource
    · exact Postgres.keepsWindow_windowRules _ hsource
    · exact General.keepsWindow_windowRules _ hsource

/-! ## Building -/

/-- Whatever a window function builds is over a window of the caller's partition, and
    that window has no name unless it is the caller's in every part. -/
theorem Rule.exists_over_of_build {backend : Backend} {registry : Registry}
    (hregistry : registry ∈ backend.variant.window) {name : String} {rule : Rule}
    (hrule : registry.rules.lookup name = some rule) {s : Setting} {args : List Value}
    {named : List (String × Value)} {e : Expr} (he : rule.build s args named = .ok e) :
    ∃ inner kept, e = .over inner kept ∧ kept.partitionBy = s.window.partitionBy ∧
      (kept.name = none ∨ kept = s.window) := by
  obtain ⟨_, validated, _, _, hexpand⟩ := exists_of_build he
  obtain ⟨inner, kept, rfl, hkept⟩ :=
    Backend.keepsWindow_of_lookup hregistry hrule s validated e hexpand
  exact ⟨inner, kept, rfl, hkept.partitionBy, hkept.name⟩

/-- A sum over a named window without a frame drops the order, and the name with it. -/
theorem Rule.exists_over_of_build_sum :
    ∃ inner kept, Expr.over (.callOf "SUM" [.sql (.ident "x" none)])
        { partitionBy := [.ident "g" none] } = .over inner kept ∧
      kept.partitionBy = [.ident "g" none] ∧ (kept.name = none ∨ kept =
        { partitionBy := [.ident "g" none], orderBy := [.ident "t" none], name := some "w" }) := by
  have hregistry : Registry.frozenOf "base_window" none General.windowRules ∈
      Backend.postgres.variant.window := List.mem_cons_of_mem _ List.mem_cons_self
  have hrule : (Registry.frozenOf "base_window" none General.windowRules).rules.lookup "sum" =
      some { aggregateOver "SUM" with name := "sum" } := rfl
  have hbuild : Rule.build { aggregateOver "SUM" with name := "sum" }
      { backend := .postgres
        context := .window
        window :=
          { partitionBy := [.ident "g" none], orderBy := [.ident "t" none], name := some "w" } }
      [.sql (.ident "x" none)] [] =
        .ok (.over (.callOf "SUM" [.sql (.ident "x" none)]) { partitionBy := [.ident "g" none] }) :=
    rfl
  exact Rule.exists_over_of_build hregistry hrule hbuild

end SqlDialects
