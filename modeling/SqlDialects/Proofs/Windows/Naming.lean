-- SUMMARY: A window written by its name and one written in full agree: without named windows, an expression is written as if no window had a name.
import SqlDialects.Proofs.Rendering
import SqlDialects.Statement.Clause

/-!
# Named windows

A window that has a name is written by it where the dialect has a `WINDOW` clause to
define the name in, and in full elsewhere. Taking the names away from every window of
an expression therefore gives the text that a dialect without the clause has for it.
A name is all that is taken away, so the kinds of values and the frames stay what
they are, and with them the ways in which rendering can fail.
-/

namespace SqlDialects

/-- A dialect without a `WINDOW` clause, otherwise the same. -/
def Dialect.inlining (d : Dialect) : Dialect :=
  { d with capabilities := { d.capabilities with windowClause := false } }

/-! ## Taking names away -/

mutual

/-- A value whose windows have no names. -/
def Value.unnamed : Value → Value
  | .scalar s => .scalar s
  | .list items => .list (unnamedValues items)
  | .tuple items => .tuple (unnamedValues items)
  | .column name table => .column name table
  | .call name args named => .call name (unnamedValues args) (unnamedFields named)
  | .fixed pattern => .fixed pattern.unnamed
  | .sql e => .sql e.unnamed
  | .window w => .window w.unnamed

def unnamedValues : List Value → List Value
  | [] => []
  | v :: vs => v.unnamed :: unnamedValues vs

def unnamedFields : List (String × Value) → List (String × Value)
  | [] => []
  | (name, v) :: rest => (name, v.unnamed) :: unnamedFields rest

/-- An expression whose windows have no names, wherever they stand. -/
def Expr.unnamed : Expr → Expr
  | .literal v => .literal v.unnamed
  | .ident name table => .ident name table
  | .keyword text => .keyword text
  | .raw text => .raw text
  | .star table => .star table
  | .call name args distinct => .call name (unnamedAll args) distinct
  | .binary op left right => .binary op left.unnamed right.unnamed
  | .unary op operand => .unary op operand.unnamed
  | .suffixed operand op => .suffixed operand.unnamed op
  | .cast e typeName => .cast e.unnamed typeName
  | .paren e => .paren e.unnamed
  | .caseWhen whens none => .caseWhen (unnamedWhens whens) none
  | .caseWhen whens (some otherwise) => .caseWhen (unnamedWhens whens) (some otherwise.unnamed)
  | .group items => .group (unnamedAll items)
  | .ordered e descending => .ordered e.unnamed descending
  | .withinGroup call orderBy => .withinGroup call.unnamed (unnamedAll orderBy)
  | .over e w => .over e.unnamed w.unnamed
  | .stray v => .stray v.unnamed

def unnamedAll : List Expr → List Expr
  | [] => []
  | e :: es => e.unnamed :: unnamedAll es

def unnamedWhens : List (Expr × Expr) → List (Expr × Expr)
  | [] => []
  | (condition, result) :: rest => (condition.unnamed, result.unnamed) :: unnamedWhens rest

/-- A window without a name, and without names in its keys and its frame. -/
def Window.unnamed : Window → Window
  | ⟨partitionBy, orderBy, none, _⟩ => ⟨unnamedAll partitionBy, unnamedAll orderBy, none, none⟩
  | ⟨partitionBy, orderBy, some bounds, _⟩ =>
    ⟨unnamedAll partitionBy, unnamedAll orderBy, some (unnamedValues bounds), none⟩

end

/-! ## What stays -/

@[simp] theorem Expr.nodeName_unnamed (e : Expr) : e.unnamed.nodeName = e.nodeName := by
  cases e with
  | caseWhen whens otherwise => cases otherwise <;> rfl
  | _ => rfl

@[simp] theorem Value.kindName_unnamed (v : Value) : v.unnamed.kindName = v.kindName := by
  cases v with
  | sql e => exact e.nodeName_unnamed
  | _ => rfl

@[simp] theorem Expr.isBinary_unnamed (e : Expr) : e.unnamed.isBinary = e.isBinary := by
  cases e with
  | caseWhen whens otherwise => cases otherwise <;> rfl
  | _ => rfl

@[simp] theorem Expr.isOtherBinary_unnamed (op : String) (e : Expr) :
    e.unnamed.isOtherBinary op = e.isOtherBinary op := by
  cases e with
  | caseWhen whens otherwise => cases otherwise <;> rfl
  | _ => rfl

theorem Expr.unnamed_ne_paren {e : Expr} (h : ∀ inner, e ≠ .paren inner) :
    ∀ inner, e.unnamed ≠ .paren inner := by
  cases e with
  | paren e => exact absurd rfl (h e)
  | caseWhen whens otherwise => cases otherwise <;> exact nofun
  | _ => exact nofun

theorem Backend.literal_unnamed (backend : Backend) (v : Value) :
    backend.literal v.unnamed = backend.literal v := by
  cases v with
  | sql e => simp [Value.unnamed, literal, Value.kindName]
  | _ => rfl

/-- A column or a call is found equal to the current row, and no other value but a
    scalar is in an order with it, whatever is inside. -/
theorem boundText_unnamed (isStart : Bool) (v : Value) :
    boundText isStart v.unnamed = boundText isStart v := by
  cases v with
  | scalar s => rw [Value.unnamed]
  | column name table => rw [Value.unnamed]
  | call name args named => simp only [Value.unnamed, boundText, Value.same, ok_bind, if_true]
  | _ =>
    simp only [Value.unnamed, boundText, Value.same, Number.isAbove, Number.relates, Value.isHost,
      ok_bind, Bool.false_eq_true, if_false]
    rfl

theorem frameText_unnamed (bounds : List Value) :
    frameText (unnamedValues bounds) = frameText bounds := by
  match bounds with
  | [] => rfl
  | [_] => rfl
  | [start, stop] => simp [unnamedValues, frameText, boundText_unnamed]
  | _ :: _ :: _ :: _ => rfl

/-! ## Rendering -/

section

variable (d : Dialect)

theorem Window.renderUse_of_unnamed (partitionBy orderBy : List Expr)
    (frame : Option (List Value)) :
    Window.renderUse d ⟨partitionBy, orderBy, frame, none⟩ =
      Window.render d ⟨partitionBy, orderBy, frame, none⟩ := by
  simp [renderUse, render]

theorem Window.renderUse_inlining (w : Window) : w.renderUse d.inlining = w.render d.inlining := by
  obtain ⟨partitionBy, orderBy, frame, name⟩ := w
  have hd : d.inlining.capabilities.windowClause = false := rfl
  rw [renderUse, hd, Bool.false_and, if_neg Bool.false_ne_true]
  rfl

theorem Window.renderUse_of_name {w : Window} {name : String}
    (hd : d.capabilities.windowClause = true) (hname : w.name = some name) (hne : name ≠ "") :
    w.renderUse d = .ok (Identifier.escaped name) := by
  obtain ⟨partitionBy, orderBy, frame, _⟩ := w
  cases hname
  simp [renderUse, hd, hne]

mutual

/-- With no window named, the text is the one that a dialect without named windows has. -/
theorem Expr.render_unnamed (e : Expr) : e.unnamed.render d = e.render d.inlining := by
  match e with
  | .literal v =>
    rw [Expr.unnamed, Expr.render, Expr.render, Backend.literal_unnamed]
    rfl
  | .ident .. => rfl
  | .keyword _ => rfl
  | .raw _ => rfl
  | .star _ => rfl
  | .call name args distinct =>
    rw [Expr.unnamed, Expr.render, Expr.render, renderAll_unnamed args]
  | .binary op left right =>
    simp only [Expr.unnamed, Expr.render, Expr.render_unnamed left, Expr.render_unnamed right,
      Expr.isOtherBinary_unnamed, Expr.isBinary_unnamed]
  | .unary op operand =>
    simp only [Expr.unnamed, Expr.render, Expr.render_unnamed operand, Expr.isBinary_unnamed]
  | .suffixed operand op =>
    simp only [Expr.unnamed, Expr.render, Expr.render_unnamed operand, Expr.isBinary_unnamed]
  | .cast e typeName => rw [Expr.unnamed, Expr.render, Expr.render, Expr.render_unnamed e]
  | .paren e =>
    have ih := Expr.render_unnamed e
    by_cases hinner : ∃ inner, e = .paren inner
    · obtain ⟨inner, rfl⟩ := hinner
      exact ih
    · have hne : ∀ inner, e ≠ .paren inner := fun inner h => hinner ⟨inner, h⟩
      rw [Expr.unnamed, render_paren_of_ne (Expr.unnamed_ne_paren hne), render_paren_of_ne hne, ih]
  | .caseWhen whens none =>
    rw [Expr.unnamed, Expr.render, Expr.render, renderWhens_unnamed whens]
  | .caseWhen whens (some otherwise) =>
    rw [Expr.unnamed, Expr.render, Expr.render, renderWhens_unnamed whens,
      Expr.render_unnamed otherwise]
  | .group items => rw [Expr.unnamed, Expr.render, Expr.render, renderAll_unnamed items]
  | .ordered e descending => rw [Expr.unnamed, Expr.render, Expr.render, Expr.render_unnamed e]
  | .withinGroup call orderBy =>
    rw [Expr.unnamed, Expr.render, Expr.render, renderAll_unnamed orderBy,
      Expr.renderAggregate_unnamed call]
  | .over e w =>
    rw [Expr.unnamed, Expr.render, Expr.render, Expr.render_unnamed e, Window.renderUse_unnamed w]
  | .stray v => rw [Expr.unnamed, Expr.render, Expr.render, Value.kindName_unnamed]

theorem Expr.renderAggregate_unnamed (e : Expr) :
    e.unnamed.renderAggregate d = e.renderAggregate d.inlining := by
  match e with
  | .call name args distinct =>
    rw [Expr.unnamed, Expr.renderAggregate, Expr.renderAggregate, renderAll_unnamed args]
  | .stray v =>
    match v with
    | .call name args named =>
      rw [Expr.unnamed, Value.unnamed, Expr.renderAggregate, Expr.renderAggregate,
        checkValues_unnamed args]
    | .scalar _ => rfl
    | .list _ => rfl
    | .tuple _ => rfl
    | .column .. => rfl
    | .fixed _ => rfl
    | .sql _ => rfl
    | .window _ => rfl
  | .caseWhen whens none => rfl
  | .caseWhen whens (some _) => rfl
  | .literal _ | .ident .. | .keyword _ | .raw _ | .star _ | .binary .. | .unary .. | .suffixed ..
  | .cast .. | .paren _ | .group _ | .ordered .. | .withinGroup .. | .over .. => rfl

theorem checkValues_unnamed (vs : List Value) :
    checkValues d (unnamedValues vs) = checkValues d.inlining vs := by
  match vs with
  | [] => rfl
  | .sql e :: vs =>
    rw [unnamedValues, Value.unnamed, checkValues, checkValues, Expr.render_unnamed e,
      checkValues_unnamed vs]
  | .scalar _ :: _ | .list _ :: _ | .tuple _ :: _ | .column .. :: _ | .call .. :: _
  | .fixed _ :: _ | .window _ :: _ => rfl

theorem renderAll_unnamed (es : List Expr) :
    renderAll d (unnamedAll es) = renderAll d.inlining es := by
  match es with
  | [] => rfl
  | e :: es =>
    rw [unnamedAll, renderAll, renderAll, Expr.render_unnamed e, renderAll_unnamed es]

theorem renderWhens_unnamed (whens : List (Expr × Expr)) :
    renderWhens d (unnamedWhens whens) = renderWhens d.inlining whens := by
  match whens with
  | [] => rfl
  | (condition, result) :: rest =>
    rw [unnamedWhens, renderWhens, renderWhens, Expr.render_unnamed condition,
      Expr.render_unnamed result, renderWhens_unnamed rest]

theorem Window.renderUse_unnamed (w : Window) :
    w.unnamed.renderUse d = w.renderUse d.inlining := by
  match w with
  | ⟨partitionBy, orderBy, none, name⟩ =>
    rw [Window.unnamed, Window.renderUse_of_unnamed, Window.renderUse_inlining, Window.render,
      Window.render, renderAll_unnamed partitionBy, renderAll_unnamed orderBy]
  | ⟨partitionBy, orderBy, some bounds, name⟩ =>
    rw [Window.unnamed, Window.renderUse_of_unnamed, Window.renderUse_inlining, Window.render,
      Window.render, renderAll_unnamed partitionBy, renderAll_unnamed orderBy,
      Option.mapM_some, Option.mapM_some, frameText_unnamed]

end

end

/-! ## Agreement -/

/-- The clause that defines a name for a window. -/
theorem windowClause_single {d : Dialect} (hd : d.capabilities.windowClause = true)
    (name : String) (w : Window) :
    windowClause d [(name, w)] = do
      let s ← w.render d
      return some
        { keyword := "WINDOW", items := [.raw (Identifier.escaped name ++ " AS " ++ s)] } := by
  have htable : NameTable.ofList [(name, w)] = [(name, w)] := rfl
  unfold windowClause
  rw [htable]
  simp [hd]

theorem windowClause_inlining (d : Dialect) (windows : List (String × Window)) :
    windowClause d.inlining windows = .ok none := by
  unfold windowClause
  split
  · rfl
  · rfl

/-- Windows written by their names and windows written in full agree. Without a `WINDOW`
    clause an expression is written as with the clause once its windows have no names.
    With the clause, a window with a name is written by the name, escaped, which the
    clause defines as the window written in full; without, there is no clause. -/
theorem render_inlining {d : Dialect} (hd : d.capabilities.windowClause = true) :
    (∀ e : Expr, e.render d.inlining = e.unnamed.render d) ∧
      (∀ (e : Expr) (w : Window) (name : String), w.name = some name → name ≠ "" →
        ((Expr.over e w).render d = do
          let s ← e.render d
          return s ++ " OVER " ++ Identifier.escaped name) ∧
        windowClause d [(name, w)] = do
          let s ← w.render d
          return some
            { keyword := "WINDOW", items := [.raw (Identifier.escaped name ++ " AS " ++ s)] }) ∧
      ∀ windows, windowClause d.inlining windows = .ok none := by
  refine ⟨fun e => (e.render_unnamed d).symm, fun e w name hname hne => ⟨?_, ?_⟩,
    windowClause_inlining d⟩
  · simp only [Expr.render, Window.renderUse_of_name d hd hname hne, ok_bind]
  · exact windowClause_single hd name w

/-- A rank over a named window that is ordered by a sum over another one. -/
def rankBySum : Expr :=
  .over (.call "RANK" [] false)
    { orderBy := [.over (.call "SUM" [.ident "x" none] false)
        { partitionBy := [.ident "g" none], name := some "v" }]
      name := some "w" }

theorem render_inlining_rankBySum :
    (Dialect.standard .postgres).capabilities.windowClause = true ∧
      rankBySum.render (Dialect.standard .postgres).inlining =
        .ok "RANK() OVER (ORDER BY SUM(x) OVER (PARTITION BY g))" ∧
      rankBySum.render (.standard .postgres) = .ok "RANK() OVER w" := by
  have hagree := render_inlining (d := .standard .postgres) rfl
  refine ⟨rfl, ?_, ?_⟩
  · rw [hagree.1 rankBySum]
    rfl
  · rw [rankBySum, (hagree.2.1 _ _ "w" rfl (by decide)).1]
    rfl

end SqlDialects
