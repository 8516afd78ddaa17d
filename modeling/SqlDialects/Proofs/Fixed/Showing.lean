-- SUMMARY: Where a pattern marked as fixed shows in a value or an expression, there is no SQL text.
import SqlDialects.Proofs.Steps
import SqlDialects.Render

/-!
# Fixed patterns that show

A pattern marked as fixed *shows* in an expression when it stands in a literal that
has to be written. Only scalars are written as literals, so an expression in which a
fixed pattern shows has no text.
-/

namespace SqlDialects

/-! ## Values and expressions -/

mutual

def Value.showsFixed : Value → Bool
  | .fixed _ => true
  | .list items => anyShowFixed items
  | .tuple items => anyShowFixed items
  | .sql e => e.showsFixed
  | _ => false

def anyShowFixed : List Value → Bool
  | [] => false
  | v :: vs => v.showsFixed || anyShowFixed vs

def Expr.showsFixed : Expr → Bool
  | .literal v => v.showsFixed
  | .call _ args _ => anyExprsShowFixed args
  | .binary _ left right => left.showsFixed || right.showsFixed
  | .unary _ operand => operand.showsFixed
  | .suffixed operand _ => operand.showsFixed
  | .cast e _ => e.showsFixed
  | .paren e => e.showsFixed
  | .caseWhen whens none => anyWhensShowFixed whens
  | .caseWhen whens (some otherwise) => anyWhensShowFixed whens || otherwise.showsFixed
  | .group items => anyExprsShowFixed items
  | .ordered e _ => e.showsFixed
  | .withinGroup call orderBy => call.showsFixed || anyExprsShowFixed orderBy
  | .over e w => e.showsFixed || w.showsFixed
  | _ => false

def anyExprsShowFixed : List Expr → Bool
  | [] => false
  | e :: es => e.showsFixed || anyExprsShowFixed es

def anyWhensShowFixed : List (Expr × Expr) → Bool
  | [] => false
  | (condition, result) :: rest =>
    condition.showsFixed || result.showsFixed || anyWhensShowFixed rest

/-- In a window that may be written by its name alone, nothing need show. -/
def Window.showsFixed : Window → Bool
  | ⟨partitionBy, orderBy, _, none⟩ => anyExprsShowFixed partitionBy || anyExprsShowFixed orderBy
  | ⟨_, _, _, some _⟩ => false

end

attribute [simp] Value.showsFixed anyShowFixed Expr.showsFixed anyExprsShowFixed
  anyWhensShowFixed Window.showsFixed

theorem anyShowFixed_iff {vs : List Value} :
    anyShowFixed vs = true ↔ ∃ v ∈ vs, v.showsFixed = true := by
  induction vs with
  | nil => simp
  | cons v vs ih => simp [ih]

/-! ## Builders -/

@[simp] theorem Value.showsFixed_toExpr (v : Value) : v.toExpr.showsFixed = v.showsFixed := by
  cases v <;> rfl

/-- What a value is when translating shows the same. -/
@[simp] theorem Value.showsFixed_staticValue (v : Value) :
    v.staticValue.showsFixed = v.showsFixed := by
  cases v with
  | sql e => cases e <;> rfl
  | _ => rfl

@[simp] theorem anyExprsShowFixed_map_toExpr (vs : List Value) :
    anyExprsShowFixed (vs.map Value.toExpr) = anyShowFixed vs := by
  induction vs with
  | nil => rfl
  | cons v vs ih => simp [ih]

namespace Expr

@[simp] theorem showsFixed_callOf (name : String) (args : List Value) :
    (callOf name args).showsFixed = anyShowFixed args := by
  simp [callOf]

@[simp] theorem showsFixed_binaryOf (op : String) (left right : Value) :
    (binaryOf op left right).showsFixed = (left.showsFixed || right.showsFixed) := by
  simp [binaryOf]

@[simp] theorem showsFixed_extract (part : String) (v : Value) :
    (extract part v).showsFixed = v.showsFixed := by
  simp [extract]

@[simp] theorem showsFixed_negate (v : Value) : (negate v).showsFixed = v.showsFixed := by
  simp [negate]

end Expr

/-! ## Rendering -/

section

variable {d : Dialect}

theorem Backend.showsFixed_of_literal {backend : Backend} {v : Value} {s : String}
    (h : backend.literal v = .ok s) : v.showsFixed = false := by
  cases v with
  | scalar => rfl
  | _ => cases h

mutual

/-- What has a text shows no fixed pattern. -/
theorem Expr.showsFixed_of_render : ∀ {e : Expr} {s : String}, e.render d = .ok s →
    e.showsFixed = false
  | .literal v, s, h => Backend.showsFixed_of_literal h
  | .ident .., _, _ => rfl
  | .keyword _, _, _ => rfl
  | .raw _, _, _ => rfl
  | .star _, _, _ => rfl
  | .call name args distinct, s, h => by
    obtain ⟨_, hargs, _⟩ := bind_eq_ok_iff.1 h
    exact anyExprsShowFixed_of_renderAll hargs
  | .binary op left right, s, h => by
    obtain ⟨_, hleft, h⟩ := bind_eq_ok_iff.1 h
    obtain ⟨_, hright, _⟩ := bind_eq_ok_iff.1 h
    rw [Expr.showsFixed, Expr.showsFixed_of_render hleft, Expr.showsFixed_of_render hright]
    rfl
  | .unary op operand, s, h => by
    obtain ⟨_, hoperand, _⟩ := bind_eq_ok_iff.1 h
    rw [Expr.showsFixed, Expr.showsFixed_of_render hoperand]
  | .suffixed operand op, s, h => by
    obtain ⟨_, hoperand, _⟩ := bind_eq_ok_iff.1 h
    rw [Expr.showsFixed, Expr.showsFixed_of_render hoperand]
  | .cast e typeName, s, h => by
    obtain ⟨_, he, _⟩ := bind_eq_ok_iff.1 h
    rw [Expr.showsFixed, Expr.showsFixed_of_render he]
  | .paren e, s, h => by
    -- parentheses in parentheses are written as the inner ones
    have inner {s : String} (he : e.render d = .ok s) := Expr.showsFixed_of_render he
    rw [Expr.showsFixed]
    cases e with
    | paren e' => exact inner h
    | _ =>
      obtain ⟨_, he, _⟩ := bind_eq_ok_iff.1 h
      exact inner he
  | .caseWhen whens none, s, h => by
    obtain ⟨_, hwhens, _⟩ := bind_eq_ok_iff.1 h
    exact anyWhensShowFixed_of_renderWhens hwhens
  | .caseWhen whens (some otherwise), s, h => by
    obtain ⟨_, hwhens, h⟩ := bind_eq_ok_iff.1 h
    obtain ⟨_, hotherwise, _⟩ := bind_eq_ok_iff.1 h
    rw [Expr.showsFixed, anyWhensShowFixed_of_renderWhens hwhens,
      Expr.showsFixed_of_render hotherwise]
    rfl
  | .group items, s, h => by
    obtain ⟨_, hitems, _⟩ := bind_eq_ok_iff.1 h
    exact anyExprsShowFixed_of_renderAll hitems
  | .ordered e descending, s, h => by
    obtain ⟨_, he, _⟩ := bind_eq_ok_iff.1 h
    rw [Expr.showsFixed, Expr.showsFixed_of_render he]
  | .withinGroup call orderBy, s, h => by
    obtain ⟨_, horder, h⟩ := bind_eq_ok_iff.1 h
    obtain ⟨_, hcall, _⟩ := bind_eq_ok_iff.1 h
    rw [Expr.showsFixed, Expr.showsFixed_of_renderAggregate hcall,
      anyExprsShowFixed_of_renderAll horder]
    rfl
  | .over e w, s, h => by
    obtain ⟨_, he, h⟩ := bind_eq_ok_iff.1 h
    obtain ⟨_, hw, _⟩ := bind_eq_ok_iff.1 h
    rw [Expr.showsFixed, Expr.showsFixed_of_render he, Window.showsFixed_of_renderUse hw]
    rfl
  | .stray _, _, _ => rfl

theorem Expr.showsFixed_of_renderAggregate : ∀ {e : Expr} {s : String},
    e.renderAggregate d = .ok s → e.showsFixed = false
  | .call name args distinct, s, h => by
    obtain ⟨_, hargs, _⟩ := bind_eq_ok_iff.1 h
    exact anyExprsShowFixed_of_renderAll hargs
  | .stray _, _, _ => rfl
  | .literal _, _, h => by cases h
  | .ident .., _, _ => rfl
  | .keyword _, _, _ => rfl
  | .raw _, _, _ => rfl
  | .star _, _, _ => rfl
  | .binary .., _, h => by cases h
  | .unary .., _, h => by cases h
  | .suffixed .., _, h => by cases h
  | .cast .., _, h => by cases h
  | .paren _, _, h => by cases h
  | .caseWhen .., _, h => by cases h
  | .group _, _, h => by cases h
  | .ordered .., _, h => by cases h
  | .withinGroup .., _, h => by cases h
  | .over .., _, h => by cases h

theorem anyExprsShowFixed_of_renderAll : ∀ {es : List Expr} {ss : List String},
    renderAll d es = .ok ss → anyExprsShowFixed es = false
  | [], _, _ => rfl
  | e :: es, ss, h => by
    obtain ⟨_, he, h⟩ := bind_eq_ok_iff.1 h
    obtain ⟨_, hes, _⟩ := bind_eq_ok_iff.1 h
    rw [anyExprsShowFixed, Expr.showsFixed_of_render he, anyExprsShowFixed_of_renderAll hes]
    rfl

theorem anyWhensShowFixed_of_renderWhens : ∀ {whens : List (Expr × Expr)} {branches : List String},
    renderWhens d whens = .ok branches → anyWhensShowFixed whens = false
  | [], _, _ => rfl
  | (condition, result) :: rest, branches, h => by
    obtain ⟨_, hcondition, h⟩ := bind_eq_ok_iff.1 h
    obtain ⟨_, hresult, h⟩ := bind_eq_ok_iff.1 h
    obtain ⟨_, hrest, _⟩ := bind_eq_ok_iff.1 h
    rw [anyWhensShowFixed, Expr.showsFixed_of_render hcondition,
      Expr.showsFixed_of_render hresult, anyWhensShowFixed_of_renderWhens hrest]
    rfl

/-- A window without a name is written with its keys. -/
theorem Window.showsFixed_of_renderUse : ∀ {w : Window} {s : String}, w.renderUse d = .ok s →
    w.showsFixed = false
  | ⟨partitionBy, orderBy, frame, none⟩, s, h => by
    have hname : (d.capabilities.windowClause && (none : Option String).any (· ≠ "")) = false :=
      Bool.and_false _
    rw [Window.renderUse, hname] at h
    obtain ⟨_, hpartition, h⟩ := bind_eq_ok_iff.1 h
    obtain ⟨_, horder, _⟩ := bind_eq_ok_iff.1 h
    rw [Window.showsFixed, anyExprsShowFixed_of_renderAll hpartition,
      anyExprsShowFixed_of_renderAll horder]
    rfl
  | ⟨_, _, _, some _⟩, _, _ => rfl

end

end

end SqlDialects
