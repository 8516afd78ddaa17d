-- SUMMARY: Which expressions have a text: all whose parts have one, when the lengths that are written in them are short enough.
import SqlDialects.Proofs.Lexing.Rendering
import SqlDialects.Proofs.Writing.Scalars

/-!
# Expressions with a text

Rendering fails at a literal, a stray value, an ordered-set aggregate of no call or a
frame, and nowhere else. One kind of literal is computed by a template and not given
by a caller, the length of a substring: two positions short enough to be written can be
too far apart for that. So an expression *renders* when it has a text, supposing that
all lengths in it are short enough. What is put together of expressions that render
renders again.
-/

namespace SqlDialects

/-! ## Lengths -/

/-- The length in a call of `SUBSTR`, when it is a whole number. -/
def lengthIn? (name : String) : List Expr → Option Int
  | [_, _, .literal (.scalar (.number (.whole n)))] => if name = "SUBSTR" then some n else none
  | _ => none

mutual

/-- Every length that is written in a call of `SUBSTR` is short. -/
def Expr.hasShortLengths (d : Dialect) : Expr → Bool
  | .call name args _ => (lengthIn? name args).all isShort && allHaveShortLengths d args
  | .binary _ left right => left.hasShortLengths d && right.hasShortLengths d
  | .unary _ operand => operand.hasShortLengths d
  | .suffixed operand _ => operand.hasShortLengths d
  | .cast e _ => e.hasShortLengths d
  | .paren e => e.hasShortLengths d
  | .caseWhen whens none => allHaveShortLengthsWhens d whens
  | .caseWhen whens (some otherwise) =>
    allHaveShortLengthsWhens d whens && otherwise.hasShortLengths d
  | .group items => allHaveShortLengths d items
  | .ordered e _ => e.hasShortLengths d
  | .withinGroup call orderBy => call.hasShortLengths d && allHaveShortLengths d orderBy
  | .over e w => e.hasShortLengths d && w.hasShortLengths d
  | _ => true

def allHaveShortLengths (d : Dialect) : List Expr → Bool
  | [] => true
  | e :: es => e.hasShortLengths d && allHaveShortLengths d es

def allHaveShortLengthsWhens (d : Dialect) : List (Expr × Expr) → Bool
  | [] => true
  | (condition, result) :: rest =>
    condition.hasShortLengths d && result.hasShortLengths d && allHaveShortLengthsWhens d rest

/-- In a window that is written by its name nothing else is written. -/
def Window.hasShortLengths (d : Dialect) : Window → Bool
  | ⟨partitionBy, orderBy, _, name⟩ =>
    d.capabilities.windowClause && name.any (· ≠ "") ||
      allHaveShortLengths d partitionBy && allHaveShortLengths d orderBy

end

theorem isShort_of_hasShortLengths {d : Dialect} {x start : Expr} {n : Int} {distinct : Bool}
    (h : (Expr.call "SUBSTR" [x, start, .literal (.whole n)] distinct).hasShortLengths d = true) :
    isShort n = true := by
  have hlength : lengthIn? "SUBSTR" [x, start, .literal (.whole n)] = some n := by
    rw [lengthIn?, if_pos rfl]
  rw [Expr.hasShortLengths, hlength, Option.all_some, Bool.and_eq_true] at h
  exact h.1

theorem allHaveShortLengths_iff {d : Dialect} {es : List Expr} :
    allHaveShortLengths d es = true ↔ ∀ e ∈ es, e.hasShortLengths d = true := by
  induction es with
  | nil => simp [allHaveShortLengths]
  | cons e es ih => simp [allHaveShortLengths, ih]

/-! ## Lengths of what has a text -/

section

variable {d : Dialect}

theorem isShort_of_renderAll {name : String} {args : List Expr} {ss : List String}
    (h : renderAll d args = .ok ss) : (lengthIn? name args).all isShort = true := by
  unfold lengthIn?
  split
  next n =>
    split
    · simp only [renderAll, bind_eq_ok_iff, Expr.render, Backend.literal, Backend.scalarLiteral,
        Backend.numberLiteral, wholeText_eq_ok_iff] at h
      obtain ⟨_, _, _, ⟨_, _, _, ⟨_, ⟨hn, _⟩, _⟩, _⟩, _⟩ := h
      rw [Option.all_some]
      exact isShort_iff.2 hn
    · rfl
  next => rfl

mutual

/-- Whatever has a text has short lengths only. -/
theorem Expr.hasShortLengths_of_render : ∀ {e : Expr} {s : String}, e.render d = .ok s →
    e.hasShortLengths d = true
  | .literal _, _, _ => rfl
  | .ident .., _, _ => rfl
  | .keyword _, _, _ => rfl
  | .raw _, _, _ => rfl
  | .star _, _, _ => rfl
  | .call name args _, _, h => by
    simp only [Expr.render, bind_eq_ok_iff] at h
    obtain ⟨_, hargs, _⟩ := h
    rw [Expr.hasShortLengths, isShort_of_renderAll hargs, allHaveShortLengths_of_renderAll hargs]
    rfl
  | .binary _ left right, _, h => by
    simp only [Expr.render, bind_eq_ok_iff] at h
    obtain ⟨_, hleft, _, hright, _⟩ := h
    rw [Expr.hasShortLengths, Expr.hasShortLengths_of_render hleft,
      Expr.hasShortLengths_of_render hright]
    rfl
  | .unary _ operand, _, h => by
    simp only [Expr.render, bind_eq_ok_iff] at h
    obtain ⟨_, hoperand, _⟩ := h
    rw [Expr.hasShortLengths]
    exact Expr.hasShortLengths_of_render hoperand
  | .suffixed operand _, _, h => by
    simp only [Expr.render, bind_eq_ok_iff] at h
    obtain ⟨_, hoperand, _⟩ := h
    rw [Expr.hasShortLengths]
    exact Expr.hasShortLengths_of_render hoperand
  | .cast e _, _, h => by
    simp only [Expr.render, bind_eq_ok_iff] at h
    obtain ⟨_, he, _⟩ := h
    rw [Expr.hasShortLengths]
    exact Expr.hasShortLengths_of_render he
  | .paren e, _, h => by
    obtain ⟨_, he⟩ := exists_render_paren_iff.1 ⟨_, h⟩
    rw [Expr.hasShortLengths]
    exact Expr.hasShortLengths_of_render he
  | .caseWhen whens none, _, h => by
    simp only [Expr.render, bind_eq_ok_iff] at h
    obtain ⟨_, hwhens, _⟩ := h
    exact allHaveShortLengthsWhens_of_renderWhens hwhens
  | .caseWhen whens (some otherwise), _, h => by
    simp only [Expr.render, bind_eq_ok_iff] at h
    obtain ⟨_, hwhens, _, hotherwise, _⟩ := h
    rw [Expr.hasShortLengths, allHaveShortLengthsWhens_of_renderWhens hwhens,
      Expr.hasShortLengths_of_render hotherwise]
    rfl
  | .group items, _, h => by
    simp only [Expr.render, bind_eq_ok_iff] at h
    obtain ⟨_, hitems, _⟩ := h
    exact allHaveShortLengths_of_renderAll hitems
  | .ordered e _, _, h => by
    simp only [Expr.render, bind_eq_ok_iff] at h
    obtain ⟨_, he, _⟩ := h
    rw [Expr.hasShortLengths]
    exact Expr.hasShortLengths_of_render he
  | .withinGroup call orderBy, _, h => by
    simp only [Expr.render, bind_eq_ok_iff] at h
    obtain ⟨_, horder, _, hcall, _⟩ := h
    rw [Expr.hasShortLengths, Expr.hasShortLengths_of_renderAggregate hcall,
      allHaveShortLengths_of_renderAll horder]
    rfl
  | .over e w, _, h => by
    simp only [Expr.render, bind_eq_ok_iff] at h
    obtain ⟨_, he, _, hw, _⟩ := h
    rw [Expr.hasShortLengths, Expr.hasShortLengths_of_render he,
      Window.hasShortLengths_of_renderUse hw]
    rfl
  | .stray _, _, h => by cases h
termination_by structural e => e

theorem Expr.hasShortLengths_of_renderAggregate : ∀ {e : Expr} {s : String},
    e.renderAggregate d = .ok s → e.hasShortLengths d = true
  | .call name args _, _, h => by
    simp only [Expr.renderAggregate, bind_eq_ok_iff] at h
    obtain ⟨_, hargs, _⟩ := h
    rw [Expr.hasShortLengths, isShort_of_renderAll hargs, allHaveShortLengths_of_renderAll hargs]
    rfl
  | .stray _, _, _ => rfl
  | .literal _, _, _ => rfl
  | .ident .., _, _ => rfl
  | .keyword _, _, _ => rfl
  | .raw _, _, _ => rfl
  | .star _, _, _ => rfl
  | .binary .., _, h => by cases h
  | .unary .., _, h => by cases h
  | .suffixed .., _, h => by cases h
  | .cast .., _, h => by cases h
  | .paren _, _, h => by cases h
  | .caseWhen .., _, h => by cases h
  | .group _, _, h => by cases h
  | .ordered .., _, h => by cases h
  | .withinGroup .., _, h => by cases h
  | .over .., _, h => by cases h
termination_by structural e => e

theorem allHaveShortLengths_of_renderAll : ∀ {es : List Expr} {ss : List String},
    renderAll d es = .ok ss → allHaveShortLengths d es = true
  | [], _, _ => rfl
  | e :: es, _, h => by
    simp only [renderAll, bind_eq_ok_iff] at h
    obtain ⟨_, he, _, hes, _⟩ := h
    rw [allHaveShortLengths, Expr.hasShortLengths_of_render he,
      allHaveShortLengths_of_renderAll hes]
    rfl
termination_by structural es => es

theorem allHaveShortLengthsWhens_of_renderWhens :
    ∀ {whens : List (Expr × Expr)} {branches : List String},
      renderWhens d whens = .ok branches → allHaveShortLengthsWhens d whens = true
  | [], _, _ => rfl
  | (condition, result) :: rest, _, h => by
    simp only [renderWhens, bind_eq_ok_iff] at h
    obtain ⟨_, hcondition, _, hresult, _, hrest, _⟩ := h
    rw [allHaveShortLengthsWhens, Expr.hasShortLengths_of_render hcondition,
      Expr.hasShortLengths_of_render hresult, allHaveShortLengthsWhens_of_renderWhens hrest]
    rfl
termination_by structural whens => whens

theorem Window.hasShortLengths_of_renderUse : ∀ {w : Window} {s : String},
    w.renderUse d = .ok s → w.hasShortLengths d = true
  | ⟨partitionBy, orderBy, frame, name⟩, _, h => by
    rw [Window.renderUse] at h
    rw [Window.hasShortLengths]
    split at h
    next hname => rw [hname, Bool.true_or]
    next =>
      simp only [bind_eq_ok_iff] at h
      obtain ⟨_, hpartition, _, horder, _⟩ := h
      rw [allHaveShortLengths_of_renderAll hpartition, allHaveShortLengths_of_renderAll horder,
        Bool.and_true, Bool.or_true]
termination_by structural w => w

end

end

/-! ## Expressions that render -/

/-- An expression that has a text, supposing that the lengths in it are short. -/
def Expr.Renders (d : Dialect) (e : Expr) : Prop :=
  e.hasShortLengths d = true → ∃ s, e.render d = .ok s

/-- A value that renders where it is written. -/
def Value.Renders (d : Dialect) (v : Value) : Prop := v.toExpr.Renders d

/-- A window whose keys render and whose frame has a text. -/
structure Window.Renders (d : Dialect) (w : Window) : Prop where
  partitionBy : ∀ e ∈ w.partitionBy, e.Renders d
  orderBy : ∀ e ∈ w.orderBy, e.Renders d
  frame : ∃ s?, w.frame.mapM frameText = .ok s?

section

variable {d : Dialect}

@[simp, grind =]
theorem Value.renders_toExpr {v : Value} : v.toExpr.Renders d ↔ v.Renders d := Iff.rfl

@[simp, grind =]
theorem Value.renders_sql {e : Expr} : (Value.sql e).Renders d ↔ e.Renders d := Iff.rfl

/-! ### Literals and names -/

theorem Value.exists_literal {v : Value} (h : (Expr.literal v).Renders d) :
    ∃ s, d.backend.literal v = .ok s := h rfl

theorem Value.renders_scalar {s : Scalar} (h : ∃ text, d.backend.scalarLiteral s = .ok text) :
    (Value.scalar s).Renders d := fun _ => h

@[simp, grind ←] theorem Value.renders_null : Value.null.Renders d := renders_scalar ⟨_, rfl⟩

@[simp, grind ←]
theorem Value.renders_bool (b : Bool) : (Value.bool b).Renders d := renders_scalar ⟨_, rfl⟩

theorem Value.renders_whole {n : Int} (h : IsWritable n) : (Value.whole n).Renders d := by
  refine renders_scalar ?_
  simp only [Backend.scalarLiteral, Backend.numberLiteral, wholeText_eq_ok_iff]
  exact ⟨_, h, rfl⟩

@[grind ←] theorem Value.renders_digit {n : Int} (h : n.natAbs < 10) : (Value.whole n).Renders d :=
  renders_whole (isWritable_of_lt_ten h)

@[grind ←]
theorem Value.renders_text {s : String} (h : NulFree s.toList) : (Value.text s).Renders d :=
  renders_scalar (d.backend.textLiteral_of_nulFree h)

@[grind ←] theorem Expr.renders_literal {v : Value} (h : v.Renders d) (hplain : ∀ e, v ≠ .sql e) :
    (Expr.literal v).Renders d := by
  cases v with
  | sql e => exact absurd rfl (hplain e)
  | _ => exact h

@[simp, grind ←] theorem Expr.renders_ident (name : String) (table : Option String) :
    (Expr.ident name table).Renders d := fun _ => ⟨_, rfl⟩

@[simp, grind ←] theorem Expr.renders_keyword (text : String) : (Expr.keyword text).Renders d :=
  fun _ => ⟨_, rfl⟩

@[simp, grind ←] theorem Expr.renders_star (table : Option String) : (Expr.star table).Renders d :=
  fun _ => ⟨_, rfl⟩

/-! ### Composition -/

namespace Expr

theorem exists_renderAll_of_renders {es : List Expr} (h : ∀ e ∈ es, e.Renders d)
    (hlengths : allHaveShortLengths d es = true) : ∃ ss, renderAll d es = .ok ss :=
  exists_renderAll fun e he => h e he (allHaveShortLengths_iff.1 hlengths e he)

@[grind ←] theorem renders_call {name : String} {args : List Expr} {distinct : Bool}
    (h : ∀ e ∈ args, e.Renders d) : (call name args distinct).Renders d := by
  intro hlengths
  simp only [hasShortLengths, Bool.and_eq_true] at hlengths
  obtain ⟨ss, hss⟩ := exists_renderAll_of_renders h hlengths.2
  rw [render, hss]
  exact ⟨_, rfl⟩

@[grind ←]
theorem renders_callOf {name : String} {args : List Value} (h : ∀ v ∈ args, v.Renders d) :
    (callOf name args).Renders d :=
  renders_call (List.forall_mem_map.2 h)

@[grind ←] theorem renders_binary {op : String} {left right : Expr} (hleft : left.Renders d)
    (hright : right.Renders d) : (binary op left right).Renders d := by
  intro hlengths
  simp only [hasShortLengths, Bool.and_eq_true] at hlengths
  obtain ⟨l, hl⟩ := hleft hlengths.1
  obtain ⟨r, hr⟩ := hright hlengths.2
  rw [render, hl, hr]
  exact ⟨_, rfl⟩

@[grind ←] theorem renders_binaryOf {op : String} {left right : Value} (hleft : left.Renders d)
    (hright : right.Renders d) : (binaryOf op left right).Renders d :=
  renders_binary hleft hright

@[grind ←] theorem renders_unary {op : String} {operand : Expr} (h : operand.Renders d) :
    (unary op operand).Renders d := by
  intro hlengths
  obtain ⟨s, hs⟩ := h hlengths
  rw [render, hs]
  exact ⟨_, rfl⟩

@[grind ←] theorem renders_suffixed {operand : Expr} {op : String} (h : operand.Renders d) :
    (suffixed operand op).Renders d := by
  intro hlengths
  obtain ⟨s, hs⟩ := h hlengths
  rw [render, hs]
  exact ⟨_, rfl⟩

@[grind ←] theorem renders_cast {e : Expr} {typeName : String} (h : e.Renders d) :
    (cast e typeName).Renders d := by
  intro hlengths
  obtain ⟨s, hs⟩ := h hlengths
  rw [render, hs]
  exact ⟨_, rfl⟩

@[grind ←] theorem renders_paren {e : Expr} (h : e.Renders d) : (paren e).Renders d := by
  intro hlengths
  exact exists_render_paren_iff.2 (h hlengths)

@[grind ←]
theorem renders_caseWhen {condition result otherwise : Expr} (hcondition : condition.Renders d)
    (hresult : result.Renders d) (hotherwise : otherwise.Renders d) :
    (caseWhen [(condition, result)] (some otherwise)).Renders d := by
  intro hlengths
  simp only [hasShortLengths, allHaveShortLengthsWhens, Bool.and_eq_true] at hlengths
  obtain ⟨⟨⟨hc, hr⟩, _⟩, ho⟩ := hlengths
  obtain ⟨c, hc⟩ := hcondition hc
  obtain ⟨r, hr⟩ := hresult hr
  obtain ⟨o, ho⟩ := hotherwise ho
  rw [render, renderWhens, hc, hr, ho]
  exact ⟨_, rfl⟩

@[grind ←] theorem renders_group {items : List Expr} (h : ∀ e ∈ items, e.Renders d) :
    (group items).Renders d := by
  intro hlengths
  obtain ⟨ss, hss⟩ := exists_renderAll_of_renders h hlengths
  rw [render, hss]
  exact ⟨_, rfl⟩

@[grind ←] theorem renders_ordered {e : Expr} {descending : Bool} (h : e.Renders d) :
    (ordered e descending).Renders d := by
  intro hlengths
  obtain ⟨s, hs⟩ := h hlengths
  rw [render, hs]
  exact ⟨_, rfl⟩

@[grind ←] theorem renders_withinGroup {name : String} {args orderBy : List Expr} {distinct : Bool}
    (hargs : ∀ e ∈ args, e.Renders d) (horder : ∀ e ∈ orderBy, e.Renders d) :
    (withinGroup (call name args distinct) orderBy).Renders d := by
  intro hlengths
  simp only [hasShortLengths, Bool.and_eq_true] at hlengths
  obtain ⟨ss, hss⟩ := exists_renderAll_of_renders hargs hlengths.1.2
  obtain ⟨order, horder⟩ := exists_renderAll_of_renders horder hlengths.2
  rw [render, renderAggregate, hss, horder]
  exact ⟨_, rfl⟩

@[grind ←] theorem renders_over {e : Expr} {w : Window} (he : e.Renders d) (hw : w.Renders d) :
    (Expr.over e w).Renders d := by
  intro hlengths
  obtain ⟨partitionBy, orderBy, frame, name⟩ := w
  simp only [hasShortLengths, Window.hasShortLengths, Bool.and_eq_true, Bool.or_eq_true]
    at hlengths
  obtain ⟨s, hs⟩ := he hlengths.1
  rw [render, hs, Window.renderUse]
  split
  next => exact ⟨_, rfl⟩
  next hname =>
    obtain ⟨hpartition, horder⟩ := hlengths.2.resolve_left (by simpa using hname)
    obtain ⟨partition, hpartition⟩ := exists_renderAll_of_renders hw.partitionBy hpartition
    obtain ⟨order, horder⟩ := exists_renderAll_of_renders hw.orderBy horder
    obtain ⟨s?, hs?⟩ := hw.frame
    rw [hpartition, horder, hs?]
    exact ⟨_, rfl⟩

@[grind ←] theorem renders_extract {part : String} {v : Value} (h : v.Renders d) :
    (extract part v).Renders d :=
  renders_call (by simpa using renders_binary (renders_keyword part) h)

@[grind ←] theorem renders_negate {v : Value} (h : v.Renders d) : (negate v).Renders d :=
  renders_unary (renders_paren h)

end Expr

end

end SqlDialects
