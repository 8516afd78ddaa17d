-- SUMMARY: The text of a tree of binary operations, calls and casts is read back as the tree, its parentheses aside.
import SqlDialects.Proofs.Chains.Lexer
import SqlDialects.Proofs.Grouping.Operation
import SqlDialects.Proofs.Lexing.Pieces
import SqlDialects.Proofs.Rendering

/-!
# Reading rendered chains

Parentheses are written around a binary operation that is an operand, except on the
left of the same operator. So a text has chains of one operator only, grouped to the
left, and is read without knowing which operator binds tighter.

This is for trees of binary operations, parentheses, calls and casts over columns and
plain literals. Such a tree has a text exactly when its literals have.
-/

namespace SqlDialects.Chains

open Lexer (Continues LexesTo)

/-! ## Trees -/

/-- Nulls, truth values, whole numbers and texts. -/
def isLeaf : Scalar → Bool
  | .null => true
  | .bool _ => true
  | .number (.whole _) => true
  | .text _ => true
  | _ => false

/-- A binary operation of the vocabulary, parentheses, or a call or a cast of the
    vocabulary, over such trees, columns, and literals as asked. No table has an empty
    name, which would count as none. -/
inductive IsChained (P : Scalar → Prop) : Expr → Prop
  | ident (name : String) {table : Option String} (htable : table ≠ some "") :
      IsChained P (.ident name table)
  | literal {v : Scalar} (hleaf : isLeaf v = true) (hv : P v) :
      IsChained P (.literal (.scalar v))
  | call {name : String} {args : List Expr} (hname : name ∈ Vocabulary.functions)
      (hargs : ∀ e ∈ args, IsChained P e) (distinct : Bool) :
      IsChained P (.call name args distinct)
  | cast {e : Expr} {typeName : String} (htype : typeName ∈ Vocabulary.castTypes)
      (he : IsChained P e) : IsChained P (.cast e typeName)
  | binary {op : String} {left right : Expr} (hop : op ∈ Vocabulary.binaryOperators)
      (hleft : IsChained P left) (hright : IsChained P right) :
      IsChained P (.binary op left right)
  | paren {e : Expr} (he : IsChained P e) : IsChained P (.paren e)

/-- A scalar that the backend has a literal for. -/
def HasLiteral (backend : Backend) (v : Scalar) : Prop :=
  ∃ s, backend.scalarLiteral v = .ok s

/-! ## Texts -/

section

variable {d : Dialect} {P : Scalar → Prop}

/-- A tree has a text when its literals have. -/
theorem IsChained.exists_render {e : Expr} (h : IsChained (HasLiteral d.backend) e) :
    ∃ s, e.render d = .ok s := by
  induction h with
  | ident => exact ⟨_, rfl⟩
  | literal _ hv => exact hv
  | call _ _ distinct ih =>
    obtain ⟨args, hargs⟩ := exists_renderAll ih
    simp only [Expr.render, bind_eq_ok_iff, pure_eq_ok_iff]
    exact ⟨_, args, hargs, rfl⟩
  | cast _ _ ih =>
    obtain ⟨s, hs⟩ := ih
    simp only [Expr.render, bind_eq_ok_iff, pure_eq_ok_iff]
    exact ⟨_, s, hs, rfl⟩
  | binary _ _ _ ihleft ihright =>
    obtain ⟨l, hl⟩ := ihleft
    obtain ⟨r, hr⟩ := ihright
    simp only [Expr.render, bind_eq_ok_iff, pure_eq_ok_iff]
    exact ⟨_, l, hl, r, hr, rfl⟩
  | paren _ ih => exact exists_render_paren_iff.2 ih

/-- The literals of a tree with a text have texts. -/
theorem IsChained.hasLiterals {e : Expr} (h : IsChained P e) (hs : ∃ s, e.render d = .ok s) :
    IsChained (HasLiteral d.backend) e := by
  induction h with
  | ident name htable => exact .ident name htable
  | literal hleaf _ => exact .literal hleaf hs
  | call hname _ distinct ih =>
    simp only [Expr.render, bind_eq_ok_iff, pure_eq_ok_iff, renderAll_eq_ok_iff] at hs
    obtain ⟨_, args, hargs, _⟩ := hs
    refine .call hname (fun e he => ?_) distinct
    obtain ⟨s, _, hs⟩ := exists_of_mem_left hargs he
    exact ih e he ⟨s, hs⟩
  | cast htype _ ih =>
    simp only [Expr.render, bind_eq_ok_iff, pure_eq_ok_iff] at hs
    obtain ⟨_, s, hs, _⟩ := hs
    exact .cast htype (ih ⟨s, hs⟩)
  | binary hop _ _ ihleft ihright =>
    simp only [Expr.render, bind_eq_ok_iff, pure_eq_ok_iff] at hs
    obtain ⟨_, l, hl, r, hr, _⟩ := hs
    exact .binary hop (ihleft ⟨l, hl⟩) (ihright ⟨r, hr⟩)
  | paren _ ih => exact .paren (ih (exists_render_paren_iff.1 hs))

end

/-! ## Texts of chains -/

/-- The text of an expression is that of the chain, which stands for the expression. -/
structure Writes (e : Expr) (s : String) (x : Chain) : Prop where
  lexes : lexer.LexesTo s x.yield
  expr : x.expr = e.bare
  /-- What needs no parentheses on the left of an operator is a chain it lengthens. -/
  admits : ∀ op, e.isOtherBinary op = false → x.admits (.ofText op) = true
  /-- What needs no parentheses on the right of an operator is an operand. -/
  single : e.isBinary = false → ∃ y, x = .one y

section

variable {s : String}

theorem lexesTo_parenthesised {w : List Lexeme} (h : lexer.LexesTo s w) :
    lexer.LexesTo (parenthesised s) (.opening :: w ++ [.closing]) := by
  have hclosing : lexer.Continues ")" [.closing] := .last rfl rfl
  have hopening : lexer.Continues ("(" ++ (s ++ ")")) (.opening :: (w ++ [.closing])) :=
    .mark rfl rfl (h.append hclosing)
  rw [parenthesised, String.append_assoc]
  exact hopening.lexes

theorem lexesTo_commaSeparated {ss : List String} {xs : List Chain}
    (h : List.Forall₂ (fun s x => lexer.LexesTo s (Chain.yield x)) ss xs) :
    lexer.LexesTo (commaSeparated ss) (yieldAll xs) := by
  induction h with
  | nil => exact .empty
  | @cons s x ss xs hs hrest ih =>
    cases hrest with
    | nil => simpa [commaSeparated, yieldAll, yieldMore] using hs
    | cons ht hrest =>
      have hall := hs.append (.comma rfl ih)
      simpa [commaSeparated, String.intercalate_cons_cons, String.append_assoc, yieldAll,
        yieldMore] using hall

theorem lexesTo_callText {name : String} {args : List String} {xs : List Chain} (distinct : Bool)
    (hname : name ∈ Vocabulary.functions)
    (hargs : List.Forall₂ (fun s x => lexer.LexesTo s (Chain.yield x)) args xs) :
    lexer.LexesTo (callText name args distinct) (Operand.call name distinct xs).yield := by
  have hlist := lexesTo_commaSeparated hargs
  have hinner : lexer.LexesTo ((if distinct then "DISTINCT " else "") ++ commaSeparated args)
      (distinctLexemes distinct ++ yieldAll xs) := by
    cases distinct with
    | false => simpa [distinctLexemes] using hlist
    | true =>
      have hword : lexer.LexesTo "DISTINCT" [.distinct] := .of_isWord (by decide)
      have hall := hword.append (.blank hlist)
      rwa [← String.append_assoc] at hall
  have hall := (lexesTo_function hname).append
    (.mark (m := "(") (l := .opening) rfl rfl
      (hinner.append (.last (m := ")") (l := .closing) rfl rfl)))
  simpa [callText, parenthesised, Operand.yield, String.append_assoc] using hall

theorem lexesTo_castText {typeName : String} {x : Chain} (htype : typeName ∈ Vocabulary.castTypes)
    (h : lexer.LexesTo s x.yield) :
    lexer.LexesTo ("CAST(" ++ s ++ " AS " ++ typeName ++ ")") (Operand.cast x typeName).yield := by
  have hcast : lexer.LexesTo "CAST" [.cast] := .of_isWord (by decide)
  have has : lexer.LexesTo "AS" [.as] := .of_isWord (by decide)
  have hclosing : lexer.Continues ")" [.closing] := .last rfl rfl
  have htail := Continues.blank (has.append (.blank ((lexesTo_castType htype).append hclosing)))
  have hall := hcast.append (.mark (m := "(") (l := .opening) rfl rfl (h.append htail))
  have hopen : "CAST(" = "CAST" ++ "(" := rfl
  have hbetween : " AS " = " " ++ "AS" ++ " " := rfl
  rw [hopen, hbetween]
  simp only [Operand.yield, String.append_assoc, List.cons_append, List.nil_append] at hall ⊢
  exact hall

theorem lexesTo_literal {backend : Backend} {v : Scalar} (hleaf : isLeaf v = true)
    (h : backend.scalarLiteral v = .ok s) :
    ∃ x : Operand, lexer.LexesTo s x.yield ∧ x.expr = .literal (.scalar v) := by
  cases v with
  | null =>
    cases h
    exact ⟨.null, .of_isWord (by decide), rfl⟩
  | bool b =>
    cases h
    cases b with
    | false => exact ⟨.truth false, .of_isWord (by decide), rfl⟩
    | true => exact ⟨.truth true, .of_isWord (by decide), rfl⟩
  | number n =>
    cases n with
    | whole n =>
      rw [Backend.scalarLiteral, Backend.numberLiteral, wholeText_eq_ok_iff] at h
      obtain ⟨_, rfl⟩ := h
      exact ⟨.whole n, lexesTo_whole n, rfl⟩
    | _ => cases hleaf
  | text content => exact ⟨.text content, lexesTo_text h, rfl⟩
  | _ => cases hleaf

theorem lexesTo_ident (name : String) {table : Option String} (htable : table ≠ some "") :
    lexer.LexesTo (qualifiedName table (Identifier.escaped name))
      (Operand.column name table).yield := by
  cases table with
  | none => exact lexesTo_escaped name
  | some table =>
    have hne : table ≠ "" := fun heq => htable (congrArg some heq)
    rw [qualifiedName, if_neg hne]
    exact lexesTo_qualified table name

end

namespace Writes

variable {e left right : Expr} {s l r : String} {x : Chain}

/-- An operand is a chain that every operator lengthens. -/
theorem one {y : Operand} (hlexes : lexer.LexesTo s y.yield) (hexpr : y.expr = e.bare) :
    Writes e s (.one y) :=
  ⟨hlexes, hexpr, fun _ _ => rfl, fun _ => ⟨y, rfl⟩⟩

/-- What stands on the left of an operator is a chain the operator lengthens. -/
theorem exists_left (h : Writes e s x) (op : String) :
    ∃ y : Chain, lexer.LexesTo (wrapIf (e.isOtherBinary op) s) y.yield ∧ y.expr = e.bare ∧
      y.admits (.ofText op) = true := by
  cases hother : e.isOtherBinary op with
  | false => exact ⟨x, h.lexes, h.expr, h.admits op hother⟩
  | true => exact ⟨.one (.paren x), lexesTo_parenthesised h.lexes, h.expr, rfl⟩

/-- What stands on the right of an operator is an operand. -/
theorem exists_right (h : Writes e s x) :
    ∃ y : Operand, lexer.LexesTo (wrapIf e.isBinary s) y.yield ∧ y.expr = e.bare := by
  cases hbinary : e.isBinary with
  | false =>
    obtain ⟨y, rfl⟩ := h.single hbinary
    exact ⟨y, h.lexes, h.expr⟩
  | true => exact ⟨.paren x, lexesTo_parenthesised h.lexes, h.expr⟩

theorem exists_binary {y z : Chain} {op : String} (hop : op ∈ Vocabulary.binaryOperators)
    (hl : Writes left l y) (hr : Writes right r z) :
    ∃ x, Writes (.binary op left right)
      (wrapIf (left.isOtherBinary op) l ++ " " ++ op ++ " " ++ wrapIf right.isBinary r) x := by
  obtain ⟨y, hy, hyexpr, hadmits⟩ := hl.exists_left op
  obtain ⟨z, hz, hzexpr⟩ := hr.exists_right
  refine ⟨y.add (.ofText op) z, ?_, ?_, ?_, fun hbinary => by cases hbinary⟩
  · have hright := (Continues.blank (lexesTo_connector hop)).append (.blank hz)
    rw [Chain.yield_add z hadmits]
    simpa [String.append_assoc] using hy.append hright
  · rw [Chain.expr_add z hadmits, Connector.text_ofText op hop, hyexpr, hzexpr]
    rfl
  · intro op' hsame
    obtain rfl : op = op' := by simpa [Expr.isOtherBinary] using hsame
    exact Chain.admits_add z hadmits

end Writes

theorem exists_arguments {d : Dialect} {es : List Expr} {ss : List String}
    (ih : ∀ e ∈ es, ∀ s, e.render d = .ok s → ∃ x, Writes e s x)
    (h : List.Forall₂ (fun e s => e.render d = .ok s) es ss) :
    ∃ xs, List.Forall₂ (fun s x => lexer.LexesTo s (Chain.yield x)) ss xs ∧
      exprAll xs = bareAll es := by
  induction h with
  | nil => exact ⟨[], .nil, rfl⟩
  | cons hs _ ihs =>
    obtain ⟨x, hx⟩ := ih _ List.mem_cons_self _ hs
    obtain ⟨xs, hlexes, hexprs⟩ := ihs fun e he => ih e (List.mem_cons_of_mem _ he)
    exact ⟨x :: xs, .cons hx.lexes hlexes, congrArg₂ List.cons hx.expr hexprs⟩

/-- Whatever text a tree has is that of a chain for the tree. -/
theorem IsChained.exists_writes {d : Dialect} {P : Scalar → Prop} {e : Expr} (h : IsChained P e) :
    ∀ s, e.render d = .ok s → ∃ x, Writes e s x := by
  induction h with
  | @ident name table htable =>
    intro s hs
    cases hs
    exact ⟨_, .one (y := .column name table) (lexesTo_ident name htable) rfl⟩
  | literal hleaf _ =>
    intro s hs
    obtain ⟨y, hlexes, hexpr⟩ := lexesTo_literal hleaf hs
    exact ⟨_, .one hlexes hexpr⟩
  | @call name args hname _ distinct ih =>
    intro s hs
    simp only [Expr.render, bind_eq_ok_iff, pure_eq_ok_iff, renderAll_eq_ok_iff] at hs
    obtain ⟨texts, htexts, rfl⟩ := hs
    obtain ⟨xs, hlexes, hexprs⟩ := exists_arguments ih htexts
    have hexpr : (Operand.call name distinct xs).expr = (Expr.call name args distinct).bare := by
      rw [Operand.expr, hexprs, Expr.bare]
    exact ⟨_, .one (lexesTo_callText distinct hname hlexes) hexpr⟩
  | @cast e typeName htype _ ih =>
    intro s hs
    simp only [Expr.render, bind_eq_ok_iff, pure_eq_ok_iff] at hs
    obtain ⟨t, ht, rfl⟩ := hs
    obtain ⟨x, hx⟩ := ih t ht
    have hexpr : (Operand.cast x typeName).expr = (Expr.cast e typeName).bare := by
      rw [Operand.expr, hx.expr, Expr.bare]
    exact ⟨_, .one (lexesTo_castText htype hx.lexes) hexpr⟩
  | binary hop _ _ ihleft ihright =>
    intro s hs
    simp only [Expr.render, bind_eq_ok_iff, pure_eq_ok_iff] at hs
    obtain ⟨l, hl, r, hr, rfl⟩ := hs
    obtain ⟨y, hy⟩ := ihleft l hl
    obtain ⟨z, hz⟩ := ihright r hr
    exact hy.exists_binary hop hz
  | @paren e _ ih =>
    intro s hs
    -- the text of parentheses in parentheses is that of the inner ones
    by_cases hinner : ∃ inner, e = .paren inner
    · obtain ⟨inner, rfl⟩ := hinner
      obtain ⟨x, hx⟩ := ih s hs
      obtain ⟨y, rfl⟩ := hx.single rfl
      exact ⟨_, .one hx.lexes hx.expr⟩
    · rw [render_paren_of_ne fun inner h => hinner ⟨inner, h⟩] at hs
      simp only [bind_eq_ok_iff, pure_eq_ok_iff] at hs
      obtain ⟨t, ht, rfl⟩ := hs
      obtain ⟨x, hx⟩ := ih t ht
      exact ⟨_, .one (y := .paren x) (lexesTo_parenthesised hx.lexes) hx.expr⟩

/-! ## Reading back -/

/-- The text of a chain is read as what the chain stands for. -/
theorem Writes.read_eq {e : Expr} {s : String} {x : Chain} (h : Writes e s x) :
    read s = some e.bare := by
  have hparse : parse x.yield = some x := parse_eq_some_iff.2 rfl
  rw [read, h.lexes.lex_eq, Option.bind_some, hparse, Option.map_some, h.expr]

/-- The chain is the only one whose lexemes the text has. -/
theorem Writes.lex_eq_iff {e : Expr} {s : String} {x : Chain} (h : Writes e s x) (y : Chain) :
    lexer.lex s.toList = some y.yield ↔ y = x := by
  rw [h.lexes.lex_eq, Option.some.injEq, eq_comm]
  exact Chain.yield_injective.eq_iff

/-- A tree has a text exactly when its literals have, and from the text it is read back
    without its parentheses, though the reader knows of no operator that it binds tighter
    than another: no second chain has the lexemes of the text. So trees with the same text
    differ in parentheses only. -/
theorem read_render (d : Dialect) {e : Expr} (he : IsChained (fun _ => True) e) :
    ((∃ s, e.render d = .ok s) ↔ IsChained (HasLiteral d.backend) e) ∧
    ∀ s, e.render d = .ok s →
      read s = some e.bare ∧
      (∃ x : Chain, x.expr = e.bare ∧ ∀ y : Chain, lexer.lex s.toList = some y.yield ↔ y = x) ∧
      ∀ (d' : Dialect) (e' : Expr), IsChained (fun _ => True) e' → e'.render d' = .ok s →
        e'.bare = e.bare := by
  refine ⟨⟨he.hasLiterals, IsChained.exists_render⟩, fun s hs => ?_⟩
  obtain ⟨x, hx⟩ := he.exists_writes s hs
  refine ⟨hx.read_eq, ⟨x, hx.expr, hx.lex_eq_iff⟩, fun d' e' he' hs' => ?_⟩
  obtain ⟨x', hx'⟩ := he'.exists_writes s hs'
  exact Option.some.inj (hx'.read_eq.symm.trans hx.read_eq)

/-- Columns that are compared to a text with an operator in it. -/
def sought (columns : Expr) : Expr := .binary "LIKE" columns (.literal (.text "a OR b"))

def joined : Expr := .binary "||" (.ident "x" none) (.ident "y" none)

/-- The operator in the text is read as none, and the parentheses are lost: they would
    be written around the columns anyway. -/
theorem read_render_sought :
    IsChained (fun _ => True) (sought (.paren joined)) ∧
      IsChained (fun _ => True) (sought joined) ∧
      (sought (.paren joined)).render (.standard .postgres) = .ok "(x || y) LIKE 'a OR b'" ∧
      read "(x || y) LIKE 'a OR b'" = some (sought joined) ∧
      (sought joined).bare = (sought (.paren joined)).bare := by
  have hjoined : IsChained (fun _ => True) joined :=
    .binary (by decide) (.ident "x" nofun) (.ident "y" nofun)
  have htext : IsChained (fun _ => True) (.literal (.text "a OR b")) := .literal rfl trivial
  have hparen : IsChained (fun _ => True) (sought (.paren joined)) :=
    .binary (by decide) (.paren hjoined) htext
  have hbare : IsChained (fun _ => True) (sought joined) := .binary (by decide) hjoined htext
  have hrender : (sought (.paren joined)).render (.standard .postgres) =
      .ok "(x || y) LIKE 'a OR b'" := rfl
  have hsame : (sought joined).render (.standard .postgres) = .ok "(x || y) LIKE 'a OR b'" := rfl
  obtain ⟨hread, _, hunique⟩ := (read_render (.standard .postgres) hparen).2 _ hrender
  exact ⟨hparen, hbare, hrender, hread, hunique _ _ hbare hsame⟩

end SqlDialects.Chains
