-- SUMMARY: Joined expressions are written in order, each in one pair of parentheses, with the connector between them.
import SqlDialects.Proofs.Statement.Lines

/-!
# Conjunctions

Expressions are joined from left to right by one connector, each of them in
parentheses. The tree is deeper the more there are, and its text is flat: what stands
left of its own operator takes no parentheses, and parentheses around parentheses are
written once. So every expression is in the text once, in its place and in one pair of
parentheses, also one that is a conjunction by the same connector itself.
-/

namespace SqlDialects

variable {d : Dialect} {connector : String}

/-! ## Parentheses around an expression -/

/-- An expression without the parentheses around it. -/
def Expr.unwrapped : Expr → Expr
  | .paren e => e.unwrapped
  | e => e

/-- However many parentheses there are, one pair is written. -/
theorem render_paren_eq (e : Expr) :
    (Expr.paren e).render d = do return parenthesised (← e.unwrapped.render d) := by
  fun_induction Expr.unwrapped e with
  | case1 e ih => exact ih
  | case2 e hne => exact render_paren_of_ne hne

theorem exists_render_unwrapped_iff {e : Expr} :
    (∃ t, e.unwrapped.render d = .ok t) ↔ ∃ s, e.render d = .ok s := by
  fun_induction Expr.unwrapped e with
  | case1 e ih => rw [ih, exists_render_paren_iff]
  | case2 => rfl

/-! ## Joined expressions -/

/-- What a connector joins, along the left of an expression. -/
def Expr.conjuncts (connector : String) : Expr → List Expr
  | .binary op left right =>
    if op = connector then left.conjuncts connector ++ [right] else [.binary op left right]
  | e => [e]

theorem conjuncts_foldl (left : Expr) (es : List Expr) :
    (es.foldl (fun left e => .binary connector left (.paren e)) left).conjuncts connector =
      left.conjuncts connector ++ es.map .paren := by
  induction es generalizing left with
  | nil => rw [List.foldl_nil, List.map_nil, List.append_nil]
  | cons e es ih =>
    rw [List.foldl_cons, ih, Expr.conjuncts, if_pos rfl, List.map_cons, List.append_assoc,
      List.singleton_append]

/-- Where joined expressions have a text, each of them has one. -/
theorem exists_render_of_foldl {left : Expr} {es : List Expr}
    (h : ∃ s, (es.foldl (fun left e => .binary connector left (.paren e)) left).render d = .ok s) :
    (∃ s, left.render d = .ok s) ∧ ∀ e ∈ es, ∃ s, e.render d = .ok s := by
  induction es generalizing left with
  | nil => exact ⟨h, List.forall_mem_nil _⟩
  | cons e es ih =>
    obtain ⟨⟨s, hs⟩, hes⟩ := ih h
    rw [Expr.render] at hs
    simp only [bind_eq_ok_iff] at hs
    obtain ⟨l, hl, r, hr, -⟩ := hs
    exact ⟨⟨l, hl⟩, List.forall_mem_cons.2 ⟨exists_render_paren_iff.1 ⟨r, hr⟩, hes⟩⟩

/-- There is no conjunction of no expressions. A conjunction of at least one holds all of
    them in order. It has a text exactly when each of them has one, and the text is theirs in
    order, the connector between blanks between them, each in one pair of parentheses, with
    any number of parentheses around the expression counted as this pair. -/
theorem conjunction_joins_items (d : Dialect) (connector : String) (es : List Expr) :
    (es = [] → Expr.conjunction connector es = .error .emptyConjunction) ∧
    (es ≠ [] → ∃ joined, Expr.conjunction connector es = .ok joined ∧
      joined.conjuncts connector = es.map .paren ∧
      ((∃ s, joined.render d = .ok s) → ∀ e ∈ es, ∃ s, e.render d = .ok s) ∧
      ((∀ e ∈ es, ∃ s, e.render d = .ok s) →
        ∃ ts, List.Forall₂ (fun e t => e.unwrapped.render d = .ok t) es ts ∧
          joined.render d =
            .ok ((" " ++ connector ++ " ").intercalate (ts.map parenthesised)))) := by
  cases es with
  | nil => exact ⟨fun _ => rfl, fun h => absurd rfl h⟩
  | cons e es =>
    refine ⟨nofun, fun _ => ⟨_, rfl, conjuncts_foldl (.paren e) es, fun h => ?_, fun h => ?_⟩⟩
    · obtain ⟨he, hes⟩ := exists_render_of_foldl h
      exact List.forall_mem_cons.2 ⟨exists_render_paren_iff.1 he, hes⟩
    · obtain ⟨ts, hts⟩ := exists_forall₂ fun e he => exists_render_unwrapped_iff.2 (h e he)
      refine ⟨ts, hts, render_conjunction (List.forall₂_map_right_iff.2 (hts.imp ?_)) rfl⟩
      intro e t ht
      rw [render_paren_eq, ht]
      rfl

/-- A pattern with the connector in it, a column in parentheses twice, and a conjunction. -/
def conditions : List Expr :=
  [.binary "LIKE" (.ident "a" none) (.literal (.text "b AND c")),
   .paren (.paren (.ident "x" none)),
   .binary "AND" (.ident "y" none) (.ident "z" none)]

theorem conjunction_joins_conditions :
    (∀ e ∈ conditions, ∃ s, e.render (.standard .postgres) = .ok s) ∧
      ∃ joined, Expr.conjunction "AND" conditions = .ok joined ∧
        joined.conjuncts "AND" = conditions.map .paren ∧
        joined.render (.standard .postgres) =
          .ok "(a LIKE 'b AND c') AND (x) AND (y AND z)" := by
  have hrender : ∀ e ∈ conditions, ∃ s, e.render (.standard .postgres) = .ok s :=
    List.forall_mem_cons.2 ⟨⟨_, rfl⟩, List.forall_mem_cons.2 ⟨⟨_, rfl⟩,
      List.forall_mem_singleton.2 ⟨_, rfl⟩⟩⟩
  have hwritten : List.Forall₂
      (fun (e : Expr) t => e.unwrapped.render (.standard .postgres) = .ok t)
      conditions ["a LIKE 'b AND c'", "x", "y AND z"] := .cons rfl (.cons rfl (.cons rfl .nil))
  obtain ⟨joined, hjoined, hitems, -, htext⟩ :=
    (conjunction_joins_items (.standard .postgres) "AND" conditions).2 (List.cons_ne_nil _ _)
  obtain ⟨ts, hts, hrendered⟩ := htext hrender
  obtain rfl : ts = ["a LIKE 'b AND c'", "x", "y AND z"] :=
    List.right_unique_forall₂' (fun _ _ _ ht ht' => Except.ok.inj (ht.symm.trans ht')) hts hwritten
  exact ⟨hrender, joined, hjoined, hitems, hrendered⟩

end SqlDialects
