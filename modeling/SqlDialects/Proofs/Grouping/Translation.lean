-- SUMMARY: Host expressions of operators are translated to operations, and which of them their SQL text still groups alike.
import SqlDialects.Proofs.Grouping.Rendering
import SqlDialects.Proofs.Resolution.Tables
import SqlDialects.Proofs.Traced

/-!
# Host expressions of operators

What is built of columns and whole numbers by operators, tests for null and
membership is translated to an operation, with every backend and in every context.
Its text is read back as that operation, parentheses aside, exactly when the
operation keeps its grouping and its names are read back.
-/

namespace SqlDialects

/-! ## Building -/

/-- Built of columns and whole numbers by operators. Powers are calls. -/
inductive Value.OperatorBuilt : Value → Prop
  | column {name : String} {table : Option String} (hname : name ≠ "") (htable : table ≠ some "") :
      OperatorBuilt (.column name table)
  | whole (n : Int) : OperatorBuilt (.whole n)
  | apply {op : HostOperator} {args : List Value} {v : Value} (hpow : op ≠ .pow)
      (hisin : op ≠ .isin) (hargs : ∀ a ∈ args, OperatorBuilt a)
      (h : Host.apply op args = .ok v) : OperatorBuilt v
  | isin {x vs v : Value} {items : List Value} (hx : OperatorBuilt x)
      (hvs : vs.items = .ok items) (hitems : ∀ a ∈ items, OperatorBuilt a)
      (h : Host.apply .isin [x, vs] = .ok v) : OperatorBuilt v

namespace Value.OperatorBuilt

theorem plain (s : String) (hs : s ≠ "") : OperatorBuilt (.column s none) :=
  .column hs (by simp)

theorem pair {o : HostOperator} {x y v : Value} (hpow : o ≠ .pow) (hisin : o ≠ .isin)
    (hx : OperatorBuilt x) (hy : OperatorBuilt y) (h : Host.apply o [x, y] = .ok v) :
    OperatorBuilt v :=
  .apply hpow hisin (List.forall_mem_cons.2 ⟨hx, List.forall_mem_singleton.2 hy⟩) h

end Value.OperatorBuilt

namespace HostOperator

open Grouping (Operator)

/-- The operator that is written for two operands. -/
def written? : HostOperator → Option Operator
  | add => some .add
  | sub => some .sub
  | mul => some .mul
  | div => some .div
  | mod => some .mod
  | eq => some .eq
  | ne => some .ne
  | lt => some .lt
  | le => some .le
  | gt => some .gt
  | ge => some .ge
  | and => some .and
  | or => some .or
  | _ => none

/-- The text of a single operand is built of. -/
def single? : HostOperator → Option (Grouping.Operation → Grouping.Operation)
  | neg => some .neg
  | not => some .not
  | isMissing => some .isNull
  | _ => none

theorem exists_written {op : HostOperator} (hsingle : op.isSingle = false) (hpow : op ≠ .pow)
    (hisin : op ≠ .isin) : ∃ o, op.written? = some o := by
  cases op with
  | pow => exact absurd rfl hpow
  | isin => exact absurd rfl hisin
  | neg => cases hsingle
  | not => cases hsingle
  | isMissing => cases hsingle
  | _ => exact ⟨_, rfl⟩

theorem exists_written_of_turned {op turned : HostOperator} (h : op.turned? = some turned) :
    ∃ o, turned.written? = some o := by
  cases op <;> cases h <;> exact ⟨_, rfl⟩

theorem exists_single {op : HostOperator} (h : op.isSingle = true) : ∃ f, op.single? = some f := by
  cases op <;> cases h <;> exact ⟨_, rfl⟩

end HostOperator

namespace Host

/-- Two operands make a call of an operator, in this order or exchanged. -/
theorem apply_pair {op : HostOperator} {x y v : Value} (hpow : op ≠ .pow) (hisin : op ≠ .isin)
    (h : apply op [x, y] = .ok v) :
    ∃ op' o, op'.written? = some o ∧ (v = callOf op' [x, y] ∨ v = callOf op' [y, x]) := by
  unfold apply at h
  split at h
  next => exact absurd rfl hisin
  next heq => cases heq
  next heq => cases heq
  next op' x' y' _ heq =>
    cases heq
    split at h
    next => cases h
    next hsingle =>
      obtain ⟨o, ho⟩ := HostOperator.exists_written (by simpa using hsingle) hpow hisin
      split at h
      next =>
        cases h
        exact ⟨_, o, ho, .inl rfl⟩
      next =>
        split at h
        next => cases h
        next =>
          split at h
          next turned hturned =>
            cases h
            obtain ⟨o', ho'⟩ := HostOperator.exists_written_of_turned hturned
            exact ⟨turned, o', ho', .inr rfl⟩
          next =>
            split at h
            next =>
              cases h
              exact ⟨_, o, ho, .inl rfl⟩
            next => cases h
  next => cases h

/-- One operand makes a call of its operator. -/
theorem apply_single {op : HostOperator} {x v : Value} (h : apply op [x] = .ok v) :
    ∃ f, op.single? = some f ∧ v = callOf op [x] := by
  unfold apply at h
  split at h
  next heq => cases heq
  next heq =>
    cases heq
    split at h
    next =>
      cases h
      exact ⟨_, rfl, rfl⟩
    next => cases h
  next op' x' _ heq =>
    cases heq
    split at h
    next hsingle =>
      cases h
      obtain ⟨f, hf⟩ := HostOperator.exists_single (Bool.and_eq_true_iff.1 hsingle).1
      exact ⟨f, hf, rfl⟩
    next => cases h
  next heq => cases heq
  next => cases h

theorem length_of_apply {op : HostOperator} {args : List Value} {v : Value}
    (h : apply op args = .ok v) : (∃ x, args = [x]) ∨ ∃ x y, args = [x, y] := by
  unfold apply at h
  split at h
  next x vs => exact .inr ⟨x, vs, rfl⟩
  next x => exact .inl ⟨x, rfl⟩
  next x _ => exact .inl ⟨x, rfl⟩
  next x y _ => exact .inr ⟨x, y, rfl⟩
  next => cases h

theorem apply_isin {x vs v : Value} (h : apply .isin [x, vs] = .ok v) :
    ∃ items, vs.items = .ok items ∧ v = callOf .isin [x, .tuple items] := by
  simp only [apply] at h
  split at h
  next =>
    obtain ⟨items, hitems, h⟩ := bind_eq_ok_iff.1 h
    cases h
    exact ⟨items, hitems, rfl⟩
  next => cases h

end Host

/-! ## Rules -/

namespace Backend

/-- A function whose rule makes an expression of these arguments, in every context and
    with every backend. -/
def Builds (f : String) (args : List Value) (e : Expr) : Prop :=
  ∀ (backend : Backend) (c : Context), ∃ rule : Rule,
    backend.variant.resolve f c = .ok rule ∧ ∀ s, rule.build s args [] = .ok e

/-- A second argument makes a sign an operator between two operands. -/
theorem build_signed {name op : String} {single : Expr → Expr} {x y : Value}
    (hy : y ≠ .scalar .omitted) (s : Setting) :
    Rule.build { name, template := General.signed op single } s [x, y] [] =
      .ok (.binary op x.toExpr y.toExpr) := by
  cases y with
  | scalar a =>
    cases a with
    | omitted => exact absurd rfl hy
    | _ => rfl
  | _ => rfl

/-- All other operators between two operands have one shape of rule. -/
theorem resolve_binary {op : HostOperator} {o : Grouping.Operator} (h : op.written? = some o)
    (hadd : op ≠ .add) (hsub : op ≠ .sub) (backend : Backend) (c : Context) :
    backend.variant.resolve op.function c =
      .ok { name := op.function, template := .binary o.text } := by
  cases op with
  | add => exact absurd rfl hadd
  | sub => exact absurd rfl hsub
  | _ =>
    cases h
    all_goals cases backend <;> cases c <;> rfl

theorem builds_pair {op : HostOperator} {o : Grouping.Operator} {x y : Value}
    (h : op.written? = some o) (hy : y ≠ .scalar .omitted) :
    Builds op.function [x, y] (.binary o.text x.toExpr y.toExpr) := by
  intro backend c
  by_cases hadd : op = .add
  · subst hadd
    cases h
    refine ⟨{ name := "+", template := General.plus }, ?_, build_signed hy⟩
    cases backend <;> cases c <;> rfl
  · by_cases hsub : op = .sub
    · subst hsub
      cases h
      refine ⟨{ name := "-", template := General.minus }, ?_, build_signed hy⟩
      cases backend <;> cases c <;> rfl
    · exact ⟨_, resolve_binary h hadd hsub backend c, fun _ => rfl⟩

theorem builds_single {op : HostOperator} {f : Grouping.Operation → Grouping.Operation}
    {x : Value} {o : Grouping.Operation} (h : op.single? = some f) (hx : x.toExpr = o.expr) :
    Builds op.function [x] (f o).expr := by
  intro backend c
  cases op with
  | neg =>
    cases h
    refine ⟨{ name := "-", template := General.minus }, ?_, fun _ => ?_⟩
    · cases backend <;> cases c <;> rfl
    · rw [Grouping.Operation.expr, ← hx]
      rfl
  | not =>
    cases h
    refine ⟨{ name := "!", template := General.not }, ?_, fun _ => ?_⟩
    · cases backend <;> cases c <;> rfl
    · rw [Grouping.Operation.expr, ← hx]
      rfl
  | isMissing =>
    cases h
    refine ⟨{ name := "is_na", template := General.isMissing }, ?_, fun _ => ?_⟩
    · cases backend <;> cases c <;> rfl
    · rw [Grouping.Operation.expr, ← hx]
      rfl
  | _ => cases h

theorem builds_isin_nil (x : Value) : Builds "%in%" [x, .tuple []] (.literal (.bool false)) := by
  intro backend c
  exact ⟨_, resolve_isIn backend c, fun _ => rfl⟩

theorem builds_isin_cons (x item : Value) (items : List Value) :
    Builds "%in%" [x, .tuple (item :: items)]
      (.binary "IN" x.toExpr (.group (item.toExpr :: items.map Value.toExpr))) := by
  intro backend c
  exact ⟨_, resolve_isIn backend c, fun _ => rfl⟩

end Backend

/-! ## Translation -/

namespace Translator

/-- With every translator, in every context and over every window, an argument is
    translated to one value. -/
def Translates (v v' : Value) : Prop :=
  ∀ (t : Translator) (c : Context) (w : Window), (t.argument c w v).outcome = .ok v'

theorem outcome_arguments {vs vs' : List Value} (h : List.Forall₂ Translates vs vs')
    (t : Translator) (c : Context) (w : Window) :
    (arguments t c w vs).outcome = .ok vs' :=
  outcome_arguments_eq_ok_iff.2 (h.imp fun _ _ hv => hv t c w)

theorem translates_tuple {vs vs' : List Value} (h : List.Forall₂ Translates vs vs') :
    Translates (.tuple vs) (.tuple vs') := by
  intro t c w
  rw [argument, Traced.outcome_bind_of_ok (outcome_arguments h t c w)]
  rfl

theorem translates_call {f : String} {args args' : List Value} {e : Expr}
    (hargs : List.Forall₂ Translates args args') (h : Backend.Builds f args' e) :
    Translates (.call f args []) (.sql e) := by
  intro t c w
  obtain ⟨rule, hrule, hbuild⟩ := h t.dialect.backend c
  rw [outcome_argument_call hrule (outcome_arguments hargs t c w) rfl, hbuild]
  rfl

/-- A call is translated to the expression it is as an argument. -/
theorem translate_call {f : String} {args : List Value} {e : Expr}
    (h : Translates (.call f args []) (.sql e)) (t : Translator) (c : Context) (w : Window) :
    (t.translate (.ok c) w (.call f args [])).outcome = .ok e :=
  translate_call_eq_ok_iff.2 (h t c w)

end Translator

/-! ## Operations -/

namespace Grouping

open Translator (Translates translates_call translates_tuple)

/-- What an operation is as an argument: a number stays one. -/
def Operation.value : Operation → Value
  | .whole n => .whole n
  | o => .sql o.expr

theorem Operation.toExpr_value (o : Operation) : o.value.toExpr = o.expr := by
  cases o <;> rfl

theorem Operation.value_ne_omitted (o : Operation) : o.value ≠ .scalar .omitted := by
  cases o <;> simp [value]

/-- A value that is translated to an operation, as an argument and on its own. The
    operation has no empty names. -/
structure TranslatesTo (v : Value) (o : Operation) : Prop where
  argument : Translates v o.value
  translate : ∀ (t : Translator) (c : Context) (w : Window),
    (t.translate (.ok c) w v).outcome = .ok o.expr
  names : "" ∉ o.names

theorem TranslatesTo.call {f : String} {args args' : List Value} {o : Operation}
    (hargs : List.Forall₂ Translates args args') (h : Backend.Builds f args' o.expr)
    (hvalue : o.value = .sql o.expr) (hnames : "" ∉ o.names) :
    TranslatesTo (.call f args []) o := by
  have hcall := translates_call hargs h
  exact ⟨hvalue ▸ hcall, fun t c w => Translator.translate_call hcall t c w, hnames⟩

theorem TranslatesTo.pair {op : HostOperator} {o : Operator} {x y : Value} {l r : Operation}
    (h : op.written? = some o) (hx : TranslatesTo x l) (hy : TranslatesTo y r) :
    TranslatesTo (Host.callOf op [x, y]) (.binary o l r) := by
  refine .call (.cons hx.argument (.cons hy.argument .nil)) ?_ rfl ?_
  · rw [Operation.expr, ← l.toExpr_value, ← r.toExpr_value]
    exact Backend.builds_pair h r.value_ne_omitted
  · exact fun hmem => (List.mem_append.1 hmem).elim hx.names hy.names

theorem TranslatesTo.single {op : HostOperator} {f : Operation → Operation} {x : Value}
    {o : Operation} (h : op.single? = some f) (hx : TranslatesTo x o) :
    TranslatesTo (Host.callOf op [x]) (f o) := by
  have hf : (f o).value = .sql (f o).expr ∧ (f o).names = o.names := by
    cases op <;> cases h <;> exact ⟨rfl, rfl⟩
  refine .call (.cons hx.argument .nil) (Backend.builds_single h o.toExpr_value) hf.1 ?_
  rw [hf.2]
  exact hx.names

theorem Operation.exprAll_eq_map (os : List Operation) :
    exprAll os = (os.map Operation.value).map Value.toExpr := by
  induction os with
  | nil => rfl
  | cons o os ih => rw [exprAll, List.map_cons, List.map_cons, o.toExpr_value, ih]

theorem names_of_translatesTo {vs : List Value} {os : List Operation}
    (h : List.Forall₂ TranslatesTo vs os) : "" ∉ Operation.namesAll os := by
  induction h with
  | nil => exact List.not_mem_nil
  | cons hv _ ih => exact fun hmem => (List.mem_append.1 hmem).elim hv.names ih

/-- Membership in no item is false, whatever is looked for. -/
theorem TranslatesTo.isin {x : Value} {items : List Value} {o : Operation}
    {os : List Operation} (hx : TranslatesTo x o) (hitems : List.Forall₂ TranslatesTo items os) :
    ∃ o', TranslatesTo (Host.callOf .isin [x, .tuple items]) o' := by
  have hvalues : List.Forall₂ Translates items (os.map Operation.value) :=
    List.forall₂_map_right_iff.2 (hitems.imp fun _ _ h => h.argument)
  have hargs : List.Forall₂ Translates [x, .tuple items]
      [o.value, .tuple (os.map Operation.value)] :=
    .cons hx.argument (.cons (translates_tuple hvalues) .nil)
  have hnames := names_of_translatesTo hitems
  cases os with
  | nil =>
    refine ⟨.truth false, .call hargs (Backend.builds_isin_nil o.value) rfl ?_⟩
    exact List.not_mem_nil
  | cons first rest =>
    refine ⟨.among o first rest, .call hargs ?_ rfl ?_⟩
    · rw [Operation.expr, Operation.exprAll_eq_map, ← o.toExpr_value, ← first.toExpr_value]
      exact Backend.builds_isin_cons _ _ _
    · exact fun hmem => (List.mem_append.1 hmem).elim hx.names hnames

/-- What is built by operators is translated to an operation. -/
theorem exists_translatesTo {v : Value} (hv : v.OperatorBuilt) : ∃ o, TranslatesTo v o := by
  -- Each operand is translated on its own, whatever the operator does with it, so the
  -- hypotheses of the induction are about the operands as arguments.
  induction hv with
  | @column name table hname htable =>
    refine ⟨.column name table, fun _ _ _ => rfl, fun _ _ _ => rfl, ?_⟩
    cases table with
    | none => simpa [Operation.names] using hname.symm
    | some table =>
      have htable : table ≠ "" := fun h => htable (congrArg some h)
      simp [Operation.names, hname.symm, htable.symm]
  | whole n => exact ⟨.whole n, fun _ _ _ => rfl, fun _ _ _ => rfl, by simp [Operation.names]⟩
  | apply hpow hisin _ h ih =>
    obtain ⟨x, rfl⟩ | ⟨x, y, rfl⟩ := Host.length_of_apply h
    · obtain ⟨f, hf, rfl⟩ := Host.apply_single h
      obtain ⟨o, ho⟩ := ih x List.mem_cons_self
      exact ⟨f o, .single hf ho⟩
    · obtain ⟨op', o, ho, rfl | rfl⟩ := Host.apply_pair hpow hisin h
      all_goals
        obtain ⟨l, hl⟩ := ih x List.mem_cons_self
        obtain ⟨r, hr⟩ := ih y (List.mem_cons_of_mem x List.mem_cons_self)
      · exact ⟨_, .pair ho hl hr⟩
      · exact ⟨_, .pair ho hr hl⟩
  | isin hx hvs _ h ihx ihitems =>
    obtain ⟨items', hitems', rfl⟩ := Host.apply_isin h
    rw [hvs] at hitems'
    cases hitems'
    obtain ⟨o, ho⟩ := ihx
    obtain ⟨os, hos⟩ := exists_forall₂ ihitems
    exact ho.isin hos

/-- With every backend, in every context and over every window, what is built of columns
    and whole numbers by operators is translated to an operation. It has a text when its
    numbers are not too long, and the text is read back, by the precedence of operators,
    as the translated expression up to parentheses exactly when the names of the
    operation are read back and it keeps its grouping. -/
theorem read_toSql_iff {v : Value} (hv : v.OperatorBuilt) (t : Translator) (c : Context)
    (w : Window) :
    ∃ o : Operation, (t.translate (.ok c) w v).outcome = .ok o.expr ∧
      ((∀ n ∈ o.wholes, IsWritable n) → ∃ s, t.toSql (.ok c) w v = .ok s) ∧
      ∀ s, t.toSql (.ok c) w v = .ok s →
        ((∃ x, read s = some x ∧ x.expr.bare = o.expr.bare) ↔
          o.isReadable = true ∧ o.keepsGrouping = true) := by
  obtain ⟨o, ho⟩ := exists_translatesTo hv
  have hsql : t.toSql (.ok c) w v = o.expr.render t.dialect := by
    rw [Translator.toSql, ho.translate t c w, ok_bind]
  refine ⟨o, ho.translate t c w, fun hwritable => ?_, fun s hs => ?_⟩
  · rw [hsql]
    exact (vetted_expr hwritable).exists_render
  · rw [hsql] at hs
    exact exists_read_iff ho.names hs

/-- The text of `(a + 1) * b` is read back. -/
theorem read_toSql_product :
    (Host.callOf .mul [Host.callOf .add [.column "a" none, .whole 1],
        .column "b" none]).OperatorBuilt ∧
      ∃ e s x, (Translator.translate ⟨.standard .ansi, {}⟩ (.ok .scalar) {}
          (Host.callOf .mul [Host.callOf .add [.column "a" none, .whole 1],
            .column "b" none])).outcome = .ok e ∧
        Translator.toSql ⟨.standard .ansi, {}⟩ (.ok .scalar) {}
            (Host.callOf .mul [Host.callOf .add [.column "a" none, .whole 1],
              .column "b" none]) = .ok s ∧
          read s = some x ∧ x.expr.bare = e.bare := by
  have hsum : (Host.callOf .add [.column "a" none, .whole 1]).OperatorBuilt :=
    .pair (o := .add) (by decide) (by decide) (.plain "a" (by decide)) (.whole 1) rfl
  have hproduct : (Host.callOf .mul [Host.callOf .add [.column "a" none, .whole 1],
      .column "b" none]).OperatorBuilt :=
    .pair (o := .mul) (by decide) (by decide) hsum (.plain "b" (by decide)) rfl
  obtain ⟨o, ho, htext, hread⟩ := read_toSql_iff hproduct ⟨.standard .ansi, {}⟩ .scalar {}
  have hproductOf : o = .binary .mul (.binary .add (.column "a" none) (.whole 1))
      (.column "b" none) :=
    Operation.eq_of_bare_eq (congrArg Expr.bare (Except.ok.inj ho).symm)
  subst hproductOf
  have hwritable : ∀ n ∈ (Operation.binary .mul (.binary .add (.column "a" none) (.whole 1))
      (.column "b" none)).wholes, IsWritable n := by
    intro n hn
    have hone : n = 1 := by simpa [Operation.wholes] using hn
    rw [hone]
    exact isWritable_of_lt_ten (by decide)
  obtain ⟨s, hs⟩ := htext hwritable
  obtain ⟨x, hx, hbare⟩ := (hread s hs).2 ⟨by decide, by decide⟩
  exact ⟨hproduct, _, s, x, ho, hs, hx, hbare⟩

/-- A comparison compared again, with the same operator. -/
def comparedTwice : Value :=
  Host.callOf .eq [Host.callOf .eq [.column "a" none, .column "b" none], .column "c" none]

/-- `(a = b) = c` is written as a chain, which is no operation. -/
theorem not_read_toSql_chain :
    comparedTwice.OperatorBuilt ∧ ∃ e,
      (Translator.translate ⟨.standard .postgres, {}⟩ (.ok .scalar) {} comparedTwice).outcome =
          .ok e ∧
        Translator.toSql ⟨.standard .postgres, {}⟩ (.ok .scalar) {} comparedTwice =
            .ok "a = b = c" ∧
          ¬ ∃ x, read "a = b = c" = some x ∧ x.expr.bare = e.bare := by
  have hinner : (Host.callOf .eq [.column "a" none, .column "b" none]).OperatorBuilt :=
    .pair (o := .eq) (by decide) (by decide) (.plain "a" (by decide)) (.plain "b" (by decide)) rfl
  have houter : comparedTwice.OperatorBuilt :=
    .pair (o := .eq) (by decide) (by decide) hinner (.plain "c" (by decide)) rfl
  refine ⟨houter, _, rfl, rfl, ?_⟩
  have hiff := exists_read_iff (d := .standard .postgres) (s := "a = b = c")
    (o := .binary .eq (.binary .eq (.column "a" none) (.column "b" none)) (.column "c" none))
    (by decide) rfl
  intro hread
  cases (hiff.1 hread).2

end Grouping

end SqlDialects
