-- SUMMARY: Opening a chain of traced results and a list of translated arguments: what an outcome tells about the outcomes before it.
import SqlDialects.Proofs.Lists
import SqlDialects.Translation

/-!
# Traced results

The outcome of a chain of traced steps is the outcome of the chain without traces,
so it is taken apart by the lemmas about steps that may fail. Arguments are translated
one by one, each to one in its place or under its name; the named ones of a call are those
of its table.
-/

namespace SqlDialects.Traced

variable {α β : Type}

theorem outcome_bind_eq_ok_iff {x : Traced α} {f : α → Traced β} {b : β} :
    (x >>= f).outcome = .ok b ↔ ∃ a, x.outcome = .ok a ∧ (f a).outcome = .ok b := by
  rw [outcome_bind]
  exact bind_eq_ok_iff

theorem outcome_bind_of_ok {x : Traced α} {a : α} (h : x.outcome = .ok a) (f : α → Traced β) :
    (x >>= f).outcome = (f a).outcome := by
  rw [outcome_bind, h]
  rfl

end SqlDialects.Traced

namespace SqlDialects.Translator

/-- What is resolved is what the backend's registries give. -/
theorem outcome_resolve (t : Translator) (c : Context) (name : String) :
    (t.resolve c name).outcome = t.dialect.backend.variant.resolve name c := by
  rw [resolve, Traced.outcome_bind]
  cases h : t.dialect.backend.variant.resolve name c with
  | error e => rfl
  | ok rule => rfl

/-- Translate a table of named arguments. -/
def namedArguments (t : Translator) (c : Context) (w : Window) (named : NameTable Value) :
    Traced (NameTable Value) :=
  Traced.inOrder (t.eachNamed c w named)

theorem eachNamed_eq_map (t : Translator) (c : Context) (w : Window)
    (named : List (String × Value)) :
    t.eachNamed c w named = named.map fun n => (n.1, t.argument c w n.2) := by
  induction named with
  | nil => rfl
  | cons n rest ih => rw [eachNamed, ih, List.map_cons]

/-- A call is translated by the table of its named arguments. -/
theorem argument_call (t : Translator) (c : Context) (w : Window) (name : String)
    (args : List Value) (named : List (String × Value)) :
    t.argument c w (.call name args named) = (do
      let rule ← t.resolve c name
      let args ← t.arguments c w args
      let named ← t.namedArguments c w (NameTable.ofList named)
      let e ← .ofExcept (rule.build (t.setting c w) args named)
      return .sql e) := by
  rw [argument, eachNamed_eq_map, NameTable.ofList_map, ← eachNamed_eq_map]
  rfl

/-- A call whose arguments translate is, as an argument, what its rule builds of them. -/
theorem outcome_argument_call {t : Translator} {c : Context} {w : Window} {name : String} {r : Rule}
    {args args' : List Value} {named : List (String × Value)} {named' : NameTable Value}
    (hresolve : t.dialect.backend.variant.resolve name c = .ok r)
    (hargs : (t.arguments c w args).outcome = .ok args')
    (hnamed : (t.namedArguments c w (NameTable.ofList named)).outcome = .ok named') :
    (t.argument c w (.call name args named)).outcome =
      (r.build (t.setting c w) args' named').map .sql := by
  rw [← outcome_resolve] at hresolve
  rw [argument_call, Traced.outcome_bind_of_ok hresolve, Traced.outcome_bind_of_ok hargs,
    Traced.outcome_bind_of_ok hnamed]
  cases r.build (t.setting c w) args' named' with
  | error e => rfl
  | ok e => rfl

/-- A call whose arguments translate is translated to what its rule builds of them. -/
theorem outcome_translate_call {t : Translator} {c : Context} {w : Window} {name : String}
    {r : Rule} {args args' : List Value} {named : List (String × Value)} {named' : NameTable Value}
    (hresolve : t.dialect.backend.variant.resolve name c = .ok r)
    (hargs : (t.arguments c w args).outcome = .ok args')
    (hnamed : (t.namedArguments c w (NameTable.ofList named)).outcome = .ok named') :
    (t.translate (.ok c) w (.call name args named)).outcome =
      r.build (t.setting c w) args' named' := by
  have hcontext : (Traced.ofExcept (.ok c : Except Error Context)).outcome = .ok c := rfl
  rw [translate, Traced.outcome_bind_of_ok hcontext, call, Traced.outcome_bind,
    outcome_argument_call hresolve hargs hnamed]
  cases r.build (t.setting c w) args' named' with
  | error e => rfl
  | ok e => rfl

/-- A call is translated to what it is as an argument. -/
theorem translate_call_eq_ok_iff {t : Translator} {c : Context} {w : Window} {name : String}
    {args : List Value} {named : List (String × Value)} {e : Expr} :
    (t.translate (.ok c) w (.call name args named)).outcome = .ok e ↔
      (t.argument c w (.call name args named)).outcome = .ok (.sql e) := by
  have hcontext : (Traced.ofExcept (.ok c : Except Error Context)).outcome = .ok c := rfl
  rw [translate, Traced.outcome_bind_of_ok hcontext, call, Traced.outcome_bind_eq_ok_iff]
  constructor
  · rintro ⟨v, hv, h⟩
    split at h
    · cases h
      exact hv
    · cases h
  · intro h
    exact ⟨_, h, rfl⟩

/-! ## Arguments -/

variable {t : Translator} {c : Context} {w : Window}

/-- Positional arguments are translated one by one. -/
theorem outcome_arguments_eq_ok_iff {vs vs' : List Value} :
    (t.arguments c w vs).outcome = .ok vs' ↔
      List.Forall₂ (fun v v' => (t.argument c w v).outcome = .ok v') vs vs' := by
  induction vs generalizing vs' with
  | nil =>
    rw [List.forall₂_nil_left_iff, eq_comm]
    exact pure_eq_ok_iff
  | cons v vs ih =>
    simp only [arguments, Traced.outcome_bind_eq_ok_iff, ih, List.forall₂_cons_left_iff]
    constructor
    · rintro ⟨v', hv, rest, hrest, h⟩
      cases h
      exact ⟨v', rest, hv, hrest, rfl⟩
    · rintro ⟨v', rest, hv, hrest, rfl⟩
      exact ⟨v', hv, rest, hrest, rfl⟩

/-- Arguments that are translated to the same are together, too. -/
theorem outcome_arguments_congr {t' : Translator} {vs : List Value}
    (h : ∀ v ∈ vs, (t'.argument c w v).outcome = (t.argument c w v).outcome) :
    (t'.arguments c w vs).outcome = (t.arguments c w vs).outcome := by
  induction vs with
  | nil => rfl
  | cons v vs ih =>
    obtain ⟨hv, hvs⟩ := List.forall_mem_cons.1 h
    simp only [arguments, Traced.outcome_bind, hv, ih hvs]

theorem exists_argument_of_getElem? {vs vs' : List Value}
    (h : (t.arguments c w vs).outcome = .ok vs') {i : Nat} {v : Value} (hv : vs[i]? = some v) :
    ∃ v', vs'[i]? = some v' ∧ (t.argument c w v).outcome = .ok v' :=
  exists_of_getElem?_left (outcome_arguments_eq_ok_iff.1 h) hv

theorem exists_of_getElem?_arguments {vs vs' : List Value}
    (h : (t.arguments c w vs).outcome = .ok vs') {i : Nat} {v' : Value} (hv : vs'[i]? = some v') :
    ∃ v, vs[i]? = some v ∧ (t.argument c w v).outcome = .ok v' :=
  exists_of_getElem?_right (outcome_arguments_eq_ok_iff.1 h) hv

theorem exists_of_mem_arguments {vs vs' : List Value}
    (h : (t.arguments c w vs).outcome = .ok vs') {v' : Value} (hv : v' ∈ vs') :
    ∃ v ∈ vs, (t.argument c w v).outcome = .ok v' :=
  exists_of_mem_right (outcome_arguments_eq_ok_iff.1 h) hv

theorem namedArguments_cons (n : String × Value) (rest : NameTable Value) :
    t.namedArguments c w (n :: rest) = (do
      let v ← t.argument c w n.2
      let rest ← t.namedArguments c w rest
      return (n.1, v) :: rest) := rfl

/-- Named arguments are translated one by one and keep their names. -/
theorem outcome_namedArguments_eq_ok_iff {named named' : NameTable Value} :
    (t.namedArguments c w named).outcome = .ok named' ↔
      List.Forall₂ (fun n n' => n.1 = n'.1 ∧ (t.argument c w n.2).outcome = .ok n'.2)
        named named' := by
  induction named generalizing named' with
  | nil =>
    rw [List.forall₂_nil_left_iff, eq_comm]
    exact pure_eq_ok_iff
  | cons n named ih =>
    simp only [namedArguments_cons, Traced.outcome_bind_eq_ok_iff, ih, List.forall₂_cons_left_iff]
    constructor
    · rintro ⟨v', hv, rest, hrest, h⟩
      cases h
      exact ⟨(n.1, v'), rest, ⟨rfl, hv⟩, hrest, rfl⟩
    · rintro ⟨⟨_, v'⟩, rest, ⟨rfl, hv⟩, hrest, rfl⟩
      exact ⟨v', hv, rest, hrest, rfl⟩

theorem outcome_namedArguments_congr {t' : Translator} {named : NameTable Value}
    (h : ∀ n ∈ named, (t'.argument c w n.2).outcome = (t.argument c w n.2).outcome) :
    (t'.namedArguments c w named).outcome = (t.namedArguments c w named).outcome := by
  induction named with
  | nil => rfl
  | cons n named ih =>
    obtain ⟨hn, hnamed⟩ := List.forall_mem_cons.1 h
    simp only [namedArguments_cons, Traced.outcome_bind, hn, ih hnamed]

theorem names_namedArguments {named named' : List (String × Value)}
    (h : (t.namedArguments c w named).outcome = .ok named') :
    named'.map (·.1) = named.map (·.1) := by
  have hnames : List.Forall₂ (· = ·) (named.map (·.1)) (named'.map (·.1)) :=
    List.forall₂_map_left_iff.2 (List.forall₂_map_right_iff.2
      ((outcome_namedArguments_eq_ok_iff.1 h).imp fun _ _ hn => hn.1))
  rw [List.forall₂_eq_eq_eq] at hnames
  exact hnames.symm

theorem exists_argument_of_mem {named named' : List (String × Value)}
    (h : (t.namedArguments c w named).outcome = .ok named') {name : String} {v : Value}
    (hv : (name, v) ∈ named) :
    ∃ v', (name, v') ∈ named' ∧ (t.argument c w v).outcome = .ok v' := by
  obtain ⟨⟨name', v'⟩, hmem, hname, harg⟩ :=
    exists_of_mem_left (outcome_namedArguments_eq_ok_iff.1 h) hv
  cases hname
  exact ⟨v', hmem, harg⟩

theorem exists_of_mem_namedArguments {named named' : List (String × Value)}
    (h : (t.namedArguments c w named).outcome = .ok named') {name : String} {v' : Value}
    (hv : (name, v') ∈ named') :
    ∃ v, (name, v) ∈ named ∧ (t.argument c w v).outcome = .ok v' := by
  obtain ⟨⟨name', v⟩, hmem, hname, harg⟩ :=
    exists_of_mem_right (outcome_namedArguments_eq_ok_iff.1 h) hv
  cases hname
  exact ⟨v, hmem, harg⟩

end SqlDialects.Translator
