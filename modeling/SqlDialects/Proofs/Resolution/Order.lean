-- SUMMARY: Names are resolved in the order in which the calls of a tree are written, and a name without a rule is the next of them.
import SqlDialects.Proofs.Resolution.Failures
import SqlDialects.Proofs.Traced

/-!
# The order of resolution

The calls of a tree are written in an order: a call before its arguments, the
positional ones from left to right and then the named ones. Translation resolves
their names in this order and traces each, until it is through or fails. When it
fails because a name has no rule, the name is the next in the order.
-/

namespace SqlDialects

/-! ## Calls of a tree -/

mutual

/-- The names of the calls in a value, in the order in which they are written. Of arguments
    under one name the last counts, in the place of the first. -/
def Value.calls : Value → List String
  | .call name args named =>
    name :: (callsOf args ++ (NameTable.ofList (callsOfNamed named)).flatMap (·.2))
  | .fixed pattern => pattern.calls
  | .list items => callsOf items
  | .tuple items => callsOf items
  | _ => []

def callsOf : List Value → List String
  | [] => []
  | v :: vs => v.calls ++ callsOf vs

def callsOfNamed : List (String × Value) → List (String × List String)
  | [] => []
  | (name, v) :: rest => (name, v.calls) :: callsOfNamed rest

end

theorem callsOf_eq_flatMap (vs : List Value) : callsOf vs = vs.flatMap Value.calls := by
  induction vs with
  | nil => rfl
  | cons v vs ih => rw [callsOf, ih, List.flatMap_cons]

theorem callsOfNamed_eq_map (named : List (String × Value)) :
    callsOfNamed named = named.map fun n => (n.1, n.2.calls) := by
  induction named with
  | nil => rfl
  | cons n rest ih => rw [callsOfNamed, ih, List.map_cons]

/-- The calls in a call go by the table of its named arguments. -/
theorem Value.calls_call (name : String) (args : List Value) (named : List (String × Value)) :
    (Value.call name args named).calls =
      name :: (args.flatMap Value.calls ++ (NameTable.ofList named).flatMap (·.2.calls)) := by
  rw [Value.calls, callsOf_eq_flatMap, callsOfNamed_eq_map, NameTable.ofList_map,
    List.flatMap_map]

/-! ## Going through calls -/

namespace Translator

/-- A name has a rule neither in the context nor among the scalar ones. -/
def Lacks (t : Translator) (c : Context) (name : String) : Prop :=
  (t.dialect.backend.variant.select c).get? name = none ∧
    t.dialect.backend.variant.scalar.get? name = none

/-- A traced result goes through calls in their order. The first of them are resolved,
    and all are when there is a result; when a name has no rule, it is the next. -/
def GoesThrough {α : Type} (t : Translator) (c : Context) (calls : List String) (x : Traced α) :
    Prop :=
  ∃ resolved pending, calls = resolved ++ pending ∧
    x.trace = resolved.map (fun name => ⟨name, c, t.dialect.backend⟩) ∧
    (∀ a, x.outcome = .ok a → pending = []) ∧
    ∀ name context, x.outcome = .error (.unknownFunction name context) →
      pending.head? = some name ∧ t.Lacks c name ∧
        context = some (t.dialect.backend.variant.select c).ownName

variable {t : Translator} {c : Context} {w : Window}

section

variable {α β : Type}

theorem goesThrough_pure (a : α) : t.GoesThrough c [] (pure a : Traced α) :=
  ⟨[], [], rfl, rfl, fun _ _ => rfl, nofun⟩

/-- A step that looks no name up goes through no call. -/
theorem goesThrough_ofExcept {x : Except Error α} (h : MissesNoRule x) :
    t.GoesThrough c [] (Traced.ofExcept x) :=
  ⟨[], [], rfl, rfl, fun _ _ => rfl, fun _ _ hx => nomatch h _ hx⟩

/-- One result after another goes through the calls of the one, then of the other. What
    is left of the first calls when there is no result is left before the others. -/
theorem GoesThrough.bind {x : Traced α} {f : α → Traced β} {first second : List String}
    (hx : t.GoesThrough c first x) (hf : ∀ a, x.outcome = .ok a → t.GoesThrough c second (f a)) :
    t.GoesThrough c (first ++ second) (x >>= f) := by
  obtain ⟨resolved, pending, rfl, htrace, hok, hunknown⟩ := hx
  cases hx : x.outcome with
  | error e =>
    refine ⟨resolved, pending ++ second, List.append_assoc .., ?_, ?_, ?_⟩
    · rw [Traced.trace_bind_of_error hx, htrace]
    · intro b hb
      rw [Traced.outcome_bind, hx] at hb
      cases hb
    · intro name context he
      rw [Traced.outcome_bind, hx] at he
      cases he
      obtain ⟨hhead, hlacks⟩ := hunknown name context hx
      exact ⟨by rw [List.head?_append, hhead]; rfl, hlacks⟩
  | ok a =>
    obtain ⟨resolved', pending', rfl, htrace', hok', hunknown'⟩ := hf a hx
    obtain rfl := hok a hx
    refine ⟨resolved ++ resolved', pending', by simp, ?_, ?_, ?_⟩
    · rw [Traced.trace_bind_of_ok hx, htrace, htrace', List.map_append]
    · intro b hb
      rw [Traced.outcome_bind_of_ok hx] at hb
      exact hok' b hb
    · intro name context he
      rw [Traced.outcome_bind_of_ok hx] at he
      exact hunknown' name context he

end

theorem goesThrough_resolve (name : String) : t.GoesThrough c [name] (t.resolve c name) := by
  cases hrule : t.dialect.backend.variant.resolve name c with
  | ok rule =>
    have hresolved : t.resolve c name = ⟨[⟨name, c, t.dialect.backend⟩], .ok rule⟩ := by
      rw [resolve, hrule]
      rfl
    rw [hresolved]
    refine ⟨[name], [], rfl, rfl, fun _ _ => rfl, fun missing context he => ?_⟩
    cases he
  | error e =>
    have hresolved : t.resolve c name = ⟨[], .error e⟩ := by
      rw [resolve, hrule]
      rfl
    rw [hresolved]
    refine ⟨[], [name], rfl, rfl, fun a ha => ?_, fun missing context he => ?_⟩
    · cases ha
    · cases he
      unfold Variant.resolve at hrule
      split at hrule
      · cases hrule
      next hown =>
        split at hrule
        · cases hrule
        next hscalar =>
          cases hrule
          exact ⟨rfl, ⟨hown, hscalar⟩, rfl⟩

/-! ## Translation -/

theorem goesThrough_arguments {vs : List Value}
    (h : ∀ v ∈ vs, t.GoesThrough c v.calls (t.argument c w v)) :
    t.GoesThrough c (vs.flatMap Value.calls) (t.arguments c w vs) := by
  induction vs with
  | nil => exact goesThrough_pure _
  | cons v vs ih =>
    obtain ⟨hv, hvs⟩ := List.forall_mem_cons.1 h
    rw [arguments, List.flatMap_cons, ← List.append_nil (vs.flatMap _)]
    exact hv.bind fun _ _ => (ih hvs).bind fun _ _ => goesThrough_pure _

theorem goesThrough_namedArguments {named : NameTable Value}
    (h : ∀ n ∈ named, t.GoesThrough c n.2.calls (t.argument c w n.2)) :
    t.GoesThrough c (named.flatMap (·.2.calls)) (t.namedArguments c w named) := by
  induction named with
  | nil => exact goesThrough_pure _
  | cons n rest ih =>
    obtain ⟨hn, hrest⟩ := List.forall_mem_cons.1 h
    rw [namedArguments_cons, List.flatMap_cons, ← List.append_nil (rest.flatMap _)]
    exact hn.bind fun _ _ => (ih hrest).bind fun _ _ => goesThrough_pure _

/-- The translation of an argument goes through the calls of its tree. -/
theorem goesThrough_argument (v : Value) : t.GoesThrough c v.calls (t.argument c w v) := by
  induction v using Value.tree_induction with
  | call name args named ihargs ihnamed =>
    rw [argument_call, Value.calls_call, ← List.singleton_append]
    refine (goesThrough_resolve name).bind fun rule hrule => ?_
    rw [outcome_resolve] at hrule
    refine (goesThrough_arguments ihargs).bind fun args' _ => ?_
    rw [← List.append_nil ((NameTable.ofList named).flatMap _)]
    refine GoesThrough.bind (goesThrough_namedArguments fun n hn =>
      ihnamed n (NameTable.mem_of_mem_ofList hn)) fun named' _ => ?_
    have hbuild :=
      (Backend.isClosed_of_resolve hrule).missesNoRule_build (t.setting c w) args' named'
    exact (goesThrough_ofExcept hbuild).bind fun e _ => goesThrough_pure _
  | fixed pattern ih =>
    rw [argument, Value.calls, ← List.append_nil pattern.calls]
    exact ih.bind fun _ _ => goesThrough_pure _
  | list items ih | tuple items ih =>
    rw [argument, Value.calls, callsOf_eq_flatMap, ← List.append_nil (items.flatMap _)]
    exact (goesThrough_arguments ih).bind fun _ _ => goesThrough_pure _
  | column => exact goesThrough_pure _
  | scalar => exact goesThrough_pure _
  | sql => exact goesThrough_pure _
  | window => exact goesThrough_pure _

theorem goesThrough_call (name : String) (args : List Value) (named : List (String × Value)) :
    t.GoesThrough c (Value.call name args named).calls (t.call c w name args named) := by
  rw [call, ← List.append_nil (Value.calls _)]
  refine (goesThrough_argument _).bind fun v _ => ?_
  split
  · exact goesThrough_pure _
  · exact goesThrough_ofExcept (missesNoRule_error rfl)

theorem goesThrough_translate (name : String) (args : List Value) (named : List (String × Value)) :
    t.GoesThrough c (Value.call name args named).calls
      (t.translate (.ok c) w (.call name args named)) := by
  rw [translate, ← List.nil_append (Value.calls _)]
  refine (goesThrough_ofExcept (missesNoRule_ok c)).bind fun c' hc => ?_
  cases hc
  exact goesThrough_call name args named

/-- With every dialect, in every context and over every window, the names resolved for a
    call come first among the calls of its tree, in the order in which these are written,
    and they are all of them when there is a translation. When a name has no rule, it is
    the next call: it is found neither in the registries of the context nor in the scalar
    ones, and what is reported is the name of the registry of the context. Of arguments
    under one name the last counts, in the tree as in the translation. -/
theorem records_translate (t : Translator) (c : Context) (w : Window) (name : String)
    (args : List Value) (named : List (String × Value)) :
    ∃ resolved pending,
      (Value.call name args named).calls = resolved ++ pending ∧
      (t.translate (.ok c) w (.call name args named)).trace.map Resolution.record =
        resolved.map (fun n => .debug "translate" ("Resolved " ++ n ++ " in " ++ c.text ++
          " context for " ++ t.dialect.backend.displayName)) ∧
      (∀ e, (t.translate (.ok c) w (.call name args named)).outcome = .ok e → pending = []) ∧
      ∀ missing registry, (t.translate (.ok c) w (.call name args named)).outcome =
          .error (.unknownFunction missing registry) →
        pending.head? = some missing ∧
          (t.dialect.backend.variant.select c).get? missing = none ∧
          t.dialect.backend.variant.scalar.get? missing = none ∧
          registry = some (t.dialect.backend.variant.select c).ownName := by
  obtain ⟨resolved, pending, hcalls, htrace, hok, hunknown⟩ :=
    goesThrough_translate (t := t) (c := c) (w := w) name args named
  refine ⟨resolved, pending, hcalls, ?_, hok, fun missing registry h => ?_⟩
  · rw [htrace, List.map_map]
    rfl
  · obtain ⟨hhead, ⟨hown, hscalar⟩, hregistry⟩ := hunknown missing registry h
    exact ⟨hhead, hown, hscalar, hregistry⟩

/-- The sum and the lower-cased column are resolved; the window function is not found
    among the aggregates, and the absolute value behind it is not reached. -/
example : (translate ⟨.standard .ansi, {}⟩ (.ok .aggregate) {}
    (.call "sum" [.call "tolower" [.column "x" none] [], .call "lag" [.call "abs" [] []] []]
      [])).trace.map (·.name) = ["sum", "tolower"] := rfl

end Translator

end SqlDialects
