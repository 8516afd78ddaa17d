-- SUMMARY: What holds of the arguments and the defaults of parameters holds of whatever the parameters are bound to, also after validation.
import SqlDialects.Proofs.Binding

/-!
# Bound values

What a parameter may be bound to can be asked for by the name of the parameter. When
every argument and every default is as its parameter asks, so is whatever binding
binds, and it stays so when validators run that keep what is asked for.
-/

namespace SqlDialects

/-- Whatever a parameter is bound to is as asked. -/
def Bound.All (P : Value → Prop) : Bound → Prop
  | .one v => P v
  | .many vs => ∀ v ∈ vs, P v
  | .fields named => ∀ n ∈ named, P n.2

theorem Bound.All.mono {p q : Value → Prop} {b : Bound} (h : b.All p) (hpq : ∀ v, p v → q v) :
    b.All q := by
  cases b with
  | one v => exact hpq v h
  | many vs => exact fun v hv => hpq v (h v hv)
  | fields named => exact fun n hn => hpq n.2 (h n hn)

/-- All parameters are bound to what their names ask for. -/
def Arguments.All (P : String → Value → Prop) (args : Arguments) : Prop :=
  ∀ a ∈ args, a.2.All (P a.1)

/-- A validator gives back what is asked for when it is given that. -/
def Validator.Keeps (P : Value → Prop) (validator : Validator) : Prop :=
  ∀ v w, P v → validator.apply v = .ok w → P w

variable {P : String → Value → Prop}

namespace Arguments.All

variable {args args' : Arguments}

theorem value (h : args.All P) {name : String} (hnull : P name .null) :
    P name (args.value name) := by
  unfold Arguments.value
  split
  next v hv => exact h _ (mem_of_lookup hv)
  next => exact hnull

theorem rest (h : args.All P) (name : String) : ∀ v ∈ args.rest name, P name v := by
  unfold Arguments.rest
  split
  next vs hvs => exact h _ (mem_of_lookup hvs)
  next => exact List.forall_mem_nil _

theorem nil : Arguments.All P [] := List.forall_mem_nil _

theorem cons {name : String} {b : Bound} (hb : b.All (P name)) (h : args.All P) :
    Arguments.All P ((name, b) :: args) :=
  List.forall_mem_cons.2 ⟨hb, h⟩

theorem append (h : args.All P) (h' : args'.All P) : Arguments.All P (args ++ args') :=
  List.forall_mem_append.2 ⟨h, h'⟩

theorem set (h : args.All P) {name : String} {b : Bound} (hb : b.All (P name)) :
    (args.set name b).All P := by
  intro a ha
  obtain ⟨⟨n, old⟩, hmem, rfl⟩ := List.mem_map.1 ha
  show Bound.All (P n) (if n == name then b else old)
  split
  next hname =>
    rw [eq_of_beq hname]
    exact hb
  next => exact h _ hmem

end Arguments.All

/-! ## Binding -/

namespace Signature

/-- Every argument is as the parameter asks that it can be bound to. -/
structure Meets (P : String → Value → Prop) (sig : Signature) (args : List Value)
    (named : List (String × Value)) : Prop where
  byPosition : ∀ (i : Nat) (p : Param) (v : Value),
    sig[i]? = some p → args[i]? = some v → P p.name v
  rest : ∀ p ∈ sig, p.kind = .rest → ∀ v ∈ args, P p.name v
  byName : ∀ n ∈ named, P n.1 n.2
  extra : ∀ p ∈ sig, p.kind = .extra → ∀ n ∈ named, P p.name n.2

variable {sig left : Signature} {args : List Value} {named leftNamed : List (String × Value)}
variable {bound : Arguments}

theorem all_bindPositional
    (hposition : ∀ (i : Nat) (p : Param) (v : Value),
      sig[i]? = some p → args[i]? = some v → P p.name v)
    (hrest : ∀ p ∈ sig, p.kind = .rest → ∀ v ∈ args, P p.name v)
    (h : bindPositional named sig args = .ok (bound, left)) : bound.All P := by
  -- the parameters are gone through with the arguments, and each binds at most once
  induction args generalizing sig bound left with
  | nil =>
    rw [bindPositional] at h
    rw [(stopAt_eq_ok h).1]
    exact .nil
  | cons v vs ih =>
    cases sig with
    | nil => cases h
    | cons p ps =>
      obtain ⟨hkind, rfl, rfl⟩ | ⟨bound', _, hps, rfl⟩ := cases_of_bindPositional h
      · exact .cons (hrest p List.mem_cons_self hkind) .nil
      · refine .cons (hposition 0 p v rfl rfl) (ih (fun i => hposition (i + 1)) ?_ hps)
        exact fun q hq hkind u hu =>
          hrest q (List.mem_cons_of_mem _ hq) hkind u (List.mem_cons_of_mem _ hu)

theorem all_bindNamed (hnamed : ∀ n ∈ named, P n.1 n.2)
    (h : bindNamed sig named = .ok (bound, leftNamed)) :
    bound.All P ∧ ∀ n ∈ leftNamed, n ∈ named := by
  induction sig generalizing named bound leftNamed with
  | nil =>
    cases h
    exact ⟨.nil, fun n hn => hn⟩
  | cons p ps ih =>
    obtain ⟨v, bound', _, hv, hps, rfl⟩ | ⟨_, hps⟩ := cases_of_bindNamed h
    · obtain ⟨hbound, hleft⟩ := ih (fun n hn => hnamed n (mem_of_mem_without hn)) hps
      exact ⟨.cons (hnamed _ (mem_of_lookup hv)) hbound,
        fun n hn => mem_of_mem_without (hleft n hn)⟩
    · exact ih hnamed hps

theorem all_fill (hdefault : ∀ p ∈ sig, P p.name (p.default.getD .null))
    (hextra : ∀ p ∈ sig, p.kind = .extra → ∀ n ∈ leftNamed, P p.name n.2) (hbound : bound.All P) :
    (fill bound leftNamed sig).All P := by
  intro a ha
  obtain ⟨p, hp, rfl⟩ := List.mem_map.1 ha
  dsimp only
  split
  next b hb => exact hbound _ (mem_of_lookup hb)
  next =>
    cases hkind : p.kind with
    | rest => exact List.forall_mem_nil _
    | extra => exact hextra p hp hkind
    | positional => exact hdefault p hp
    | normal => exact hdefault p hp
    | named => exact hdefault p hp

/-- Whatever binding binds is as its parameter asks. -/
theorem all_bind (hmeets : sig.Meets P args named)
    (hdefault : ∀ p ∈ sig, P p.name (p.default.getD .null))
    (h : sig.bind args named = .ok bound) : bound.All P := by
  obtain ⟨_, _, _, left, hpositional, hbyName, rfl, _⟩ := exists_of_bind h
  have hfirst := all_bindPositional hmeets.byPosition hmeets.rest hpositional
  obtain ⟨hsecond, hleft⟩ := all_bindNamed hmeets.byName hbyName
  exact all_fill hdefault (fun p hp hkind n hn => hmeets.extra p hp hkind n (hleft n hn))
    (hfirst.append hsecond)

end Signature

/-! ## Steps of validation -/

section

variable {validator : Validator} {validators : List Validator} {b b' : Bound}
variable {backend : Backend} {argument : String}

/-- One value gives way to the validator's result; several stay bound as they were. -/
theorem Validator.cases_of_applyBound (h : validator.applyBound b = .ok b') :
    (∃ v w, b = .one v ∧ validator.apply v = .ok w ∧ b' = .one w) ∨
      (∃ vs w, b = .many vs ∧ validator.apply (.tuple vs) = .ok w ∧ b' = .many vs) ∨
        ∃ named, b = .fields named ∧ b' = .fields named := by
  cases b with
  | one v =>
    simp only [applyBound, bind_eq_ok_iff, pure_eq_ok_iff] at h
    obtain ⟨w, hw, rfl⟩ := h
    exact .inl ⟨v, w, rfl, hw, rfl⟩
  | many vs =>
    simp only [applyBound, bind_eq_ok_iff, pure_eq_ok_iff] at h
    obtain ⟨w, hw, rfl⟩ := h
    exact .inr (.inl ⟨vs, w, rfl, hw, rfl⟩)
  | fields named =>
    simp only [applyBound] at h
    split at h
    · split at h
      · cases h
        exact .inr (.inr ⟨named, rfl, rfl⟩)
      · cases h
    · cases h

theorem runValidators_cons_eq_ok_iff :
    runValidators backend argument (validator :: validators) b = .ok b' ↔
      ∃ b₁, validator.applyBound b = .ok b₁ ∧
        runValidators backend argument validators b₁ = .ok b' := by
  rw [runValidators]
  cases validator.applyBound b with
  | ok b₁ => simp
  | error e => simp

/-- Validators are run when their parameter is bound, and each entry of them goes on with what
    the one before bound. -/
theorem cases_of_validate {name : String} {rest : List (String × List Validator)}
    {args args' : Arguments} (h : validate backend ((name, validators) :: rest) args = .ok args') :
    (args.lookup name = none ∧ validate backend rest args = .ok args') ∨
      ∃ b b', args.lookup name = some b ∧ runValidators backend name validators b = .ok b' ∧
        validate backend rest (args.set name b') = .ok args' := by
  rw [validate] at h
  split at h
  next hnone => exact .inl ⟨hnone, h⟩
  next b hb =>
    obtain ⟨b', hb', h⟩ := bind_eq_ok_iff.1 h
    exact .inr ⟨b, b', hb, hb', h⟩

end

/-! ## Validation -/

section

variable {validator : Validator} {validators : List Validator} {b b' : Bound} {p : Value → Prop}

theorem Validator.all_applyBound (hkeeps : validator.Keeps p) (hb : b.All p)
    (h : validator.applyBound b = .ok b') : b'.All p := by
  obtain ⟨v, w, rfl, hw, rfl⟩ | ⟨vs, w, rfl, _, rfl⟩ | ⟨named, rfl, rfl⟩ := cases_of_applyBound h
  · exact hkeeps v w hb hw
  · exact hb
  · exact hb

theorem all_runValidators {backend : Backend} {argument : String}
    (hkeeps : ∀ validator ∈ validators, validator.Keeps p) (hb : b.All p)
    (h : runValidators backend argument validators b = .ok b') : b'.All p := by
  induction validators generalizing b with
  | nil =>
    cases h
    exact hb
  | cons v vs ih =>
    obtain ⟨hv, hvs⟩ := List.forall_mem_cons.1 hkeeps
    obtain ⟨b₁, hb₁, h⟩ := runValidators_cons_eq_ok_iff.1 h
    exact ih hvs (Validator.all_applyBound hv hb hb₁) h

end

/-- Validators that keep what is asked of their parameters keep all arguments so. -/
theorem all_validate {backend : Backend} {validators : List (String × List Validator)}
    {args args' : Arguments}
    (hkeeps : ∀ entry ∈ validators, ∀ validator ∈ entry.2, validator.Keeps (P entry.1))
    (hargs : args.All P) (h : validate backend validators args = .ok args') : args'.All P := by
  induction validators generalizing args with
  | nil =>
    cases h
    exact hargs
  | cons entry rest ih =>
    obtain ⟨hfirst, hrest⟩ := List.forall_mem_cons.1 hkeeps
    obtain ⟨_, h⟩ | ⟨b, b', hb, hb', h⟩ := cases_of_validate h
    · exact ih hrest hargs h
    · exact ih hrest (hargs.set (all_runValidators hfirst (hargs _ (mem_of_lookup hb)) hb')) h

/-! ## Validated parameters -/

theorem Arguments.lookup_set_of_ne {args : Arguments} {name other : String} (h : other ≠ name)
    (b : Bound) : (args.set name b).lookup other = args.lookup other := by
  induction args with
  | nil => rfl
  | cons entry rest ih =>
    obtain ⟨n, old⟩ := entry
    have hset : Arguments.set ((n, old) :: rest) name b =
        (n, if n == name then b else old) :: Arguments.set rest name b := rfl
    rw [hset, NameTable.lookup_cons, NameTable.lookup_cons, ih]
    split
    next heq =>
      have hne : (n == name) = false := beq_eq_false_iff_ne.2 fun hn => h (heq.trans hn)
      rw [hne]
      rfl
    next => rfl

theorem Arguments.lookup_set_self {args : Arguments} {name : String} {b : Bound}
    (h : args.lookup name = some b) (b' : Bound) : (args.set name b').lookup name = some b' := by
  induction args with
  | nil => cases h
  | cons entry rest ih =>
    obtain ⟨n, old⟩ := entry
    have hset : Arguments.set ((n, old) :: rest) name b' =
        (n, if n == name then b' else old) :: Arguments.set rest name b' := rfl
    rw [NameTable.lookup_cons] at h
    rw [hset, NameTable.lookup_cons]
    split
    next heq => rw [heq, beq_self_eq_true, if_pos rfl]
    next hne =>
      rw [if_neg hne] at h
      exact ih h

/-- A parameter without validators stays bound as it is. -/
theorem lookup_of_validate {backend : Backend} {validators : List (String × List Validator)}
    {args args' : Arguments} (h : validate backend validators args = .ok args') {name : String}
    (hname : name ∉ validators.map (·.1)) : args'.lookup name = args.lookup name := by
  induction validators generalizing args with
  | nil =>
    cases h
    rfl
  | cons entry rest ih =>
    rw [List.map_cons, List.mem_cons, not_or] at hname
    obtain ⟨_, h⟩ | ⟨b, b', _, _, h⟩ := cases_of_validate h
    · exact ih h hname.2
    · rw [ih h hname.2, Arguments.lookup_set_of_ne hname.1]

/-- What a validated parameter is bound to came out of its validators. -/
theorem exists_run_of_validate {backend : Backend} {validators : List (String × List Validator)}
    {args args' : Arguments} (hnames : (validators.map (·.1)).Nodup)
    (h : validate backend validators args = .ok args') {name : String} {vs : List Validator}
    (hname : (name, vs) ∈ validators) {b' : Bound} (hb' : args'.lookup name = some b') :
    ∃ b, runValidators backend name vs b = .ok b' := by
  induction validators generalizing args with
  | nil => cases hname
  | cons entry rest ih =>
    rw [List.map_cons, List.nodup_cons] at hnames
    obtain ⟨hnone, hrest⟩ | ⟨b, b₁, hb, hb₁, hrest⟩ := cases_of_validate h
    · rcases List.mem_cons.1 hname with rfl | hname
      · rw [lookup_of_validate hrest hnames.1, hnone] at hb'
        cases hb'
      · exact ih hnames.2 hrest hname
    · rcases List.mem_cons.1 hname with rfl | hname
      · rw [lookup_of_validate hrest hnames.1, Arguments.lookup_set_self hb] at hb'
        cases hb'
        exact ⟨b, hb₁⟩
      · exact ih hnames.2 hrest hname

theorem exists_apply_of_run {backend : Backend} {name : String} {validator : Validator} {b : Bound}
    {w : Value} (h : runValidators backend name [validator] b = .ok (.one w)) :
    ∃ v, validator.apply v = .ok w := by
  obtain ⟨b₁, hb₁, heq⟩ := runValidators_cons_eq_ok_iff.1 h
  cases heq
  obtain ⟨v, _, _, hv, heq⟩ | ⟨_, _, _, _, heq⟩ | ⟨_, _, heq⟩ := Validator.cases_of_applyBound hb₁
  · cases heq
    exact ⟨v, hv⟩
  · cases heq
  · cases heq

end SqlDialects
