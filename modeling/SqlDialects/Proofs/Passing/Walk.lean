-- SUMMARY: Binding as one walk along the signature, with the positional arguments first and then with the named ones.
import Mathlib.Data.List.Basic
import SqlDialects.Proofs.Binding

/-!
# Binding in one walk

Binding goes along the signature with the positional arguments, looks at one parameter
more when they run out, and goes on with the named arguments. The second part looks at
that parameter again, so both parts are one walk, and what a signature does with its
arguments can be found by one recursion.
-/

namespace SqlDialects.Signature

variable {sig : Signature} {args : List Value} {named left : List (String × Value)}
variable {given bound : Arguments}

/-- Bind arguments one by one along a signature; gives what is bound and the named
    arguments left. -/
def deal (named : List (String × Value)) :
    Signature → List Value → Except BindFault (Arguments × List (String × Value))
  | sig, [] => bindNamed sig named
  | [], _ :: _ => .error .tooManyPositional
  | p :: ps, v :: vs =>
    match p.kind with
    | .extra => .error .tooManyPositional
    | .named => .error .tooManyPositional
    | .rest => do
      let (given, left) ← bindNamed ps named
      return ((p.name, .many (v :: vs)) :: given, left)
    | .positional => do
      let (given, left) ← deal named ps vs
      return ((p.name, .one v) :: given, left)
    | .normal =>
      if (named.lookup p.name).isSome then .error (.repeated p.name)
      else do
        let (given, left) ← deal named ps vs
        return ((p.name, .one v) :: given, left)

/-- What is looked at when the positional arguments run out is looked at again afterwards. -/
theorem stopAt_bindNamed (named : List (String × Value)) (sig : Signature) :
    (do
      let (positional, params) ← stopAt named sig
      let (byName, left) ← bindNamed params named
      return (positional ++ byName, left)) = bindNamed sig named := by
  -- either the walk stops before what is left, or both parts meet the same fault
  have stops {params : Signature} (hstop : stopAt named sig = .ok ([], params))
      (hsame : bindNamed params named = bindNamed sig named) : (do
        let (positional, params) ← stopAt named sig
        let (byName, left) ← bindNamed params named
        return (positional ++ byName, left)) = bindNamed sig named := by
    rw [hstop, ok_bind, ← hsame]
    exact bind_pure _
  have fails (fault : BindFault) (hstop : stopAt named sig = .error fault)
      (hnamed : bindNamed sig named = .error fault) : (do
        let (positional, params) ← stopAt named sig
        let (byName, left) ← bindNamed params named
        return (positional ++ byName, left)) = bindNamed sig named := by
    rw [hstop, hnamed]
    rfl
  cases sig with
  | nil => rfl
  | cons p ps =>
    by_cases hrest : p.kind = .rest
    · exact stops (by rw [stopAt, if_pos hrest]) (by rw [bindNamed, if_pos (.inl hrest)])
    cases hlookup : named.lookup p.name with
    | some v =>
      by_cases hpositional : p.kind = .positional
      · exact fails (.positionalByName p.name) (by simp [stopAt, hlookup, hpositional])
          (by simp [bindNamed, hlookup, hpositional])
      · exact stops (by simp [stopAt, hrest, hlookup, hpositional]) rfl
    | none =>
      by_cases hwaits : p.kind = .extra ∨ p.default.isSome = true
      · exact stops (by simp [stopAt, hrest, hlookup, hwaits]) rfl
      · have hdefault := (not_or.1 hwaits).2
        exact fails (.missing p.name) (by simp [stopAt, hrest, hlookup, hwaits])
          (by simp [bindNamed, hrest, (not_or.1 hwaits).1, hlookup, hdefault])

theorem deal_eq (named : List (String × Value)) (sig : Signature) (args : List Value) :
    deal named sig args = (do
      let (positional, params) ← bindPositional named sig args
      let (byName, left) ← bindNamed params named
      return (positional ++ byName, left)) := by
  induction sig generalizing args with
  | nil =>
    cases args with
    | nil => exact (stopAt_bindNamed named []).symm
    | cons v vs => rfl
  | cons p ps ih =>
    cases args with
    | nil => exact (stopAt_bindNamed named (p :: ps)).symm
    | cons v vs =>
      rw [deal, bindPositional]
      cases p.kind with
      | extra => rfl
      | named => rfl
      | rest => rfl
      | positional => simp only [ih, bind_assoc, pure_bind]; rfl
      | normal =>
        dsimp only
        split
        · rfl
        · simp only [ih, bind_assoc, pure_bind]; rfl

/-- Binding is one walk, and then the defaults are filled in. -/
theorem bind_eq_deal (sig : Signature) (args : List Value) (named : List (String × Value)) :
    sig.bind args named = (do
      let (given, left) ← deal named sig args
      sig.finish given left) := by
  rw [bind_eq, deal_eq, bind_assoc]
  refine bind_congr fun ⟨positional, params⟩ => ?_
  dsimp only
  rw [bind_assoc]
  exact bind_congr fun ⟨byName, left⟩ => rfl

/-- What is bound is filled in from what the walk binds; named arguments that are left over
    go to a parameter for further names. -/
theorem bind_eq_ok_iff_deal : sig.bind args named = .ok bound ↔
    ∃ given left, deal named sig args = .ok (given, left) ∧
      (left = [] ∨ ∃ p ∈ sig, p.kind = .extra) ∧ bound = fill given left sig := by
  rw [bind_eq_deal, bind_eq_ok_iff]
  constructor
  · rintro ⟨⟨given, left⟩, hdeal, h⟩
    exact ⟨given, left, hdeal, finish_eq_ok_iff.1 h⟩
  · rintro ⟨given, left, hdeal, h⟩
    exact ⟨(given, left), hdeal, finish_eq_ok_iff.2 h⟩

/-! ## One parameter of the walk -/

section

variable {p : Param} {ps : Signature}

/-- A position is bound to a parameter that no argument names, or all are bound to the one for
    the rest. -/
theorem cases_of_deal {v : Value} {vs : List Value}
    (h : deal named (p :: ps) (v :: vs) = .ok (given, left)) :
    (∃ given', p.kind = .rest ∧ bindNamed ps named = .ok (given', left) ∧
      given = (p.name, .many (v :: vs)) :: given') ∨
    ∃ given', (p.kind = .positional ∨ p.kind = .normal ∧ named.lookup p.name = none) ∧
      deal named ps vs = .ok (given', left) ∧ given = (p.name, .one v) :: given' := by
  rw [deal] at h
  cases hkind : p.kind with
  | extra => simp [hkind] at h
  | named => simp [hkind] at h
  | rest =>
    simp only [hkind, bind_eq_ok_iff, pure_eq_ok_iff] at h
    obtain ⟨⟨given', left'⟩, hps, heq⟩ := h
    cases heq
    exact .inl ⟨given', rfl, hps, rfl⟩
  | positional =>
    simp only [hkind, bind_eq_ok_iff, pure_eq_ok_iff] at h
    obtain ⟨⟨given', left'⟩, hps, heq⟩ := h
    cases heq
    exact .inr ⟨given', .inl rfl, hps, rfl⟩
  | normal =>
    simp only [hkind] at h
    split at h
    · cases h
    next hlookup =>
      simp only [bind_eq_ok_iff, pure_eq_ok_iff] at h
      obtain ⟨⟨given', left'⟩, hps, heq⟩ := h
      cases heq
      exact .inr ⟨given', .inr ⟨rfl, Option.not_isSome_iff_eq_none.1 hlookup⟩, hps, rfl⟩

end

/-! ## What is left over -/

theorem sublist_of_bindNamed (h : bindNamed sig named = .ok (given, left)) :
    left.Sublist named := by
  induction sig generalizing named given with
  | nil =>
    cases h
    exact .refl _
  | cons p ps ih =>
    obtain ⟨_, _, _, _, hps, _⟩ | ⟨_, hps⟩ := cases_of_bindNamed h
    · exact (ih hps).trans List.filter_sublist
    · exact ih hps

/-- The named arguments that the walk leaves are some of those it was given, in their order. -/
theorem sublist_of_deal (h : deal named sig args = .ok (given, left)) : left.Sublist named := by
  induction sig generalizing args given with
  | nil =>
    cases args with
    | nil => exact sublist_of_bindNamed h
    | cons v vs => cases h
  | cons p ps ih =>
    cases args with
    | nil => exact sublist_of_bindNamed h
    | cons v vs =>
      obtain ⟨_, _, hps, _⟩ | ⟨_, _, hps, _⟩ := cases_of_deal h
      · exact sublist_of_bindNamed hps
      · exact ih hps

/-! ## Named arguments -/

theorem lookup_without {name other : String} (h : other ≠ name) :
    (without name named).lookup other = named.lookup other := by
  induction named with
  | nil => rfl
  | cons n named ih =>
    obtain ⟨first, v⟩ := n
    by_cases hfirst : first = name
    · subst hfirst
      have hother : (other == first) = false := beq_eq_false_iff_ne.2 h
      rw [List.lookup_cons, hother, ← ih]
      simp [without]
    · have hkept : without name ((first, v) :: named) = (first, v) :: without name named := by
        simp [without, hfirst]
      rw [hkept, List.lookup_cons, List.lookup_cons, ih]

end SqlDialects.Signature

namespace SqlDialects

/-- A parameter that takes all arguments of its sort that are left. -/
def Param.takesAll (p : Param) : Bool := p.kind = .rest || p.kind = .extra

/-- One of the named arguments can be bound to a parameter, or none has to be. -/
def Param.Finds (named : List (String × Value)) (p : Param) : Prop :=
  if (named.lookup p.name).isSome then p.kind ≠ .positional else p.default.isSome = true

namespace Signature

/-- What the named arguments bind. -/
def byName (sig : Signature) (named : List (String × Value)) : Arguments :=
  sig.filterMap fun p =>
    if p.takesAll then none else (named.lookup p.name).map fun v => (p.name, .one v)

/-- The named arguments that no parameter is called by. -/
def unclaimed (sig : Signature) (named : List (String × Value)) : List (String × Value) :=
  named.filter fun n => !sig.any fun p => !p.takesAll && p.name == n.1

theorem byName_without {sig : Signature} {named : List (String × Value)} {name : String}
    (h : name ∉ sig.names) : sig.byName (without name named) = sig.byName named := by
  refine List.filterMap_congr fun p hp => ?_
  have hne : p.name ≠ name := fun hname => h (hname ▸ List.mem_map_of_mem hp)
  rw [lookup_without hne]

/-- Named arguments are bound exactly when every parameter finds one or does without. -/
theorem bindNamed_eq_ok_iff {sig : Signature} {named left : List (String × Value)}
    {given : Arguments} (hsig : sig.names.Nodup) : bindNamed sig named = .ok (given, left) ↔
      (∀ p ∈ sig, p.takesAll = true ∨ p.Finds named) ∧ given = sig.byName named ∧
        left = sig.unclaimed named := by
  induction sig generalizing named left given with
  | nil =>
    have hleft : unclaimed [] named = named := by simp [unclaimed]
    rw [bindNamed, Except.ok.injEq, Prod.mk.injEq, hleft]
    exact ⟨fun h => ⟨List.forall_mem_nil _, h.1.symm, h.2.symm⟩, fun h => ⟨h.2.1.symm, h.2.2.symm⟩⟩
  | cons p ps ih =>
    rw [names, List.map_cons, List.nodup_cons] at hsig
    rw [bindNamed, List.forall_mem_cons]
    by_cases hall : p.takesAll = true
    · have hkind : p.kind = .rest ∨ p.kind = .extra := by simpa [Param.takesAll] using hall
      rw [if_pos hkind, ih hsig.2]
      simp [byName, unclaimed, hall]
    have hkind : ¬(p.kind = .rest ∨ p.kind = .extra) := by simpa [Param.takesAll] using hall
    rw [if_neg hkind]
    cases hlookup : named.lookup p.name with
    | some v =>
      by_cases hpositional : p.kind = .positional
      · simp [hpositional, hall, Param.Finds, hlookup]
      have hfinds : (∀ q ∈ ps, q.takesAll = true ∨ q.Finds (without p.name named)) ↔
          ∀ q ∈ ps, q.takesAll = true ∨ q.Finds named := by
        refine forall₂_congr fun q hq => ?_
        have hne : q.name ≠ p.name := fun h => hsig.1 (h ▸ List.mem_map_of_mem hq)
        rw [Param.Finds, lookup_without hne, Param.Finds]
      have hgiven : byName (p :: ps) named =
          (p.name, .one v) :: byName ps (without p.name named) := by
        rw [byName_without hsig.1]
        simp [byName, hall, hlookup]
      have hleft : unclaimed (p :: ps) named = unclaimed ps (without p.name named) := by
        rw [unclaimed, unclaimed, without, List.filter_filter]
        refine List.filter_congr fun n _ => ?_
        simp [hall, Bool.and_comm, bne, Bool.beq_comm]
      simp only [hpositional, if_false, bind_eq_ok_iff, pure_eq_ok_iff, hgiven, hleft]
      constructor
      · rintro ⟨⟨given', left'⟩, h, heq⟩
        cases heq
        obtain ⟨hps, rfl, rfl⟩ := (ih hsig.2).1 h
        exact ⟨⟨.inr (by simpa [Param.Finds, hlookup] using hpositional), hfinds.1 hps⟩, rfl, rfl⟩
      · rintro ⟨⟨_, hps⟩, rfl, rfl⟩
        exact ⟨_, (ih hsig.2).2 ⟨hfinds.2 hps, rfl, rfl⟩, rfl⟩
    | none =>
      by_cases hdefault : p.default.isSome = true
      · have hgiven : byName (p :: ps) named = byName ps named := by simp [byName, hlookup]
        have hleft : unclaimed (p :: ps) named = unclaimed ps named := by
          refine List.filter_congr fun n hn => ?_
          have hne : p.name ≠ n.1 := by simpa using List.lookup_eq_none_iff.1 hlookup n hn
          simp [hne]
        rw [if_pos hdefault, ih hsig.2, hgiven, hleft]
        simp [Param.Finds, hlookup, hdefault]
      · simp [hdefault, hall, Param.Finds, hlookup]

end Signature

end SqlDialects
