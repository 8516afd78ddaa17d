-- SUMMARY: How arguments are dealt out to the parameters of a signature: none is lost, and none is made up.
import SqlDialects.Proofs.Steps
import SqlDialects.Rule.Basic

/-!
# Dealing out arguments

Binding deals the arguments out to the parameters of a signature, the positional
ones first, and fills in defaults. When it succeeds, every argument is bound to a
parameter of its place or of its name, or is among those of the parameter that takes
the rest, and whatever is bound is an argument or a default.
-/

namespace SqlDialects

namespace Signature

/-! ## Steps of binding -/

theorem stopAt_eq_ok {named : List (String × Value)} {sig left : Signature} {bound : Arguments}
    (h : stopAt named sig = .ok (bound, left)) : bound = [] ∧ left.Sublist sig := by
  cases sig with
  | nil =>
    cases h
    exact ⟨rfl, .refl _⟩
  | cons p ps =>
    rw [stopAt] at h
    split at h
    · cases h
      exact ⟨rfl, List.sublist_cons_self _ _⟩
    · split at h
      · split at h
        · cases h
        · cases h
          exact ⟨rfl, .refl _⟩
      · split at h
        · cases h
          exact ⟨rfl, .refl _⟩
        · cases h

/-- A position is bound to its own parameter, or it and all further ones to the one that takes
    the rest. -/
theorem cases_of_bindPositional {named : List (String × Value)} {p : Param} {ps left : Signature}
    {v : Value} {vs : List Value} {bound : Arguments}
    (h : bindPositional named (p :: ps) (v :: vs) = .ok (bound, left)) :
    (p.kind = .rest ∧ bound = [(p.name, .many (v :: vs))] ∧ left = ps) ∨
      ∃ bound', p.takesPosition = true ∧ bindPositional named ps vs = .ok (bound', left) ∧
        bound = (p.name, .one v) :: bound' := by
  rw [bindPositional] at h
  cases hkind : p.kind with
  | extra => simp [hkind] at h
  | named => simp [hkind] at h
  | rest =>
    simp only [hkind] at h
    cases h
    exact .inl ⟨rfl, rfl, rfl⟩
  | positional =>
    simp only [hkind, bind_eq_ok_iff, pure_eq_ok_iff] at h
    obtain ⟨⟨bound', left'⟩, hps, heq⟩ := h
    cases heq
    exact .inr ⟨bound', by simp [Param.takesPosition, hkind], hps, rfl⟩
  | normal =>
    simp only [hkind] at h
    split at h
    · cases h
    · simp only [bind_eq_ok_iff, pure_eq_ok_iff] at h
      obtain ⟨⟨bound', left'⟩, hps, heq⟩ := h
      cases heq
      exact .inr ⟨bound', by simp [Param.takesPosition, hkind], hps, rfl⟩

/-- A parameter is bound to the argument of its name, or else binding goes on without one. -/
theorem cases_of_bindNamed {p : Param} {ps : Signature} {named left : List (String × Value)}
    {bound : Arguments} (h : bindNamed (p :: ps) named = .ok (bound, left)) :
    (∃ v bound', ¬(p.kind = .rest ∨ p.kind = .extra) ∧ named.lookup p.name = some v ∧
      bindNamed ps (without p.name named) = .ok (bound', left) ∧
        bound = (p.name, .one v) :: bound') ∨
    (p.kind = .rest ∨ p.kind = .extra ∨ named.lookup p.name = none) ∧
      bindNamed ps named = .ok (bound, left) := by
  rw [bindNamed] at h
  split at h
  next hkind => exact .inr ⟨hkind.imp_right .inl, h⟩
  next hkind =>
    split at h
    next v hlookup =>
      split at h
      · cases h
      · simp only [bind_eq_ok_iff, pure_eq_ok_iff] at h
        obtain ⟨⟨bound', left'⟩, hps, heq⟩ := h
        cases heq
        exact .inl ⟨v, bound', hkind, hlookup, hps, rfl⟩
    next hlookup =>
      split at h
      · exact .inr ⟨.inr (.inr hlookup), h⟩
      · cases h

theorem mem_of_mem_without {name : String} {named : List (String × Value)}
    {n : String × Value} (h : n ∈ without name named) : n ∈ named :=
  (List.mem_filter.1 h).1

theorem names_without_nodup {named : List (String × Value)} (h : (named.map (·.1)).Nodup)
    (name : String) : ((without name named).map (·.1)).Nodup :=
  h.sublist (List.filter_sublist.map _)

/-- An argument is bound to a parameter by its position, or is among those of the
    parameter that takes the rest. -/
def BoundByPosition (sig : Signature) (bound : Arguments) (i : Nat) (v : Value) : Prop :=
  (∃ p, sig[i]? = some p ∧ p.takesPosition = true ∧ (p.name, .one v) ∈ bound) ∨
    ∃ p ∈ sig, p.kind = .rest ∧ ∃ vs, v ∈ vs ∧ (p.name, .many vs) ∈ bound

theorem BoundByPosition.cons {sig : Signature} {bound : Arguments} {i : Nat} {v : Value}
    (h : BoundByPosition sig bound i v) (p : Param) (entry : String × Bound) :
    BoundByPosition (p :: sig) (entry :: bound) (i + 1) v := by
  rcases h with ⟨q, hq, hkind, hmem⟩ | ⟨q, hq, hkind, vs, hv, hmem⟩
  · exact .inl ⟨q, hq, hkind, List.mem_cons_of_mem _ hmem⟩
  · exact .inr ⟨q, List.mem_cons_of_mem _ hq, hkind, vs, hv, List.mem_cons_of_mem _ hmem⟩

/-- What the positional arguments are bound to stands before the parameters left, and is
    an argument of its place or the rest of the arguments. -/
structure DealtByPosition (sig left : Signature) (args : List Value) (bound : Arguments) :
    Prop where
  names : (bound.map (·.1) ++ left.names).Sublist sig.names
  left : left.Sublist sig
  complete : ∀ i v, args[i]? = some v → BoundByPosition sig bound i v
  given : ∀ entry ∈ bound, (∃ (i : Nat) (p : Param) (v : Value), sig[i]? = some p ∧
    args[i]? = some v ∧ entry = (p.name, .one v)) ∨ ∃ vs, entry.2 = .many vs

theorem DealtByPosition.cons {sig left : Signature} {args : List Value} {bound : Arguments}
    (h : DealtByPosition sig left args bound) {p : Param} (hp : p.takesPosition = true)
    (v : Value) :
    DealtByPosition (p :: sig) left (v :: args) ((p.name, .one v) :: bound) where
  names := h.names.cons_cons p.name
  left := h.left.cons p
  complete := by
    intro i u hu
    cases i with
    | zero =>
      cases hu
      exact .inl ⟨p, rfl, hp, List.mem_cons_self⟩
    | succ i => exact (h.complete i u hu).cons p _
  given := by
    intro entry hentry
    rcases List.mem_cons.1 hentry with rfl | hentry
    · exact .inl ⟨0, p, v, rfl, rfl, rfl⟩
    · rcases h.given entry hentry with ⟨i, q, u, hq, hu, heq⟩ | hmany
      · exact .inl ⟨i + 1, q, u, hq, hu, heq⟩
      · exact .inr hmany

theorem dealt_bindPositional {named : List (String × Value)} {sig left : Signature}
    {args : List Value} {bound : Arguments}
    (h : bindPositional named sig args = .ok (bound, left)) :
    DealtByPosition sig left args bound := by
  induction args generalizing sig bound left with
  | nil =>
    rw [bindPositional] at h
    obtain ⟨rfl, hleft⟩ := stopAt_eq_ok h
    exact ⟨hleft.map _, hleft, nofun, nofun⟩
  | cons v vs ih =>
    cases sig with
    | nil => cases h
    | cons p ps =>
      obtain ⟨hkind, rfl, rfl⟩ | ⟨bound', hkind, hps, rfl⟩ := cases_of_bindPositional h
      · refine ⟨.refl _, List.sublist_cons_self _ _, fun i u hu => .inr ?_, fun entry hentry => ?_⟩
        · exact ⟨p, List.mem_cons_self, hkind, v :: vs, List.mem_of_getElem? hu,
            List.mem_cons_self⟩
        · rw [List.mem_singleton.1 hentry]
          exact .inr ⟨_, rfl⟩
      · exact (ih hps).cons hkind v

/-- What the named arguments are bound to, and the named arguments left. -/
structure DealtByName (sig : Signature) (named left : List (String × Value)) (bound : Arguments) :
    Prop where
  names : (bound.map (·.1)).Sublist sig.names
  complete : ∀ n ∈ named, n ∈ left ∨
    ∃ p ∈ sig, p.name = n.1 ∧ p.kind ≠ .rest ∧ (n.1, .one n.2) ∈ bound
  given : ∀ entry ∈ bound, ∃ v, (entry.1, v) ∈ named ∧ entry.2 = .one v

theorem DealtByName.skip {sig : Signature} {named left : List (String × Value)} {bound : Arguments}
    (h : DealtByName sig named left bound) (p : Param) :
    DealtByName (p :: sig) named left bound where
  names := h.names.cons p.name
  complete := by
    intro n hn
    rcases h.complete n hn with hleft | ⟨q, hq, hbound⟩
    · exact .inl hleft
    · exact .inr ⟨q, List.mem_cons_of_mem _ hq, hbound⟩
  given := h.given

theorem dealt_bindNamed {sig : Signature} {named left : List (String × Value)} {bound : Arguments}
    (hnamed : (named.map (·.1)).Nodup) (h : bindNamed sig named = .ok (bound, left)) :
    DealtByName sig named left bound := by
  induction sig generalizing named bound left with
  | nil =>
    cases h
    exact ⟨.refl _, fun n hn => .inl hn, nofun⟩
  | cons p ps ih =>
    obtain ⟨v, bound', hkind, hv, hps, rfl⟩ | ⟨_, hps⟩ := cases_of_bindNamed h
    · have hdealt := ih (names_without_nodup hnamed p.name) hps
      refine ⟨hdealt.names.cons_cons p.name, fun n hn => ?_, fun entry hentry => ?_⟩
      · by_cases hname : n.1 = p.name
        · -- no other argument has the name, so it is the one that was found
          have hfound : n.2 = v := by
            have hlookup := lookup_of_mem hnamed hn
            rw [hname, hv] at hlookup
            exact (Option.some.inj hlookup).symm
          refine .inr ⟨p, List.mem_cons_self, hname.symm, fun hrest => hkind (.inl hrest), ?_⟩
          rw [hname, hfound]
          exact List.mem_cons_self
        · have hwithout : n ∈ without p.name named :=
            List.mem_filter.2 ⟨hn, by simpa using hname⟩
          rcases hdealt.complete n hwithout with hleft | ⟨q, hq, hqname, hqkind, hmem⟩
          · exact .inl hleft
          · exact .inr ⟨q, List.mem_cons_of_mem _ hq, hqname, hqkind,
              List.mem_cons_of_mem _ hmem⟩
      · rcases List.mem_cons.1 hentry with rfl | hentry
        · exact ⟨v, mem_of_lookup hv, rfl⟩
        · obtain ⟨u, hu, heq⟩ := hdealt.given entry hentry
          exact ⟨u, mem_of_mem_without hu, heq⟩
    · exact (ih hnamed hps).skip p

/-! ## Bound arguments -/

/-- How arguments are dealt out to a signature that takes no further names. No parameter
    is given one argument by position and another by name. -/
structure Dealt (sig : Signature) (args : List Value) (named : List (String × Value))
    (bound : Arguments) : Prop where
  byPosition : ∀ (i : Nat) (v : Value), args[i]? = some v →
    (∃ p : Param, sig[i]? = some p ∧ p.takesPosition = true ∧ p.name ∉ named.map (·.1) ∧
      bound.lookup p.name = some (.one v)) ∨
    ∃ p ∈ sig, p.kind = .rest ∧ ∃ vs, v ∈ vs ∧ bound.lookup p.name = some (.many vs)
  byName : ∀ n ∈ named, ∃ p ∈ sig, p.name = n.1 ∧ p.kind ≠ .rest ∧
    bound.lookup n.1 = some (.one n.2)
  given : ∀ p ∈ sig, ∀ v, bound.lookup p.name = some (.one v) →
    (∃ (i : Nat) (q : Param), sig[i]? = some q ∧ q.name = p.name ∧ args[i]? = some v) ∨
      (p.name, v) ∈ named ∨ v = p.default.getD .null

section

variable {sig : Signature} {args : List Value} {named : List (String × Value)} {bound : Arguments}

theorem exists_param_of_mem_names {name : String} (h : name ∈ sig.names) :
    ∃ p ∈ sig, p.name = name :=
  List.mem_map.1 h

theorem lookup_fill (hsig : sig.names.Nodup) {p : Param} (hp : p ∈ sig) (given : Arguments) :
    (fill given [] sig).lookup p.name = some (match given.lookup p.name with
      | some b => b
      | none =>
        match p.kind with
        | .rest => .many []
        | .extra => .fields []
        | _ => .one (p.default.getD .null)) := by
  refine lookup_of_mem ?_ (List.mem_map.2 ⟨p, hp, rfl⟩)
  rw [names_fill]
  exact hsig

/-- What is bound before defaults are filled in stays bound. -/
theorem lookup_fill_of_mem (hsig : sig.names.Nodup) {given : Arguments}
    (hgiven : (given.map (·.1)).Sublist sig.names) {name : String} {b : Bound}
    (h : (name, b) ∈ given) : (fill given [] sig).lookup name = some b := by
  have hname : name ∈ sig.names := hgiven.subset (List.mem_map.2 ⟨_, h, rfl⟩)
  obtain ⟨p, hp, rfl⟩ := exists_param_of_mem_names hname
  rw [lookup_fill hsig hp, lookup_of_mem (hsig.sublist hgiven) h]

/-- When nothing is left over, the arguments are dealt out. -/
theorem dealt_fill (hsig : sig.names.Nodup) (hextra : ∀ p ∈ sig, p.kind ≠ .extra)
    {params : Signature} {positional byName : Arguments}
    (hpositional : DealtByPosition sig params args positional)
    (hbyName : DealtByName params named [] byName) :
    Dealt sig args named (fill (positional ++ byName) [] sig) := by
  have hgiven : ((positional ++ byName).map (·.1)).Sublist sig.names := by
    rw [List.map_append]
    exact ((List.Sublist.refl _).append hbyName.names).trans hpositional.names
  have hnodup := hsig.sublist hgiven
  have hfound {name : String} {b : Bound} (h : (name, b) ∈ positional ++ byName) :=
    lookup_fill_of_mem hsig hgiven h
  have hnamed : ∀ n ∈ named, ∃ p ∈ params, p.name = n.1 ∧ p.kind ≠ .rest ∧
      (n.1, .one n.2) ∈ byName :=
    fun n hn => (hbyName.complete n hn).resolve_left List.not_mem_nil
  refine ⟨fun i v hv => ?_, fun n hn => ?_, fun p hp v hv => ?_⟩
  · rcases hpositional.complete i v hv with ⟨p, hp, hkind, hmem⟩ | ⟨p, hp, hkind, vs, hvs, hmem⟩
    · refine .inl ⟨p, hp, hkind, fun hname => ?_, hfound (List.mem_append_left _ hmem)⟩
      -- a parameter bound twice would be in both parts of what is bound
      obtain ⟨n, hn, hnp⟩ := List.mem_map.1 hname
      obtain ⟨_, _, _, _, hbound⟩ := hnamed n hn
      rw [List.map_append] at hnodup
      exact (List.nodup_append.1 hnodup).2.2 _ (List.mem_map.2 ⟨_, hmem, rfl⟩) _
        (List.mem_map.2 ⟨_, hbound, rfl⟩) hnp.symm
    · exact .inr ⟨p, hp, hkind, vs, hvs, hfound (List.mem_append_left _ hmem)⟩
  · obtain ⟨p, hp, hname, hkind, hmem⟩ := hnamed n hn
    exact ⟨p, hpositional.left.subset hp, hname, hkind, hfound (List.mem_append_right _ hmem)⟩
  · rw [lookup_fill hsig hp] at hv
    split at hv
    next b hb =>
      cases hv
      rcases List.mem_append.1 (mem_of_lookup hb) with hmem | hmem
      · rcases hpositional.given _ hmem with ⟨i, q, u, hq, hu, heq⟩ | ⟨vs, hmany⟩
        · obtain ⟨hname, hone⟩ := Prod.mk.inj heq
          cases hone
          exact .inl ⟨i, q, hq, hname.symm, hu⟩
        · cases hmany
      · obtain ⟨u, hu, heq⟩ := hbyName.given _ hmem
        cases heq
        exact .inr (.inl hu)
    next =>
      cases hkind : p.kind with
      | rest => simp [hkind] at hv
      | extra => exact absurd hkind (hextra p hp)
      | positional => exact .inr (.inr (by simpa [hkind] using hv.symm))
      | normal => exact .inr (.inr (by simpa [hkind] using hv.symm))
      | named => exact .inr (.inr (by simpa [hkind] using hv.symm))

/-- Fill in the defaults. Named arguments that are left over go to a parameter for further
    names. -/
def finish (sig : Signature) (given : Arguments) (left : List (String × Value)) :
    Except BindFault Arguments :=
  match left with
  | [] => .ok (fill given [] sig)
  | (name, _) :: _ =>
    if sig.any (·.kind = .extra) then .ok (fill given left sig) else .error (.unexpected name)

/-- Binding goes through the positional arguments, then through the named ones, and finishes. -/
theorem bind_eq (sig : Signature) (args : List Value) (named : List (String × Value)) :
    sig.bind args named = (do
      let (positional, params) ← bindPositional named sig args
      let (byName, left) ← bindNamed params named
      sig.finish (positional ++ byName) left) := by
  rw [bind]
  refine bind_congr_ok fun ⟨positional, params⟩ _ => bind_congr_ok fun ⟨byName, left⟩ _ => ?_
  cases left <;> rfl

theorem finish_eq_ok_iff {given : Arguments} {left : List (String × Value)} :
    sig.finish given left = .ok bound ↔
      (left = [] ∨ ∃ p ∈ sig, p.kind = .extra) ∧ bound = fill given left sig := by
  cases left with
  | nil => simp [finish, eq_comm]
  | cons n left =>
    have hextra : sig.any (·.kind = .extra) = true ↔ ∃ p ∈ sig, p.kind = .extra := by simp
    rw [finish]
    split
    next hany =>
      rw [Except.ok.injEq, eq_comm]
      exact ⟨fun h => ⟨.inr (hextra.1 hany), h⟩, fun h => h.2⟩
    next hany => simp [mt hextra.2 hany]

/-- What is bound is filled in from what positions and names bind. -/
theorem exists_of_bind (h : sig.bind args named = .ok bound) :
    ∃ positional params byName left, bindPositional named sig args = .ok (positional, params) ∧
      bindNamed params named = .ok (byName, left) ∧ bound = fill (positional ++ byName) left sig ∧
      (left = [] ∨ ∃ p ∈ sig, p.kind = .extra) := by
  simp only [bind_eq, bind_eq_ok_iff] at h
  obtain ⟨⟨positional, params⟩, hpositional, ⟨byName, left⟩, hbyName, h⟩ := h
  obtain ⟨hleft, rfl⟩ := finish_eq_ok_iff.1 h
  exact ⟨positional, params, byName, left, hpositional, hbyName, rfl, hleft⟩

/-- Binding deals the arguments out. -/
theorem dealt_bind (hsig : sig.names.Nodup) (hextra : ∀ p ∈ sig, p.kind ≠ .extra)
    (hnamed : (named.map (·.1)).Nodup) (h : sig.bind args named = .ok bound) :
    Dealt sig args named bound := by
  obtain ⟨_, _, _, left, hpositional, hbyName, rfl, hleft⟩ := exists_of_bind h
  obtain rfl : left = [] := hleft.resolve_right fun ⟨p, hp, hkind⟩ => hextra p hp hkind
  exact dealt_fill hsig hextra (dealt_bindPositional hpositional) (dealt_bindNamed hnamed hbyName)

end

end Signature

/-- A rule builds an expression by binding, validating and expanding. -/
theorem Rule.exists_of_build {r : Rule} {s : Setting} {args : List Value}
    {named : List (String × Value)} {e : Expr} (h : r.build s args named = .ok e) :
    ∃ bound validated, r.signature.bind args named = .ok bound ∧
      validate s.backend r.validators bound = .ok validated ∧
      r.template.expand s validated = .ok (.sql e) := by
  unfold build at h
  split at h
  next => cases h
  next bound hbound =>
    obtain ⟨validated, hvalidated, h⟩ := bind_eq_ok_iff.1 h
    obtain ⟨v, hv, h⟩ := bind_eq_ok_iff.1 h
    unfold Template.apply at hv
    split at hv
    next => cases hv
    next =>
      split at h
      · cases h
        exact ⟨bound, validated, hbound, hvalidated, hv⟩
      · cases h

end SqlDialects
