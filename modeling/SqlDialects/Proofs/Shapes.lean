-- SUMMARY: Every parameter is bound to as much as its kind takes: one value, or all that are left.
import Mathlib.Data.List.Nodup
import SqlDialects.Proofs.Bound

/-!
# Shapes of bound arguments

A parameter for all further positional arguments is bound to a list of values, one for
all further named arguments to values under names, and every other parameter to one
value: an argument or its default. Binding leaves no parameter out.
-/

namespace SqlDialects

/-- What a parameter of a kind can be bound to: one value, or all that are left. -/
def Bound.Fits (kind : ParamKind) : Bound → Prop
  | .one _ => kind ≠ .rest ∧ kind ≠ .extra
  | .many _ => kind = .rest
  | .fields _ => kind = .extra

/-! ## Binding -/

namespace Signature

variable {sig left : Signature} {args : List Value} {named leftNamed : List (String × Value)}
variable {bound : Arguments}

/-- Everything bound is bound to a parameter of its kind. -/
def FitsKinds (sig : Signature) (bound : Arguments) : Prop :=
  ∀ entry ∈ bound, ∃ p ∈ sig, p.name = entry.1 ∧ entry.2.Fits p.kind

theorem FitsKinds.cons {p : Param} {b : Bound} (hb : b.Fits p.kind) (h : sig.FitsKinds bound) :
    FitsKinds (p :: sig) ((p.name, b) :: bound) := by
  intro entry hentry
  rcases List.mem_cons.1 hentry with rfl | hentry
  · exact ⟨p, List.mem_cons_self, rfl, hb⟩
  · obtain ⟨q, hq, hfits⟩ := h entry hentry
    exact ⟨q, List.mem_cons_of_mem _ hq, hfits⟩

theorem FitsKinds.mono {sig' : Signature} (h : sig.FitsKinds bound) (hsub : sig ⊆ sig') :
    sig'.FitsKinds bound := by
  intro entry hentry
  obtain ⟨p, hp, hfits⟩ := h entry hentry
  exact ⟨p, hsub hp, hfits⟩

theorem fitsKinds_bindPositional (h : bindPositional named sig args = .ok (bound, left)) :
    sig.FitsKinds bound := by
  induction args generalizing sig bound left with
  | nil =>
    rw [bindPositional] at h
    rw [(stopAt_eq_ok h).1]
    exact List.forall_mem_nil _
  | cons v vs ih =>
    cases sig with
    | nil => cases h
    | cons p ps =>
      obtain ⟨hkind, rfl, rfl⟩ | ⟨bound', hkind, hps, rfl⟩ := cases_of_bindPositional h
      · exact .cons hkind (List.forall_mem_nil _)
      · refine .cons ⟨?_, ?_⟩ (ih hps)
        · rintro hrest
          simp [Param.takesPosition, hrest] at hkind
        · rintro hextra
          simp [Param.takesPosition, hextra] at hkind

theorem fitsKinds_bindNamed (h : bindNamed sig named = .ok (bound, leftNamed)) :
    sig.FitsKinds bound := by
  induction sig generalizing named bound leftNamed with
  | nil =>
    cases h
    exact List.forall_mem_nil _
  | cons p ps ih =>
    obtain ⟨v, bound', hkind, _, hps, rfl⟩ | ⟨_, hps⟩ := cases_of_bindNamed h
    · exact .cons (not_or.1 hkind) (ih hps)
    · exact (ih hps).mono (List.subset_cons_self _ _)

theorem fits_fill (hsig : sig.names.Nodup) (hbound : sig.FitsKinds bound) {p : Param}
    (hp : p ∈ sig) :
    ∃ b, (fill bound leftNamed sig).lookup p.name = some b ∧ b.Fits p.kind := by
  refine ⟨_, lookup_of_mem ?_ (List.mem_map.2 ⟨p, hp, rfl⟩), ?_⟩
  · rw [names_fill]
    exact hsig
  · split
    next b hb =>
      obtain ⟨q, hq, hname, hfits⟩ := hbound _ (mem_of_lookup hb)
      rwa [List.inj_on_of_nodup_map hsig hq hp hname] at hfits
    next =>
      cases hkind : p.kind with
      | rest => rfl
      | extra => rfl
      | positional => exact ⟨nofun, nofun⟩
      | normal => exact ⟨nofun, nofun⟩
      | named => exact ⟨nofun, nofun⟩

/-- Every parameter is bound to what its kind takes. -/
theorem fits_bind (hsig : sig.names.Nodup) (h : sig.bind args named = .ok bound) {p : Param}
    (hp : p ∈ sig) : ∃ b, bound.lookup p.name = some b ∧ b.Fits p.kind := by
  obtain ⟨positional, _, byName, _, hpositional, hbyName, rfl, _⟩ := exists_of_bind h
  have hparams := (dealt_bindPositional hpositional).left.subset
  have hbound : sig.FitsKinds (positional ++ byName) := by
    intro entry hentry
    rcases List.mem_append.1 hentry with hentry | hentry
    · exact fitsKinds_bindPositional hpositional entry hentry
    · exact (fitsKinds_bindNamed hbyName).mono hparams entry hentry
  exact fits_fill hsig hbound hp

end Signature

/-- What is bound to a parameter that takes one value is one value. -/
theorem Bound.Fits.exists_one {kind : ParamKind} {b : Bound} (hb : b.Fits kind)
    (hrest : kind ≠ .rest) (hextra : kind ≠ .extra) : ∃ v, b = .one v := by
  cases b with
  | one v => exact ⟨v, rfl⟩
  | many => exact absurd hb hrest
  | fields => exact absurd hb hextra

end SqlDialects
