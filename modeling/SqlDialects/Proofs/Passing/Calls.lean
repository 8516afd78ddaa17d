-- SUMMARY: A template called with what was bound is bound to it again, unless its setting is named among the arguments.
import Mathlib.Data.List.Forall2
import SqlDialects.Proofs.Passing.Walk
import SqlDialects.Proofs.Shapes

/-!
# Calling with bound arguments

A template is called with its setting and then with what its parameters were bound to:
what was bound by position comes first, then what was bound by name. The call is bound to
a signature that begins with the setting, so it is bound a second time. It then gives the
same to every parameter, for a parameter for further names is all that can take a name
twice, and the only parameter that the first binding did not know of is the setting.
-/

namespace SqlDialects

/-- The parameters that a template is called by. -/
def Template.called (t : Template) : Signature := .required settingParameter :: t.signature

namespace Bound

/-- What is bound adds an argument to the call. -/
def isPassed : Bound → Bool
  | .one _ => true
  | .many vs => !vs.isEmpty
  | .fields _ => false

/-- The further named arguments among what is bound. -/
def further : Bound → List (String × Value)
  | .fields named => named
  | _ => []

/-- The positional arguments that a parameter adds to the call. -/
def positions (p : Param) : Bound → List Value
  | .one v => if p.kind = .named then [] else [v]
  | .many vs => vs
  | .fields _ => []

/-- The named arguments that a parameter adds to the call. -/
def named (p : Param) : Bound → List (String × Value)
  | .one v => if p.kind = .named then [(p.name, v)] else []
  | .many _ => []
  | .fields named => named

end Bound

/-- The further named arguments among all that is bound. -/
def Arguments.further (given : Arguments) : List (String × Value) := given.flatMap (·.2.further)

@[simp] theorem Arguments.further_cons (name : String) (b : Bound) (given : Arguments) :
    Arguments.further ((name, b) :: given) = b.further ++ given.further := rfl

theorem Arguments.extraNames_eq (given : Arguments) :
    given.extraNames = given.further.map (·.1) := by
  rw [extraNames, further, List.map_flatMap]
  refine List.flatMap_congr fun entry _ => ?_
  obtain ⟨name, b⟩ := entry
  cases b <;> rfl

theorem Arguments.extraNames_cons (name : String) (b : Bound) (given : Arguments) :
    extraNames ((name, b) :: given) = b.further.map (·.1) ++ given.extraNames := by
  rw [extraNames_eq, extraNames_eq, further_cons, List.map_append]

namespace Signature

variable {sig : Signature} {given bound : Arguments} {args : List Value}
variable {named left : List (String × Value)}

/-- The positional arguments of a call with what is bound. -/
def callArgs (sig : Signature) (given : Arguments) : List Value :=
  (sig.zip given).flatMap fun (p, _, b) => b.positions p

/-- The named arguments of a call with what is bound. -/
def callNamed (sig : Signature) (given : Arguments) : List (String × Value) :=
  (sig.zip given).flatMap fun (p, _, b) => b.named p

/-- A signature that can stand behind a setting: no name comes twice, the kinds are in their
    order, and one parameter at most takes all further arguments of its sort. -/
def IsCallable (sig : Signature) : Prop :=
  (settingParameter :: sig.names).Nodup ∧
    sig.Pairwise fun p q => p.kind.rank ≤ q.kind.rank ∧ (p.takesAll = true → p.kind ≠ q.kind)

instance (sig : Signature) : Decidable sig.IsCallable := by
  unfold IsCallable
  infer_instance

/-- Every parameter is bound, in order and as its kind asks, and no further argument has the
    name of a parameter that could have taken it. -/
structure IsBound (sig : Signature) (given : Arguments) : Prop where
  fits : List.Forall₂ (fun p entry => entry.1 = p.name ∧ entry.2.Fits p.kind) sig given
  apart : ∀ name ∈ given.extraNames, ∀ p ∈ sig, p.kind = .normal ∨ p.kind = .named → p.name ≠ name

namespace IsCallable

variable {p : Param} {ps : Signature}

theorem names_nodup (h : sig.IsCallable) : sig.names.Nodup := (List.nodup_cons.1 h.1).2

theorem tail (h : IsCallable (p :: ps)) : IsCallable ps :=
  ⟨h.1.sublist ((List.sublist_cons_self _ _).cons_cons _), (List.pairwise_cons.1 h.2).2⟩

theorem not_mem_tail (h : IsCallable (p :: ps)) : p.name ∉ ps.names :=
  (List.nodup_cons.1 h.names_nodup).1

theorem rank_le (h : IsCallable (p :: ps)) : ∀ q ∈ ps, p.kind.rank ≤ q.kind.rank :=
  fun q hq => ((List.pairwise_cons.1 h.2).1 q hq).1

/-- Behind the parameter for the rest come only those bound by name. -/
theorem rank_of_rest (h : IsCallable (p :: ps)) (hp : p.kind = .rest) :
    ∀ q ∈ ps, 3 ≤ q.kind.rank := by
  intro q hq
  obtain ⟨hrank, hne⟩ := (List.pairwise_cons.1 h.2).1 q hq
  have hother := hne (by simp [Param.takesAll, hp])
  cases hq : q.kind <;> simp_all [ParamKind.rank]

/-- The parameter for further names is the last. -/
theorem eq_nil_of_extra (h : IsCallable (p :: ps)) (hp : p.kind = .extra) : ps = [] := by
  refine List.eq_nil_iff_forall_not_mem.2 fun q hq => ?_
  obtain ⟨hrank, hne⟩ := (List.pairwise_cons.1 h.2).1 q hq
  have hother := hne (by simp [Param.takesAll, hp])
  cases hq : q.kind <;> simp_all [ParamKind.rank]

end IsCallable

/-- What is bound in front of the rest. -/
theorem IsBound.exists_cons {p : Param} {ps : Signature} (h : IsBound (p :: ps) given) :
    ∃ b rest, given = (p.name, b) :: rest ∧ b.Fits p.kind ∧ IsBound ps rest := by
  obtain ⟨hfits, hapart⟩ := h
  cases hfits with
  | @cons _ entry _ rest hentry hrest =>
    obtain ⟨name, b⟩ := entry
    obtain ⟨rfl, hb⟩ := hentry
    refine ⟨b, rest, rfl, hb, hrest, fun name hname q hq => ?_⟩
    refine hapart name ?_ q (List.mem_cons_of_mem _ hq)
    rw [Arguments.extraNames_cons]
    exact List.mem_append_right _ hname

theorem callArgs_cons (p : Param) (ps : Signature) (name : String) (b : Bound)
    (rest : Arguments) :
    callArgs (p :: ps) ((name, b) :: rest) = b.positions p ++ callArgs ps rest := rfl

theorem callNamed_cons (p : Param) (ps : Signature) (name : String) (b : Bound)
    (rest : Arguments) :
    callNamed (p :: ps) ((name, b) :: rest) = b.named p ++ callNamed ps rest := rfl

section

variable {p : Param} {ps : Signature} {name : String} {v : Value} {rest : Arguments}

theorem callArgs_one (hp : p.kind ≠ .named) :
    callArgs (p :: ps) ((name, .one v) :: rest) = v :: callArgs ps rest := by
  simp [callArgs_cons, Bound.positions, hp]

theorem callNamed_one (hp : p.kind ≠ .named) :
    callNamed (p :: ps) ((name, .one v) :: rest) = callNamed ps rest := by
  simp [callNamed_cons, Bound.named, hp]

end

/-! ## Binding the call -/

/-- A call names the parameters that are bound by name, and the further ones. -/
theorem mem_callNamed_iff (h : sig.IsBound given) {name : String} :
    name ∈ (callNamed sig given).map (·.1) ↔
      (∃ p ∈ sig, p.kind = .named ∧ p.name = name) ∨ name ∈ given.extraNames := by
  induction sig generalizing given with
  | nil =>
    cases h.fits
    simp [callNamed, Arguments.extraNames]
  | cons p ps ih =>
    obtain ⟨b, rest, rfl, hb, hrest⟩ := h.exists_cons
    rw [callNamed_cons, List.map_append, List.mem_append, ih hrest, List.exists_mem_cons_iff,
      Arguments.extraNames_cons, List.mem_append]
    cases b with
    | one v =>
      by_cases hkind : p.kind = .named <;>
        simp [Bound.named, Bound.further, hkind, or_assoc, eq_comm]
    | many vs =>
      have hkind : p.kind = .rest := hb
      simp [Bound.named, Bound.further, hkind]
    | fields f =>
      have hkind : p.kind = .extra := hb
      simp [Bound.named, Bound.further, hkind, or_left_comm]

/-- The call names no parameter of the rest by the name of one in front. -/
theorem not_mem_callNamed {p : Param} {ps : Signature} {b : Bound} {rest : Arguments}
    (hsig : IsCallable (p :: ps)) (h : IsBound (p :: ps) ((p.name, b) :: rest))
    (hrest : IsBound ps rest) (hp : p.kind = .normal ∨ p.kind = .named) :
    p.name ∉ (callNamed ps rest).map (·.1) := by
  rw [mem_callNamed_iff hrest]
  rintro (⟨q, hq, _, hname⟩ | hextra)
  · exact hsig.not_mem_tail (hname ▸ List.mem_map_of_mem hq)
  · refine h.apart p.name ?_ p List.mem_cons_self hp rfl
    rw [Arguments.extraNames_cons]
    exact List.mem_append_right _ hextra

theorem callArgs_eq_nil (h : sig.IsBound given) (hnamed : ∀ p ∈ sig, 3 ≤ p.kind.rank) :
    callArgs sig given = [] := by
  induction sig generalizing given with
  | nil => rfl
  | cons p ps ih =>
    obtain ⟨b, rest, rfl, hb, hrest⟩ := h.exists_cons
    obtain ⟨hp, hps⟩ := List.forall_mem_cons.1 hnamed
    rw [callArgs_cons, ih hrest hps, List.append_nil]
    cases hkind : p.kind <;> cases b <;> simp_all [Bound.positions, Bound.Fits, ParamKind.rank]

theorem without_cons_self {name : String} {v : Value} (h : name ∉ named.map (·.1)) :
    without name ((name, v) :: named) = named := by
  rw [without, List.filter_cons_of_neg (by simp), List.filter_eq_self]
  exact fun n hn => bne_iff_ne.2 fun hname => h (List.mem_map.2 ⟨n, hn, hname⟩)

/-- Parameters bound by name are bound by the names of the call. -/
theorem bindNamed_callNamed (hsig : sig.IsCallable) (h : sig.IsBound given)
    (hnamed : ∀ p ∈ sig, 3 ≤ p.kind.rank) :
    bindNamed sig (callNamed sig given) =
      .ok (given.filter (·.2.isPassed), given.further) := by
  induction sig generalizing given with
  | nil =>
    cases h.fits
    rfl
  | cons p ps ih =>
    obtain ⟨b, rest, rfl, hb, hrest⟩ := h.exists_cons
    obtain ⟨hp, hps⟩ := List.forall_mem_cons.1 hnamed
    cases hkind : p.kind with
    | positional => simp [hkind, ParamKind.rank] at hp
    | normal => simp [hkind, ParamKind.rank] at hp
    | rest => simp [hkind, ParamKind.rank] at hp
    | named =>
      obtain ⟨v, rfl⟩ := hb.exists_one (by simp [hkind]) (by simp [hkind])
      have hfree := not_mem_callNamed hsig h hrest (.inr hkind)
      have hcall : callNamed (p :: ps) ((p.name, .one v) :: rest) =
          (p.name, v) :: callNamed ps rest := by
        simp [callNamed_cons, Bound.named, hkind]
      rw [bindNamed, hcall]
      simp [hkind, without_cons_self hfree, ih hsig.tail hrest hps, Bound.isPassed, Bound.further]
    | extra =>
      obtain rfl := hsig.eq_nil_of_extra hkind
      cases hrest.fits
      cases b with
      | one v => simp [Bound.Fits, hkind] at hb
      | many vs => simp [Bound.Fits, hkind] at hb
      | fields f => simp [bindNamed, hkind, callNamed, Bound.named, Arguments.further,
          Bound.further, Bound.isPassed]

/-- The walk along a signature with a call of what is bound binds all that the call passes,
    and leaves the further names. -/
theorem deal_callArgs (hsig : sig.IsCallable) (h : sig.IsBound given) :
    deal (callNamed sig given) sig (callArgs sig given) =
      .ok (given.filter (·.2.isPassed), given.further) := by
  induction sig generalizing given with
  | nil =>
    cases h.fits
    rfl
  | cons p ps ih =>
    -- once parameters bound by name begin, no position is left
    have hnamed (hrank : 3 ≤ p.kind.rank) : deal (callNamed (p :: ps) given) (p :: ps)
        (callArgs (p :: ps) given) = .ok (given.filter (·.2.isPassed), given.further) := by
      have hranks : ∀ q ∈ p :: ps, 3 ≤ q.kind.rank :=
        List.forall_mem_cons.2 ⟨hrank, fun q hq => Nat.le_trans hrank (hsig.rank_le q hq)⟩
      rw [callArgs_eq_nil h hranks, deal]
      exact bindNamed_callNamed hsig h hranks
    obtain ⟨b, rest, rfl, hb, hrest⟩ := h.exists_cons
    cases hkind : p.kind with
    | named => exact hnamed (by simp [hkind, ParamKind.rank])
    | extra => exact hnamed (by simp [hkind, ParamKind.rank])
    | positional =>
      obtain ⟨v, rfl⟩ := hb.exists_one (by simp [hkind]) (by simp [hkind])
      rw [callArgs_one (by simp [hkind]), callNamed_one (by simp [hkind]), deal]
      simp [hkind, ih hsig.tail hrest, Bound.isPassed, Bound.further]
    | normal =>
      obtain ⟨v, rfl⟩ := hb.exists_one (by simp [hkind]) (by simp [hkind])
      have hfree : (callNamed ps rest).lookup p.name = none := by
        rw [← Option.not_isSome_iff_eq_none, ← mem_names_iff_lookup]
        exact not_mem_callNamed hsig h hrest (.inl hkind)
      rw [callArgs_one (by simp [hkind]), callNamed_one (by simp [hkind]), deal]
      simp [hkind, hfree, ih hsig.tail hrest, Bound.isPassed, Bound.further]
    | rest =>
      have hranks := hsig.rank_of_rest hkind
      have hnames : callNamed (p :: ps) ((p.name, b) :: rest) = callNamed ps rest := by
        cases b <;> simp_all [callNamed_cons, Bound.named, Bound.Fits]
      cases b with
      | one v => simp [Bound.Fits, hkind] at hb
      | fields f => simp [Bound.Fits, hkind] at hb
      | many vs =>
        have hcall : callArgs (p :: ps) ((p.name, .many vs) :: rest) = vs := by
          simp [callArgs_cons, Bound.positions, callArgs_eq_nil hrest hranks]
        have htail := bindNamed_callNamed hsig.tail hrest hranks
        rw [hcall, hnames]
        cases vs with
        | nil => simp [deal, bindNamed, hkind, htail, Bound.isPassed, Bound.further]
        | cons v vs => simp [deal, hkind, htail, Bound.isPassed, Bound.further]

/-- At most one parameter is bound to further names. -/
theorem further_of_mem (hsig : sig.IsCallable) (h : sig.IsBound given) {name : String}
    {f : List (String × Value)} (hmem : (name, .fields f) ∈ given) : given.further = f := by
  induction sig generalizing given with
  | nil =>
    cases h.fits
    cases hmem
  | cons p ps ih =>
    obtain ⟨b, rest, rfl, hb, hrest⟩ := h.exists_cons
    rw [Arguments.further_cons]
    rcases List.mem_cons.1 hmem with heq | hlater
    · cases heq
      obtain rfl := hsig.eq_nil_of_extra hb
      cases hrest.fits
      exact List.append_nil f
    · cases b with
      | fields g =>
        obtain rfl := hsig.eq_nil_of_extra hb
        cases hrest.fits
        cases hlater
      | one v => exact ih hsig.tail hrest hlater
      | many vs => exact ih hsig.tail hrest hlater

/-- Further names need a parameter for them. -/
theorem further_eq_nil_or (h : sig.IsBound given) :
    given.further = [] ∨ ∃ p ∈ sig, p.kind = .extra := by
  induction sig generalizing given with
  | nil =>
    cases h.fits
    exact .inl rfl
  | cons p ps ih =>
    obtain ⟨b, rest, rfl, hb, hrest⟩ := h.exists_cons
    cases b with
    | fields f => exact .inr ⟨p, List.mem_cons_self, hb⟩
    | one v => exact (ih hrest).imp_right List.exists_mem_cons_of_exists
    | many vs => exact (ih hrest).imp_right List.exists_mem_cons_of_exists

theorem IsBound.names_eq (h : sig.IsBound given) : given.map (·.1) = sig.names := by
  induction sig generalizing given with
  | nil =>
    cases h.fits
    rfl
  | cons p ps ih =>
    obtain ⟨b, rest, rfl, _, hrest⟩ := h.exists_cons
    rw [List.map_cons, ih hrest]
    rfl

/-- What a parameter is bound to once defaults are filled in. -/
def filled (passed : Arguments) (left : List (String × Value)) (p : Param) : Bound :=
  match passed.lookup p.name with
  | some b => b
  | none =>
    match p.kind with
    | .rest => .many []
    | .extra => .fields left
    | _ => .one (p.default.getD .null)

theorem fill_eq_map (passed : Arguments) (left : List (String × Value)) (sig : Signature) :
    fill passed left sig = sig.map fun p => (p.name, filled passed left p) := rfl

theorem filled_of_lookup {p : Param} {b : Bound} (h : given.lookup p.name = some b) :
    filled given left p = b := by
  rw [filled, h]

theorem filled_of_rest {p : Param} (h : given.lookup p.name = none) (hp : p.kind = .rest) :
    filled given left p = .many [] := by
  rw [filled, h, hp]

theorem filled_of_extra {p : Param} (h : given.lookup p.name = none) (hp : p.kind = .extra) :
    filled given left p = .fields left := by
  rw [filled, h, hp]

/-- Filling in gives what is bound if it finds what was passed, and the further names. -/
theorem fill_eq_of_isBound {passed : Arguments} (h : sig.IsBound given)
    (hpassed : ∀ entry ∈ given,
      passed.lookup entry.1 = if entry.2.isPassed then some entry.2 else none)
    (hleft : ∀ name f, (name, .fields f) ∈ given → left = f) : fill passed left sig = given := by
  induction sig generalizing given with
  | nil =>
    cases h.fits
    rfl
  | cons p ps ih =>
    obtain ⟨b, rest, rfl, hb, hrest⟩ := h.exists_cons
    obtain ⟨hp, hps⟩ := List.forall_mem_cons.1 hpassed
    have htail : fill passed left ps = rest :=
      ih hrest hps fun name f hmem => hleft name f (List.mem_cons_of_mem _ hmem)
    have hhead : filled passed left p = b := by
      cases b with
      | one v => exact filled_of_lookup hp
      | many vs =>
        cases vs with
        | nil => exact filled_of_rest hp hb
        | cons v vs => exact filled_of_lookup hp
      | fields f => rw [filled_of_extra hp hb, hleft p.name f List.mem_cons_self]
    rw [fill_eq_map, List.map_cons, ← fill_eq_map, hhead, htail]

/-- The call passes what is bound, except what is filled in again. -/
theorem lookup_filter (hsig : sig.IsCallable) (h : sig.IsBound given) :
    ∀ entry ∈ given, (given.filter (·.2.isPassed)).lookup entry.1 =
      if entry.2.isPassed then some entry.2 else none := by
  intro entry hentry
  have hnames : (given.map (·.1)).Nodup := h.names_eq ▸ hsig.names_nodup
  have hfiltered : ((given.filter (·.2.isPassed)).map (·.1)).Nodup :=
    hnames.sublist (List.filter_sublist.map _)
  split
  next hpassed => exact lookup_of_mem hfiltered (List.mem_filter.2 ⟨hentry, hpassed⟩)
  next hpassed =>
    -- whatever were found under the name would be this entry, which is not passed
    cases hlookup : (given.filter (·.2.isPassed)).lookup entry.1 with
    | none => rfl
    | some b =>
      obtain ⟨hmem, hb⟩ := List.mem_filter.1 (mem_of_lookup hlookup)
      have hsame : some b = some entry.2 :=
        (lookup_of_mem hnames hmem).symm.trans (lookup_of_mem hnames hentry)
      exact absurd (Option.some.inj hsame ▸ hb) hpassed

/-- A call with what is bound is bound to the same, with the setting in front, unless the
    setting is named among the further arguments: then it is passed twice. -/
theorem bind_called (hsig : sig.IsCallable) (h : sig.IsBound given) (v : Value) :
    bind (.required settingParameter :: sig) (v :: callArgs sig given) (callNamed sig given) =
      if settingParameter ∈ given.extraNames then .error (.repeated settingParameter)
      else .ok ((settingParameter, .one v) :: given) := by
  have hfree : settingParameter ∉ sig.names := (List.nodup_cons.1 hsig.1).1
  have hnamed : settingParameter ∈ (callNamed sig given).map (·.1) ↔
      settingParameter ∈ given.extraNames := by
    rw [mem_callNamed_iff h, or_iff_right]
    rintro ⟨p, hp, _, hname⟩
    exact hfree (hname ▸ List.mem_map_of_mem hp)
  rw [mem_names_iff_lookup] at hnamed
  split
  next hextra =>
    have hdeal : deal (callNamed sig given) (.required settingParameter :: sig)
        (v :: callArgs sig given) = .error (.repeated settingParameter) := by
      rw [deal]
      simp [Param.required, hnamed.2 hextra]
    rw [bind_eq_deal, hdeal]
    rfl
  next hextra =>
    have hdeal : deal (callNamed sig given) (.required settingParameter :: sig)
        (v :: callArgs sig given) = .ok ((settingParameter, .one v) ::
          given.filter (·.2.isPassed), given.further) := by
      rw [deal]
      simp [Param.required, mt hnamed.1 hextra, deal_callArgs hsig h]
    have hlookup : ∀ entry ∈ given,
        List.lookup entry.1 ((settingParameter, .one v) :: given.filter (·.2.isPassed)) =
          if entry.2.isPassed then some entry.2 else none := by
      intro entry hentry
      have hne : entry.1 ≠ settingParameter :=
        fun hname => hfree (hname ▸ h.names_eq ▸ List.mem_map_of_mem hentry)
      rw [List.lookup_cons, beq_eq_false_iff_ne.2 hne]
      exact lookup_filter hsig h entry hentry
    have hfill : fill ((settingParameter, .one v) :: given.filter (·.2.isPassed)) given.further
        sig = given := fill_eq_of_isBound h hlookup fun _ _ => further_of_mem hsig h
    have hhead : fill ((settingParameter, .one v) :: given.filter (·.2.isPassed)) given.further
        (.required settingParameter :: sig) = (settingParameter, .one v) ::
          fill ((settingParameter, .one v) :: given.filter (·.2.isPassed)) given.further sig := by
      simp [fill, Param.required]
    refine bind_eq_ok_iff_deal.2 ⟨_, _, hdeal, ?_, by rw [hhead, hfill]⟩
    exact (further_eq_nil_or h).imp_right List.exists_mem_cons_of_exists

/-! ## What binding binds -/

/-- What is bound to a signature, and the named arguments left. -/
structure Leaves (sig : Signature) (named : List (String × Value)) (given : Arguments)
    (left : List (String × Value)) : Prop where
  single : ∀ entry ∈ given, ¬entry.2.Fits .extra
  apart : ∀ p ∈ sig, p.kind = .normal ∨ p.kind = .named → p.name ∉ left.map (·.1)
  keeps : ∀ n ∈ named, n.1 ∉ sig.names → n ∈ left

namespace Leaves

variable {p : Param} {ps : Signature}

theorem skip (h : Leaves ps named given left)
    (hp : p.kind = .normal ∨ p.kind = .named → p.name ∉ left.map (·.1)) :
    Leaves (p :: ps) named given left where
  single := h.single
  apart := List.forall_mem_cons.2 ⟨hp, h.apart⟩
  keeps n hn hname := h.keeps n hn fun hmem => hname (List.mem_cons_of_mem _ hmem)

theorem cons (h : Leaves ps named given left) {b : Bound} (hb : ¬b.Fits .extra)
    (hp : p.kind = .normal ∨ p.kind = .named → p.name ∉ left.map (·.1)) :
    Leaves (p :: ps) named ((p.name, b) :: given) left :=
  { h.skip hp with single := List.forall_mem_cons.2 ⟨hb, h.single⟩ }

/-- An argument that is bound by name is not left. -/
theorem found (h : Leaves ps (without p.name named) given left) (v : Value)
    (hleft : left.Sublist (without p.name named)) :
    Leaves (p :: ps) named ((p.name, .one v) :: given) left where
  single := List.forall_mem_cons.2 ⟨by simp [Bound.Fits], h.single⟩
  apart := by
    refine List.forall_mem_cons.2 ⟨fun _ hmem => ?_, h.apart⟩
    obtain ⟨n, hn, hname⟩ := List.mem_map.1 (List.map_subset _ hleft.subset hmem)
    exact bne_iff_ne.1 (List.mem_filter.1 hn).2 hname
  keeps n hn hname := by
    rw [names, List.map_cons, List.mem_cons, not_or] at hname
    exact h.keeps n (List.mem_filter.2 ⟨hn, bne_iff_ne.2 hname.1⟩) hname.2

end Leaves

/-- What is left over has no name that was not passed. -/
theorem not_mem_left {name : String} (hnone : named.lookup name = none)
    (hleft : left.Sublist named) : name ∉ left.map (·.1) := by
  intro hmem
  have hpassed := mem_names_iff_lookup.1 (List.map_subset _ hleft.subset hmem)
  rw [hnone] at hpassed
  cases hpassed

theorem leaves_bindNamed (h : bindNamed sig named = .ok (given, left)) :
    sig.Leaves named given left := by
  induction sig generalizing named given with
  | nil =>
    cases h
    exact ⟨nofun, nofun, fun n hn _ => hn⟩
  | cons p ps ih =>
    obtain ⟨v, given', _, _, hps, rfl⟩ | ⟨hnone, hps⟩ := cases_of_bindNamed h
    · exact (ih hps).found v (sublist_of_bindNamed hps)
    · refine (ih hps).skip fun hkind => not_mem_left ?_ (sublist_of_bindNamed hps)
      rcases hnone with hrest | hextra | hnone
      · simp [hrest] at hkind
      · simp [hextra] at hkind
      · exact hnone

theorem leaves_deal (h : deal named sig args = .ok (given, left)) :
    sig.Leaves named given left := by
  induction sig generalizing args given with
  | nil =>
    cases args with
    | nil => exact leaves_bindNamed h
    | cons v vs => cases h
  | cons p ps ih =>
    cases args with
    | nil => exact leaves_bindNamed h
    | cons v vs =>
      obtain ⟨given', hkind, hps, rfl⟩ | ⟨given', hkind, hps, rfl⟩ := cases_of_deal h
      · exact (leaves_bindNamed hps).cons (by simp [Bound.Fits]) (by simp [hkind])
      · refine (ih hps).cons (by simp [Bound.Fits]) fun hname =>
          not_mem_left ?_ (sublist_of_deal hps)
        rcases hkind with hpositional | ⟨_, hnone⟩
        · simp [hpositional] at hname
        · exact hnone

/-- The further names of what is filled in are those left over. -/
theorem mem_extraNames_fill (hgiven : ∀ entry ∈ given, ¬entry.2.Fits .extra) {name : String}
    (h : name ∈ (fill given left sig).extraNames) : name ∈ left.map (·.1) := by
  rw [Arguments.extraNames_eq, Arguments.further, fill_eq_map, List.flatMap_map,
    List.map_flatMap] at h
  obtain ⟨p, _, hp⟩ := List.mem_flatMap.1 h
  dsimp only [filled] at hp
  split at hp
  next b hb =>
    have hnone := hgiven _ (mem_of_lookup hb)
    cases b with
    | fields f => exact absurd rfl hnone
    | one v => cases hp
    | many vs => cases hp
  next =>
    cases hkind : p.kind <;> simp only [hkind] at hp
    case extra => exact hp
    all_goals cases hp

/-- What is filled in for a parameter is as its kind asks. -/
theorem fits_filled (hsig : sig.names.Nodup) (h : sig.bind args named = .ok (fill given left sig))
    {p : Param} (hp : p ∈ sig) : (filled given left p).Fits p.kind := by
  obtain ⟨b, hb, hfits⟩ := fits_bind hsig h hp
  have hnames : ((fill given left sig).map (·.1)).Nodup := by
    rwa [names_fill]
  have hfilled := lookup_of_mem hnames (List.mem_map.2 ⟨p, hp, rfl⟩)
  rw [Option.some.inj (hb.symm.trans hfilled)] at hfits
  exact hfits

/-- Binding binds every parameter as its kind asks, and leaves to the parameter for further
    names only those that no other could take. -/
theorem isBound_bind (hsig : sig.names.Nodup) (h : sig.bind args named = .ok bound) :
    sig.IsBound bound := by
  obtain ⟨given, left, hdeal, _, rfl⟩ := bind_eq_ok_iff_deal.1 h
  have hleaves := leaves_deal hdeal
  refine ⟨List.forall₂_map_right_iff.2 (List.forall₂_same.2 fun p hp => ⟨rfl, ?_⟩),
    fun name hname p hp hkind heq => ?_⟩
  · exact fits_filled hsig h hp
  · exact hleaves.apart p hp hkind (heq ▸ mem_extraNames_fill hleaves.single hname)

/-- A name that is no parameter's is among the further names exactly when the call names it. -/
theorem mem_extraNames_bind_iff (hsig : sig.names.Nodup) {name : String} (hname : name ∉ sig.names)
    (h : sig.bind args named = .ok bound) :
    name ∈ bound.extraNames ↔ name ∈ named.map (·.1) := by
  obtain ⟨given, left, hdeal, hextra, rfl⟩ := bind_eq_ok_iff_deal.1 h
  have hleaves := leaves_deal hdeal
  constructor
  · intro hmem
    exact List.map_subset _ (sublist_of_deal hdeal).subset
      (mem_extraNames_fill hleaves.single hmem)
  · intro hmem
    obtain ⟨n, hn, rfl⟩ := List.mem_map.1 hmem
    have hleft := hleaves.keeps n hn hname
    obtain ⟨p, hp, hkind⟩ := hextra.resolve_left (List.ne_nil_of_mem hleft)
    have hfits := fits_filled hsig h hp
    rw [Arguments.extraNames_eq, Arguments.further, fill_eq_map, List.flatMap_map,
      List.map_flatMap]
    refine List.mem_flatMap.2 ⟨p, hp, ?_⟩
    cases hlookup : given.lookup p.name with
    | some b =>
      rw [filled_of_lookup hlookup, hkind] at hfits
      exact absurd hfits (hleaves.single _ (mem_of_lookup hlookup))
    | none =>
      rw [filled_of_extra hlookup hkind]
      exact List.mem_map_of_mem hleft

end Signature

/-! ## What validation keeps -/

/-- What is bound, without the values that a validator can replace. -/
def Bound.shape : Bound → Bound
  | .one _ => .one .null
  | .many _ => .many []
  | .fields named => .fields named

def Arguments.shape (args : Arguments) : Arguments := args.map fun (name, b) => (name, b.shape)

theorem Bound.fits_shape {kind : ParamKind} {b : Bound} : b.shape.Fits kind ↔ b.Fits kind := by
  cases b <;> rfl

theorem Arguments.extraNames_shape (args : Arguments) :
    args.shape.extraNames = args.extraNames := by
  rw [extraNames, extraNames, shape, List.flatMap_map]
  refine List.flatMap_congr fun entry _ => ?_
  obtain ⟨name, b⟩ := entry
  cases b <;> rfl

section

variable {validator : Validator} {validators : List Validator} {b b' : Bound}
variable {backend : Backend} {args args' : Arguments}

theorem Validator.shape_of_applyBound (h : validator.applyBound b = .ok b') :
    b'.shape = b.shape := by
  obtain ⟨_, _, rfl, _, rfl⟩ | ⟨_, _, rfl, _, rfl⟩ | ⟨_, rfl, rfl⟩ := cases_of_applyBound h
  all_goals rfl

theorem shape_of_runValidators {argument : String}
    (h : runValidators backend argument validators b = .ok b') : b'.shape = b.shape := by
  induction validators generalizing b with
  | nil =>
    cases h
    rfl
  | cons validator rest ih =>
    obtain ⟨b₁, hb₁, h⟩ := runValidators_cons_eq_ok_iff.1 h
    exact (ih h).trans (Validator.shape_of_applyBound hb₁)

theorem Arguments.shape_set {name : String} (hargs : (args.map (·.1)).Nodup)
    (hb : args.lookup name = some b) (hshape : b'.shape = b.shape) :
    (args.set name b').shape = args.shape := by
  rw [set, shape, List.map_map]
  refine List.map_congr_left fun entry hentry => ?_
  by_cases hname : entry.1 = name
  · have hold : some b = some entry.2 := by
      rw [← hb, ← hname]
      exact lookup_of_mem hargs hentry
    simp [hname, hshape, Option.some.inj hold]
  · simp [hname]

/-- Validators replace values, and leave each parameter as much as it was bound to. -/
theorem shape_of_validate {entries : List (String × List Validator)}
    (hargs : (args.map (·.1)).Nodup) (h : validate backend entries args = .ok args') :
    args'.shape = args.shape := by
  induction entries generalizing args with
  | nil =>
    cases h
    rfl
  | cons entry rest ih =>
    obtain ⟨_, h⟩ | ⟨b, b', hb, hb', h⟩ := cases_of_validate h
    · exact ih hargs h
    · have hset := Arguments.shape_set hargs hb (shape_of_runValidators hb')
      exact (ih (by rwa [Arguments.map_fst_set]) h).trans hset

end

/-- Only the shape of what is bound counts. -/
theorem Signature.isBound_congr {sig : Signature} {args args' : Arguments}
    (hshape : args'.shape = args.shape) (h : sig.IsBound args) : sig.IsBound args' := by
  have hfits (given : Arguments) :
      List.Forall₂ (fun p entry => entry.1 = p.name ∧ entry.2.Fits p.kind) sig given.shape ↔
        List.Forall₂ (fun p entry => entry.1 = p.name ∧ entry.2.Fits p.kind) sig given := by
    simp only [Arguments.shape, List.forall₂_map_right_iff, Bound.fits_shape]
  refine ⟨?_, ?_⟩
  · rw [← hfits, hshape, hfits]
    exact h.fits
  · rw [← Arguments.extraNames_shape, hshape, Arguments.extraNames_shape]
    exact h.apart

section

variable {r : Rule} {backend : Backend} {args : List Value} {named : List (String × Value)}
variable {bound given : Arguments}

/-- The setting is among the further names of what is let pass if the call named it. -/
theorem Rule.mem_extraNames_iff (hsig : r.signature.IsCallable)
    (hbind : r.signature.bind args named = .ok bound)
    (hvalidate : validate backend r.validators bound = .ok given) :
    settingParameter ∈ given.extraNames ↔ settingParameter ∈ named.map (·.1) := by
  have hbound := Signature.isBound_bind hsig.names_nodup hbind
  have hshape := shape_of_validate (hbound.names_eq ▸ hsig.names_nodup) hvalidate
  rw [← Arguments.extraNames_shape, hshape, Arguments.extraNames_shape]
  exact Signature.mem_extraNames_bind_iff hsig.names_nodup (List.nodup_cons.1 hsig.1).1 hbind

/-- A template is called with bound and validated arguments: the call is bound to these
    arguments and the setting, unless the caller named the setting among the arguments. -/
theorem Rule.bind_called (hsig : r.signature.IsCallable)
    (hbind : r.signature.bind args named = .ok bound)
    (hvalidate : validate backend r.validators bound = .ok given) (v : Value) :
    r.template.called.bind (v :: r.signature.callArgs given) (r.signature.callNamed given) =
      if settingParameter ∈ named.map (·.1) then .error (.repeated settingParameter)
      else .ok ((settingParameter, .one v) :: given) := by
  have hbound := Signature.isBound_bind hsig.names_nodup hbind
  have hshape := shape_of_validate (hbound.names_eq ▸ hsig.names_nodup) hvalidate
  have hcalled := Signature.bind_called hsig (Signature.isBound_congr hshape hbound) v
  simp only [Rule.mem_extraNames_iff hsig hbind hvalidate] at hcalled
  exact hcalled

end

end SqlDialects
