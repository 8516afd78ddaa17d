-- SUMMARY: A call that is spelled otherwise, by names, in another order or with defaults written out, builds the same.
import Mathlib.Data.List.Nodup
import Mathlib.Logic.Relation
import SqlDialects.Proofs.Binding
import SqlDialects.Proofs.Passing.Walk
import SqlDialects.Tables.Postgres

/-!
# Spellings of a call

Where every parameter takes one argument, a call passes values under names: a positional
argument under the name of the parameter in its place. Whether the call binds, once its
positions can be filled, and what it binds depend on these pairs alone, and not on their
order. Passing arguments by name and not by position leaves the pairs as they are, and
writing out a default adds a pair that binding would have filled in.
-/

namespace SqlDialects

/-- In a table without repetition a lookup does not depend on the order. -/
theorem lookup_eq_of_perm {α β : Type} [BEq α] [LawfulBEq α] {table table' : List (α × β)}
    (h : table.Perm table') (hkeys : (table.map (·.1)).Nodup) (a : α) :
    table.lookup a = table'.lookup a := by
  have hkeys' : (table'.map (·.1)).Nodup := (h.map _).nodup_iff.1 hkeys
  ext b
  exact ⟨fun hb => lookup_of_mem hkeys' (h.mem_iff.1 (mem_of_lookup hb)),
    fun hb => lookup_of_mem hkeys (h.mem_iff.2 (mem_of_lookup hb))⟩

namespace Signature

variable {sig : Signature} {args args' : List Value} {named named' left : List (String × Value)}
variable {given bound : Arguments} {c c' : List Value × List (String × Value)}

/-- Every parameter takes one argument and has a name. -/
def IsPlain (sig : Signature) : Prop := ∀ p ∈ sig, p.kind = .normal ∨ p.kind = .named

instance (sig : Signature) : Decidable sig.IsPlain := by
  unfold IsPlain
  infer_instance

/-! ## What a call passes -/

/-- The values that a call passes, under the names of their parameters. -/
def passed (sig : Signature) (args : List Value) (named : List (String × Value)) :
    List (String × Value) :=
  sig.names.zip args ++ named

/-- Every parameter with the value passed under its name, or its default. -/
def complete (sig : Signature) (passed : List (String × Value)) : Arguments :=
  sig.map fun p => (p.name, .one ((passed.lookup p.name).getD (p.default.getD .null)))

/-- What is passed can be bound: every name names a parameter, none is passed twice, and a
    parameter whose name is not passed has a default. -/
structure Binds (sig : Signature) (passed : List (String × Value)) : Prop where
  distinct : (passed.map (·.1)).Nodup
  known : ∀ n ∈ passed, n.1 ∈ sig.names
  settled : ∀ p ∈ sig, p.name ∈ passed.map (·.1) ∨ p.default.isSome = true

/-- There are parameters that so many positions can fill. -/
structure HasPlaces (sig : Signature) (n : Nat) : Prop where
  most : n ≤ sig.length
  normal : ∀ p ∈ sig.take n, p.kind = .normal

theorem hasPlaces_zero : sig.HasPlaces 0 := ⟨Nat.zero_le _, by simp⟩

theorem hasPlaces_cons_iff {p : Param} {ps : Signature} {n : Nat} :
    HasPlaces (p :: ps) (n + 1) ↔ p.kind = .normal ∧ HasPlaces ps n := by
  constructor
  · rintro ⟨hmost, hnormal⟩
    rw [List.take_succ_cons, List.forall_mem_cons] at hnormal
    exact ⟨hnormal.1, Nat.le_of_succ_le_succ hmost, hnormal.2⟩
  · rintro ⟨hp, hmost, hnormal⟩
    refine ⟨Nat.succ_le_succ hmost, ?_⟩
    rw [List.take_succ_cons, List.forall_mem_cons]
    exact ⟨hp, hnormal⟩

theorem HasPlaces.mono {m n : Nat} (h : sig.HasPlaces n) (hmn : m ≤ n) : sig.HasPlaces m :=
  ⟨Nat.le_trans hmn h.most, fun p hp => h.normal p (List.take_subset_take_left _ hmn hp)⟩

theorem HasPlaces.succ {p : Param} {n : Nat} (h : sig.HasPlaces n) (hp : sig[n]? = some p)
    (hkind : p.kind = .normal) : sig.HasPlaces (n + 1) := by
  refine ⟨(List.getElem?_eq_some_iff.1 hp).1, ?_⟩
  rw [List.take_add_one, hp, List.forall_mem_append]
  exact ⟨h.normal, List.forall_mem_singleton.2 hkind⟩

theorem deal_eq_ok_iff_of_isPlain (hplain : sig.IsPlain) (hsig : sig.names.Nodup) :
    deal named sig args = .ok (given, left) ↔
      sig.HasPlaces args.length ∧ (∀ p ∈ sig.take args.length, named.lookup p.name = none) ∧
        (∀ p ∈ sig.drop args.length, p.takesAll = true ∨ p.Finds named) ∧
          given = (sig.names.zip args).map (fun n => (n.1, .one n.2)) ++
            byName (sig.drop args.length) named ∧
          left = unclaimed (sig.drop args.length) named := by
  induction sig generalizing args given with
  | nil =>
    cases args with
    | nil => simp [deal, bindNamed_eq_ok_iff hsig, hasPlaces_zero]
    | cons v vs =>
      have hnot : ¬HasPlaces [] (vs.length + 1) := fun h => absurd h.most (by simp)
      simp [deal, hnot]
  | cons p ps ih =>
    cases args with
    | nil => simp [deal, bindNamed_eq_ok_iff hsig, hasPlaces_zero]
    | cons v vs =>
      rw [deal, List.length_cons, hasPlaces_cons_iff, List.take_succ_cons, List.drop_succ_cons,
        List.forall_mem_cons]
      rcases hplain p List.mem_cons_self with hkind | hkind
      · simp only [hkind]
        cases hlookup : named.lookup p.name with
        | some w => simp
        | none =>
          have hps (given' : Arguments) := @ih vs given'
            (fun q hq => hplain q (List.mem_cons_of_mem _ hq)) (List.nodup_cons.1 hsig).2
          simp only [Option.isSome_none, Bool.false_eq_true, if_false, bind_eq_ok_iff,
            pure_eq_ok_iff, true_and]
          constructor
          · rintro ⟨⟨given', left'⟩, h, heq⟩
            cases heq
            obtain ⟨hplaces, hnone, hfinds, rfl, rfl⟩ := (hps given').1 h
            exact ⟨hplaces, hnone, hfinds, rfl, rfl⟩
          · rintro ⟨hplaces, hnone, hfinds, rfl, rfl⟩
            exact ⟨_, (hps _).2 ⟨hplaces, hnone, hfinds, rfl, rfl⟩, rfl⟩
      · simp [hkind]

theorem names_take (sig : Signature) (n : Nat) : names (sig.take n) = sig.names.take n :=
  List.map_take

theorem names_drop (sig : Signature) (n : Nat) : names (sig.drop n) = sig.names.drop n :=
  List.map_drop

/-- Parameters behind a place have other names than those in front of it. -/
theorem disjoint_names (hsig : sig.names.Nodup) (n : Nat) :
    (sig.names.take n).Disjoint (names (sig.drop n)) := by
  rw [names_drop]
  exact List.disjoint_take_drop hsig (Nat.le_refl n)

/-- Positions pass values under the first names. -/
theorem names_zip (names : List String) (args : List Value) :
    (names.zip args).map (·.1) = names.take args.length := by
  induction names generalizing args with
  | nil => simp
  | cons n ns ih => cases args <;> simp [ih]

theorem lookup_one (given : List (String × Value)) (name : String) :
    (given.map fun n => (n.1, Bound.one n.2)).lookup name = (given.lookup name).map .one := by
  induction given with
  | nil => rfl
  | cons n ns ih =>
    rw [List.map_cons, List.lookup_cons, List.lookup_cons, ih]
    cases name == n.1 <;> rfl

theorem IsPlain.takesAll_eq_false (hplain : sig.IsPlain) {p : Param} (hp : p ∈ sig) :
    p.takesAll = false := by
  rcases hplain p hp with hkind | hkind <;> simp [Param.takesAll, hkind]

theorem lookup_byName (hplain : sig.IsPlain) {name : String} (hname : name ∈ sig.names) :
    (byName sig named).lookup name = (named.lookup name).map .one := by
  cases hlookup : named.lookup name with
  | none =>
    refine List.lookup_eq_none_iff.2 fun b hb => bne_iff_ne.2 ?_
    rintro rfl
    obtain ⟨p, _, hp⟩ := List.mem_filterMap.1 hb
    split at hp
    · cases hp
    · obtain ⟨v, hv, rfl⟩ := Option.map_eq_some_iff.1 hp
      simp [hv] at hlookup
  | some v =>
    induction sig with
    | nil => cases hname
    | cons p ps ih =>
      have hall := hplain.takesAll_eq_false List.mem_cons_self
      rw [byName, List.filterMap_cons, hall, if_neg Bool.false_ne_true]
      by_cases hp : p.name = name
      · simp [hp, hlookup]
      · have hps := ih (fun q hq => hplain q (List.mem_cons_of_mem _ hq))
          ((List.mem_cons.1 hname).resolve_left (Ne.symm hp))
        have hother : (name == p.name) = false := beq_eq_false_iff_ne.2 (Ne.symm hp)
        cases named.lookup p.name with
        | none => exact hps
        | some w => rw [Option.map_some, List.lookup_cons, hother]; exact hps

theorem IsPlain.finds_iff (hplain : sig.IsPlain) {p : Param} (hp : p ∈ sig) :
    p.Finds named ↔ p.name ∈ named.map (·.1) ∨ p.default.isSome = true := by
  have hkind : p.kind ≠ .positional := by
    rcases hplain p hp with hkind | hkind <;> simp [hkind]
  rw [Param.Finds, mem_names_iff_lookup]
  split
  next h => simp [h, hkind]
  next h => simp [h]

/-- What is passed under the names of a signature, as the walk binds it. -/
theorem lookup_dealt (hplain : sig.IsPlain) {p : Param} (hp : p ∈ sig) :
    ((sig.names.zip args).map (fun n => (n.1, Bound.one n.2)) ++
      byName (sig.drop args.length) named).lookup p.name =
      ((sig.passed args named).lookup p.name).map .one := by
  rw [passed, List.lookup_append, List.lookup_append, lookup_one]
  by_cases htaken : p.name ∈ sig.names.take args.length
  · have hsome : ((sig.names.zip args).lookup p.name).isSome = true := by
      rwa [← mem_names_iff_lookup, names_zip]
    obtain ⟨v, hv⟩ := Option.isSome_iff_exists.1 hsome
    rw [hv]
    rfl
  · have hleft : p.name ∈ names (sig.drop args.length) := by
      have hname : p.name ∈ sig.names.take args.length ++ sig.names.drop args.length := by
        rw [List.take_append_drop]
        exact List.mem_map_of_mem hp
      rw [names_drop]
      exact (List.mem_append.1 hname).resolve_left htaken
    have hnone : (sig.names.zip args).lookup p.name = none := by
      rwa [← Option.not_isSome_iff_eq_none, ← mem_names_iff_lookup, names_zip]
    rw [hnone, lookup_byName (fun q hq => hplain q (List.drop_subset _ _ hq)) hleft]
    rfl

theorem names_passed : (sig.passed args named).map (·.1) =
    sig.names.take args.length ++ named.map (·.1) := by
  rw [passed, List.map_append, names_zip]

/-- Every named argument finds a parameter of its name. -/
theorem IsPlain.unclaimed_eq_nil_iff (hplain : sig.IsPlain) :
    sig.unclaimed named = [] ↔ ∀ n ∈ named, n.1 ∈ sig.names := by
  rw [unclaimed, List.filter_eq_nil_iff]
  refine forall₂_congr fun n _ => ?_
  rw [Bool.not_eq_true, Bool.not_eq_false', List.any_eq_true]
  constructor
  · rintro ⟨p, hp, hname⟩
    exact List.mem_map.2 ⟨p, hp, by simpa [hplain.takesAll_eq_false hp] using hname⟩
  · intro hn
    obtain ⟨p, hp, hname⟩ := List.mem_map.1 hn
    exact ⟨p, hp, by simpa [hplain.takesAll_eq_false hp] using hname⟩

/-- What the walk asks of the parameters that positions fill and of those behind them. -/
theorem binds_passed_iff (hplain : sig.IsPlain) (hsig : sig.names.Nodup)
    (hnamed : (named.map (·.1)).Nodup) : sig.Binds (sig.passed args named) ↔
      (∀ p ∈ sig.take args.length, named.lookup p.name = none) ∧
        (∀ p ∈ sig.drop args.length, p.takesAll = true ∨ p.Finds named) ∧
          unclaimed (sig.drop args.length) named = [] := by
  have hbehind : IsPlain (sig.drop args.length) :=
    fun p hp => hplain p (List.drop_subset _ _ hp)
  have hnames : sig.names.take args.length ++ names (sig.drop args.length) = sig.names := by
    rw [names_drop, List.take_append_drop]
  have hapart := disjoint_names hsig args.length
  have hnone : (∀ p ∈ sig.take args.length, named.lookup p.name = none) ↔
      (sig.names.take args.length).Disjoint (named.map (·.1)) := by
    rw [← names_take, names, List.Disjoint, List.forall_mem_map]
    refine forall₂_congr fun p _ => ?_
    rw [mem_names_iff_lookup]
    cases named.lookup p.name <;> simp
  have hfinds : (∀ p ∈ sig.drop args.length, p.takesAll = true ∨ p.Finds named) ↔
      ∀ p ∈ sig.drop args.length, p.name ∈ named.map (·.1) ∨ p.default.isSome = true := by
    refine forall₂_congr fun p hp => ?_
    rw [hbehind.takesAll_eq_false hp, hbehind.finds_iff hp]
    simp
  rw [hnone, hfinds, hbehind.unclaimed_eq_nil_iff]
  constructor
  · rintro ⟨hdistinct, hknown, hsettled⟩
    rw [names_passed, List.nodup_append'] at hdistinct
    refine ⟨hdistinct.2.2, fun p hp => ?_, fun n hn => ?_⟩
    · have hp' : p.name ∉ sig.names.take args.length := fun h =>
        hapart h (List.mem_map_of_mem hp)
      have hor := hsettled p (List.drop_subset _ _ hp)
      rwa [names_passed, List.mem_append, or_iff_right hp'] at hor
    · have hn' : n.1 ∉ sig.names.take args.length := fun h =>
        hdistinct.2.2 h (List.mem_map_of_mem hn)
      have hor := hknown n (List.mem_append_right _ hn)
      rwa [← hnames, List.mem_append, or_iff_right hn'] at hor
  · rintro ⟨hdisjoint, hsettled, hknown⟩
    refine ⟨?_, ?_, fun p hp => ?_⟩
    · rw [names_passed, List.nodup_append']
      exact ⟨hsig.sublist (List.take_sublist _ _), hnamed, hdisjoint⟩
    · rw [passed, List.forall_mem_append]
      refine ⟨fun n hn => (List.of_mem_zip hn).1, fun n hn => ?_⟩
      rw [← hnames]
      exact List.mem_append_right _ (hknown n hn)
    · rw [names_passed, List.mem_append, or_assoc]
      rcases List.mem_append.1 ((List.take_append_drop args.length sig).symm ▸ hp) with htaken | hp
      · rw [← names_take]
        exact .inl (List.mem_map_of_mem htaken)
      · exact .inr (hsettled p hp)

theorem fill_dealt (hplain : sig.IsPlain) :
    fill ((sig.names.zip args).map (fun n => (n.1, .one n.2)) ++
      byName (sig.drop args.length) named) [] sig = sig.complete (sig.passed args named) := by
  refine List.map_congr_left fun p hp => ?_
  rw [lookup_dealt hplain hp]
  cases (sig.passed args named).lookup p.name with
  | some v => rfl
  | none => rcases hplain p hp with hkind | hkind <;> simp [hkind]

theorem bind_eq_ok_iff_of_isPlain (hplain : sig.IsPlain) (hsig : sig.names.Nodup)
    (hnamed : (named.map (·.1)).Nodup) : sig.bind args named = .ok bound ↔
      sig.HasPlaces args.length ∧ sig.Binds (sig.passed args named) ∧
        bound = sig.complete (sig.passed args named) := by
  have hextra : ¬∃ p ∈ sig, p.kind = .extra := by
    rintro ⟨p, hp, hkind⟩
    rcases hplain p hp with h | h <;> rw [hkind] at h <;> cases h
  simp only [bind_eq_ok_iff_deal, deal_eq_ok_iff_of_isPlain hplain hsig, hextra, or_false,
    binds_passed_iff hplain hsig hnamed, ← fill_dealt hplain]
  constructor
  · rintro ⟨_, _, ⟨hplaces, hnone, hfinds, rfl, rfl⟩, hleft, rfl⟩
    exact ⟨hplaces, ⟨hnone, hfinds, hleft⟩, by rw [hleft]⟩
  · rintro ⟨hplaces, ⟨hnone, hfinds, hleft⟩, rfl⟩
    exact ⟨_, _, ⟨hplaces, hnone, hfinds, rfl, rfl⟩, hleft, by rw [hleft]⟩

/-! ## Other spellings -/

/-- A call is spelled otherwise: its last positional arguments are passed by name, a default
    that it omits is written out, by name or in the next position, or its named arguments
    come in another order. -/
inductive Respells (sig : Signature) :
    List Value × List (String × Value) → List Value × List (String × Value) → Prop
  | moved (kept moved : List Value) (named : List (String × Value)) :
      Respells sig (kept ++ moved, named) (kept, (sig.names.drop kept.length).zip moved ++ named)
  | named {p : Param} {v : Value} {args : List Value} {named : List (String × Value)}
      (hp : p ∈ sig.drop args.length) (hdefault : p.default = some v)
      (homitted : p.name ∉ named.map (·.1)) :
      Respells sig (args, named) (args, (p.name, v) :: named)
  | placed {p : Param} {v : Value} {args : List Value} {named : List (String × Value)}
      (hp : sig[args.length]? = some p) (hkind : p.kind = .normal) (hdefault : p.default = some v)
      (homitted : p.name ∉ named.map (·.1)) :
      Respells sig (args, named) (args ++ [v], named)
  | permuted {args : List Value} {named named' : List (String × Value)}
      (h : named.Perm named') : Respells sig (args, named) (args, named')

/-- What is passed by name passes the same pairs as by position. -/
theorem passed_moved (sig : Signature) (kept moved : List Value) (named : List (String × Value)) :
    sig.passed kept ((sig.names.drop kept.length).zip moved ++ named) =
      sig.passed (kept ++ moved) named := by
  have hzip (names : List String) : names.zip (kept ++ moved) =
      names.zip kept ++ (names.drop kept.length).zip moved := by
    induction kept generalizing names with
    | nil => simp
    | cons v vs ih => cases names <;> simp [ih]
  rw [passed, passed, hzip, List.append_assoc]

/-- Passing a default is the same as passing nothing. -/
theorem complete_default {p : Param} {v : Value} {passed : List (String × Value)}
    (hsig : sig.names.Nodup) (hp : p ∈ sig) (hdefault : p.default = some v)
    (homitted : p.name ∉ passed.map (·.1)) :
    sig.complete ((p.name, v) :: passed) = sig.complete passed := by
  refine List.map_congr_left fun q hq => ?_
  rw [List.lookup_cons]
  by_cases hname : q.name = p.name
  · have hnone : passed.lookup q.name = none := by
      rwa [← Option.not_isSome_iff_eq_none, ← mem_names_iff_lookup, hname]
    have hsame : q = p := List.inj_on_of_nodup_map hsig hq hp hname
    rw [hnone, hsame, hdefault, beq_self_eq_true]
    rfl
  · rw [beq_eq_false_iff_ne.2 hname]

theorem Binds.default {p : Param} {v : Value} {passed : List (String × Value)}
    (h : sig.Binds passed) (hp : p ∈ sig) (homitted : p.name ∉ passed.map (·.1)) :
    sig.Binds ((p.name, v) :: passed) where
  distinct := List.nodup_cons.2 ⟨homitted, h.distinct⟩
  known := List.forall_mem_cons.2 ⟨List.mem_map_of_mem hp, h.known⟩
  settled q hq := (h.settled q hq).imp_left (List.mem_cons_of_mem _)

theorem Binds.perm {passed passed' : List (String × Value)} (h : sig.Binds passed)
    (hperm : passed.Perm passed') : sig.Binds passed' where
  distinct := (hperm.map _).nodup_iff.1 h.distinct
  known n hn := h.known n (hperm.mem_iff.2 hn)
  settled q hq := (h.settled q hq).imp_left (hperm.map _).mem_iff.1

/-- What a call binds does not depend on the order of what it passes. -/
theorem complete_perm {passed passed' : List (String × Value)} (h : (passed.map (·.1)).Nodup)
    (hperm : passed.Perm passed') : sig.complete passed' = sig.complete passed := by
  refine List.map_congr_left fun q _ => ?_
  rw [lookup_eq_of_perm hperm h]

/-- A call and another spelling of it: the positions can be filled, and what is passed can be
    bound, to the same. -/
theorem Respells.passed (hsig : sig.names.Nodup) (h : sig.Respells c c')
    (hplaces : sig.HasPlaces c.1.length) (hbinds : sig.Binds (sig.passed c.1 c.2)) :
    sig.HasPlaces c'.1.length ∧ sig.Binds (sig.passed c'.1 c'.2) ∧
      sig.complete (sig.passed c'.1 c'.2) = sig.complete (sig.passed c.1 c.2) := by
  -- an omitted default is one more pair, wherever it stands among them
  have hwritten {p : Param} {v : Value} {args : List Value} {named : List (String × Value)}
      (hbinds : sig.Binds (sig.passed args named)) (hp : p ∈ sig.drop args.length)
      (hdefault : p.default = some v) (homitted : p.name ∉ named.map (·.1)) :
      sig.Binds (sig.passed args ((p.name, v) :: named)) ∧
        sig.complete (sig.passed args ((p.name, v) :: named)) =
          sig.complete (sig.passed args named) := by
    have hmem := List.drop_subset _ _ hp
    have hnot : p.name ∉ (sig.passed args named).map (·.1) := by
      rw [names_passed, List.mem_append, not_or]
      exact ⟨fun htaken => disjoint_names hsig _ htaken (List.mem_map_of_mem hp), homitted⟩
    have hperm : ((p.name, v) :: sig.passed args named).Perm
        (sig.passed args ((p.name, v) :: named)) := List.perm_middle.symm
    have hpair := hbinds.default (v := v) hmem hnot
    exact ⟨hpair.perm hperm, (complete_perm hpair.distinct hperm).trans
      (complete_default hsig hmem hdefault hnot)⟩
  cases h with
  | moved kept moved named =>
    have hfewer : kept.length ≤ (kept ++ moved).length := by simp
    dsimp only
    rw [passed_moved]
    exact ⟨hplaces.mono hfewer, hbinds, rfl⟩
  | named hp hdefault homitted => exact ⟨hplaces, hwritten hbinds hp hdefault homitted⟩
  | @placed p v args named hp hkind hdefault homitted =>
    have hplace : sig.HasPlaces (args ++ [v]).length := by
      rw [List.length_append]
      exact hplaces.succ hp hkind
    obtain ⟨hlt, hget⟩ := List.getElem?_eq_some_iff.1 hp
    have hdrop : sig.drop args.length = p :: sig.drop (args.length + 1) := by
      rw [List.drop_eq_getElem_cons hlt, hget]
    have hpassed : sig.passed (args ++ [v]) named = sig.passed args ((p.name, v) :: named) := by
      rw [← passed_moved, ← names_drop, hdrop]
      simp [names]
    dsimp only
    rw [hpassed]
    exact ⟨hplace, hwritten hbinds (hdrop ▸ List.mem_cons_self) hdefault homitted⟩
  | @permuted args named named' hperm =>
    have hpassed : (sig.passed args named).Perm (sig.passed args named') :=
      hperm.append_left (sig.names.zip args)
    exact ⟨hplaces, hbinds.perm hpassed, complete_perm hbinds.distinct hpassed⟩

/-- A call that binds keeps what it binds under one other spelling. -/
theorem Respells.bind_eq (hplain : sig.IsPlain) (hsig : sig.names.Nodup)
    (h : sig.Respells c c') (hnamed : (c.2.map (·.1)).Nodup)
    (hbind : sig.bind c.1 c.2 = .ok bound) :
    (c'.2.map (·.1)).Nodup ∧ sig.bind c'.1 c'.2 = .ok bound := by
  obtain ⟨hplaces, hbinds, rfl⟩ := (bind_eq_ok_iff_of_isPlain hplain hsig hnamed).1 hbind
  obtain ⟨hplaces', hbinds', hsame⟩ := h.passed hsig hplaces hbinds
  have hnamed' : (c'.2.map (·.1)).Nodup := by
    have hdistinct := hbinds'.distinct
    rw [names_passed] at hdistinct
    exact hdistinct.of_append_right
  exact ⟨hnamed', (bind_eq_ok_iff_of_isPlain hplain hsig hnamed').2 ⟨hplaces', hbinds', hsame.symm⟩⟩

/-- A call that binds keeps what it binds under any number of other spellings. -/
theorem bind_of_respells (hplain : sig.IsPlain) (hsig : sig.names.Nodup)
    (h : Relation.ReflTransGen sig.Respells c c') (hnamed : (c.2.map (·.1)).Nodup)
    (hbind : sig.bind c.1 c.2 = .ok bound) :
    (c'.2.map (·.1)).Nodup ∧ sig.bind c'.1 c'.2 = .ok bound := by
  induction h with
  | refl => exact ⟨hnamed, hbind⟩
  | tail _ hstep ih => exact hstep.bind_eq hplain hsig ih.1 ih.2

end Signature

/-- Where every parameter takes one argument and has a name, it does not matter how a call
    that binds passes its arguments: by position or by name, in which order, and with which
    defaults written out. The rule builds the same, or fails with the same error. -/
theorem Rule.build_of_respells {r : Rule} (hplain : r.signature.IsPlain)
    (hsig : r.signature.names.Nodup) {args args' : List Value}
    {named named' : List (String × Value)} (hnamed : (named.map (·.1)).Nodup)
    (hbinds : ∃ bound, r.signature.bind args named = .ok bound)
    (h : Relation.ReflTransGen r.signature.Respells (args, named) (args', named')) :
    r.signature.bind args' named' = r.signature.bind args named ∧
      ∀ s, r.build s args' named' = r.build s args named := by
  obtain ⟨bound, hbind⟩ := hbinds
  have hsame : r.signature.bind args' named' = r.signature.bind args named :=
    (Signature.bind_of_respells hplain hsig h hnamed hbind).2.trans hbind.symm
  exact ⟨hsame, fun s => by rw [build, build, hsame]⟩

/-- The month by position, and the month and the day it is by default by name. -/
theorem Rule.build_of_respells_date :
    let s : Setting := { backend := .postgres }
    Postgres.buildDate.build s [.whole 2024] [("day", .whole 1), ("month", .whole 5)] =
      Postgres.buildDate.build s [.whole 2024, .whole 5] [] := by
  have hmoved : Postgres.buildDate.signature.Respells ([.whole 2024, .whole 5], [])
      ([.whole 2024], [("month", .whole 5)]) := .moved [.whole 2024] [.whole 5] []
  have hnamed : Postgres.buildDate.signature.Respells ([.whole 2024], [("month", .whole 5)])
      ([.whole 2024], [("day", .whole 1), ("month", .whole 5)]) :=
    .named (p := .optional "day" (.whole 1)) (.tail _ (.head _)) rfl (by decide)
  exact (build_of_respells (by decide) (by decide) (by decide)
    (by refine ⟨_, rfl⟩) ((Relation.ReflTransGen.single hmoved).tail hnamed)).2 _

end SqlDialects
