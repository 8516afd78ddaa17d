-- SUMMARY: A frozen variant keeps what it has for a name exactly as long as the registries the name is looked up in are frozen.
import SqlDialects.Proofs.Registry.Consistency

/-!
# Freezing

To freeze a variant is to freeze its three registries, and none of their ancestors.
A name is looked up in one registry after another, up to the first that has it. If
all of these are frozen, nothing that is done later to any registry changes what
the lookup finds. If one of them is not frozen, a rule registered there under the
name is what the lookup finds from then on.
-/

namespace SqlDialects

/-- The operations that freeze a variant. -/
def Variant.freezing (v : Variant Nat) : List Store.Operation :=
  [.freeze v.scalar, .freeze v.aggregate, .freeze v.window]

namespace Past

variable {past : Past} {name : String} {i j : Nat}

/-! ## Where a name is looked up -/

/-- A name that is looked up in a registry is looked up in the registry itself, and in
    its parent when nothing was registered under the name. -/
inductive Searches (past : Past) (name : String) : Nat → Nat → Prop where
  | own {i : Nat} : Searches past name i i
  | parent {i p j : Nat} {own : String} :
    lastUnder (past.registered i) name = none → past.creation? i = some (own, some p) → p < i →
    Searches past name p j → Searches past name i j

/-- A variant looks a name up in the registry of the context, and in the scalar one when
    the context provides no rule. -/
def VariantSearches (past : Past) (v : Variant Nat) (name : String) (c : Context) (j : Nat) :
    Prop :=
  past.Searches name (v.select c) j ∨
    (¬ ∃ rule, past.Provides (v.select c) name rule) ∧ past.Searches name v.scalar j

/-- Every registry in which a name is looked up is frozen. -/
def Settled (past : Past) (name : String) (i : Nat) : Prop :=
  ∀ j, past.Searches name i j → past.isFrozen j = true

theorem Searches.le (h : past.Searches name i j) : j ≤ i := by
  induction h with
  | own => exact Nat.le_refl _
  | parent _ _ hp _ ih => exact Nat.le_of_lt (Nat.lt_of_le_of_lt ih hp)

theorem Settled.parent {p : Nat} {own : String} (h : past.Settled name i)
    (hlast : lastUnder (past.registered i) name = none)
    (hcreation : past.creation? i = some (own, some p)) (hp : p < i) : past.Settled name p :=
  fun j hj => h j (.parent hlast hcreation hp hj)

/-! ## Frozen registries -/

theorem isFrozen_cons (op : Store.Operation) (h : past.isFrozen i = true) :
    isFrozen (op :: past) i = true := by
  cases op with
  | create => exact h
  | register => exact h
  | update => exact h
  | freeze j => exact Bool.or_eq_true_iff.2 (.inr h)

/-- A frozen registry takes no further rule. -/
theorem registered_cons_of_isFrozen (op : Store.Operation) (h : past.isFrozen i = true) :
    registered (op :: past) i = past.registered i := by
  cases op with
  | create name parent rules =>
    have hlt : i < past.creations := isFrozen_lt h
    rw [registered, if_neg (Nat.ne_of_lt hlt)]
  | register j name source => simp [registered, isOpen, h]
  | update j rules => simp [registered, isOpen, h]
  | freeze j => rfl

theorem creation?_cons_of_lt (op : Store.Operation) (h : i < past.creations) :
    creation? (op :: past) i = past.creation? i := by
  cases op with
  | create name parent rules => rw [creation?, if_neg (Nat.ne_of_lt h)]
  | register => rfl
  | update => rfl
  | freeze => rfl

theorem creations_le_cons (op : Store.Operation) (past : Past) :
    past.creations ≤ creations (op :: past) := by
  cases op with
  | create => exact Nat.le_succ _
  | register => exact Nat.le_refl _
  | update => exact Nat.le_refl _
  | freeze => exact Nat.le_refl _

theorem creation?_append_of_lt (later : Past) (h : i < past.creations) :
    i < creations (later ++ past) ∧ creation? (later ++ past) i = past.creation? i := by
  induction later with
  | nil => exact ⟨h, rfl⟩
  | cons op later ih =>
    obtain ⟨hlt, hcreation⟩ := ih
    exact ⟨Nat.lt_of_lt_of_le hlt (creations_le_cons op _),
      (creation?_cons_of_lt op hlt).trans hcreation⟩

/-! ## What an operation leaves as it is -/

namespace Settled

theorem isFrozen (h : past.Settled name i) : past.isFrozen i = true := h i .own

/-- The lookup goes no further after an operation than before it. -/
theorem searches_of_cons (h : past.Settled name i) {op : Store.Operation}
    (hsearch : Searches (op :: past) name i j) : past.Searches name i j := by
  induction hsearch with
  | own => exact .own
  | parent hlast hcreation hp _ ih =>
    rw [registered_cons_of_isFrozen op h.isFrozen] at hlast
    rw [creation?_cons_of_lt op (isFrozen_lt h.isFrozen)] at hcreation
    exact .parent hlast hcreation hp (ih (h.parent hlast hcreation hp))

theorem cons (h : past.Settled name i) (op : Store.Operation) : Settled (op :: past) name i :=
  fun j hj => isFrozen_cons op (h j (h.searches_of_cons hj))

theorem provides_cons_iff (h : past.Settled name i) (op : Store.Operation) (rule : Rule) :
    Provides (op :: past) i name rule ↔ past.Provides i name rule := by
  constructor
  · intro hprovides
    induction hprovides with
    | own hlast =>
      rw [registered_cons_of_isFrozen op h.isFrozen] at hlast
      exact .own hlast
    | inherited hlast hcreation hp _ ih =>
      rw [registered_cons_of_isFrozen op h.isFrozen] at hlast
      rw [creation?_cons_of_lt op (isFrozen_lt h.isFrozen)] at hcreation
      exact .inherited hlast hcreation hp (ih (h.parent hlast hcreation hp))
  · intro hprovides
    induction hprovides with
    | own hlast =>
      refine .own ?_
      rwa [registered_cons_of_isFrozen op h.isFrozen]
    | inherited hlast hcreation hp _ ih =>
      have hparent := h.parent hlast hcreation hp
      rw [← registered_cons_of_isFrozen op h.isFrozen] at hlast
      rw [← creation?_cons_of_lt op (isFrozen_lt h.isFrozen)] at hcreation
      exact .inherited hlast hcreation hp (ih hparent)

/-- No run of operations changes what is provided where all is frozen. -/
theorem provides_append_iff (h : past.Settled name i) (later : Past) (rule : Rule) :
    Provides (later ++ past) i name rule ↔ past.Provides i name rule := by
  have hlater : Settled (later ++ past) name i ∧
      (Provides (later ++ past) i name rule ↔ past.Provides i name rule) := by
    induction later with
    | nil => exact ⟨h, Iff.rfl⟩
    | cons op later ih =>
      obtain ⟨hsettled, hprovides⟩ := ih
      exact ⟨hsettled.cons op, (hsettled.provides_cons_iff op rule).trans hprovides⟩
  exact hlater.2

end Settled

/-! ## What registering changes -/

theorem registered_register (past : Past) (name : String) (source : RuleSource) (i j : Nat) :
    registered (.register j name source :: past) i =
      past.registered i ++ if j = i && past.isOpen i then [(name, source)] else [] := rfl

theorem lastUnder_append_single (entries : List (String × RuleSource)) (name : String)
    (source : RuleSource) (n : String) :
    lastUnder (entries ++ [(name, source)]) n =
      if n = name then some (source.named n) else lastUnder entries n := by
  simp only [lastUnder, List.reverse_append, List.reverse_singleton, List.singleton_append,
    NameTable.lookup_cons]
  split <;> rfl

/-- A rule registered in a registry where the name is looked up is the one provided. -/
theorem Searches.provides_register (h : past.Searches name i j) (hopen : past.isOpen j = true)
    (source : RuleSource) :
    Provides (.register j name source :: past) i name (source.named name) := by
  induction h with
  | @own i =>
    refine .own ?_
    rw [registered_register, hopen]
    simp [lastUnder_append_single]
  | @parent i p j own hlast hcreation hp hsearch ih =>
    have hne : j ≠ i := Nat.ne_of_lt (Nat.lt_of_le_of_lt hsearch.le hp)
    refine .inherited ?_ hcreation hp (ih hopen)
    simpa [registered_register, hne] using hlast

/-- Registering a rule provides this rule, or nothing that was not provided before. -/
theorem provides_of_register {source : RuleSource} {n : String} {rule : Rule}
    (h : Provides (.register j name source :: past) i n rule) :
    rule = source.named n ∨ past.Provides i n rule := by
  induction h with
  | @own i n rule hlast =>
    rw [registered_register] at hlast
    split at hlast
    · rw [lastUnder_append_single] at hlast
      split at hlast
      · exact .inl (Option.some.inj hlast).symm
      · exact .inr (.own hlast)
    · rw [List.append_nil] at hlast
      exact .inr (.own hlast)
  | @inherited i p own n rule hlast hcreation hp _ ih =>
    refine ih.imp_right (.inherited ?_ hcreation hp)
    rw [registered_register] at hlast
    split at hlast
    · rw [lastUnder_append_single] at hlast
      split at hlast
      · cases hlast
      · exact hlast
    · rwa [List.append_nil] at hlast

end Past

/-! ## What a store answers -/

namespace Store.Follows

variable {s : Store} {past : Past} {v : Variant Nat} {name : String} {c : Context}

theorem get?_eq_none_iff (h : s.Follows past) (i : Nat) (name : String) :
    (s.lineage i).get? name = none ↔ ¬ ∃ rule, past.Provides i name rule := by
  rw [← Option.not_isSome_iff_eq_none, Option.isSome_iff_exists]
  simp only [h.get?_eq_some_iff]

theorem get?_run (h : s.Follows past) {i : Nat} (hsettled : past.Settled name i)
    (later : List Operation) :
    ((s.run later).lineage i).get? name = (s.lineage i).get? name := by
  refine Option.ext fun rule => ?_
  rw [(h.run later).get?_eq_some_iff, h.get?_eq_some_iff]
  exact hsettled.provides_append_iff later.reverse rule

/-- A variant keeps what it has for a name when all registries it looks the name up in
    are frozen. -/
theorem resolve_run (h : s.Follows past) (hv : ∀ c, v.select c < past.creations)
    (hfrozen : ∀ j, past.VariantSearches v name c j → past.isFrozen j = true)
    (later : List Operation) :
    (v.map (s.run later).lineage).resolve name c = (v.map s.lineage).resolve name c := by
  obtain ⟨⟨own, parent⟩, hcreation⟩ := Option.isSome_iff_exists.1
    ((past.creation?_isSome_iff (v.select c)).2 (hv c))
  have hcreated := (Past.creation?_append_of_lt later.reverse (hv c)).2.trans hcreation
  rw [(h.run later).resolve_variant v hcreated, h.resolve_variant v hcreation,
    h.get?_run (fun j hj => hfrozen j (.inl hj)) later]
  -- the scalar registry counts only when the context has no rule
  cases hget : (s.lineage (v.select c)).get? name with
  | some rule => rfl
  | none =>
    rw [h.get?_run (fun j hj => hfrozen j (.inr ⟨(h.get?_eq_none_iff _ name).1 hget, hj⟩)) later]

/-- A rule registered where a variant looks the name up is what the variant has for it. -/
theorem resolve_register (h : s.Follows past) (hv : ∀ c, v.select c < past.creations) {j : Nat}
    (hsearch : past.VariantSearches v name c j) (hopen : past.isFrozen j = false)
    (source : RuleSource) :
    (v.map (s.after (.register j name source)).lineage).resolve name c =
      .ok (source.named name) := by
  obtain ⟨⟨own, parent⟩, hcreation⟩ := Option.isSome_iff_exists.1
    ((past.creation?_isSome_iff (v.select c)).2 (hv c))
  have hisOpen {i : Nat} (hi : i < past.creations) (hij : past.Searches name i j) :
      past.isOpen j = true := by
    simp [Past.isOpen, hopen, Nat.lt_of_le_of_lt hij.le hi]
  have hafter := h.register j name source
  rw [hafter.resolve_variant v hcreation]
  rcases hsearch with hsearch | ⟨hnone, hsearch⟩
  · have hget := (hafter.get?_eq_some_iff _ name _).2
      (hsearch.provides_register (hisOpen (hv c) hsearch) source)
    rw [hget]
    rfl
  · have hget := (hafter.get?_eq_some_iff _ name _).2
      (hsearch.provides_register (hisOpen (hv .scalar) hsearch) source)
    rw [show v.scalar = v.select .scalar from rfl] at hget ⊢
    cases hcontext :
        ((s.after (.register j name source)).lineage (v.select c)).get? name with
    | none => rw [hget]; rfl
    | some rule =>
      have hprovides := (hafter.get?_eq_some_iff _ name rule).1 hcontext
      rcases Past.provides_of_register hprovides with rfl | hbefore
      · rfl
      · exact absurd ⟨rule, hbefore⟩ hnone

end Store.Follows

/-! ## Frozen variants -/

/-- For every answer there is a rule that differs from it. -/
theorem RuleSource.exists_named_ne (answer : Except Error Rule) (name : String) :
    ∃ source : RuleSource, Except.ok (source.named name) ≠ answer := by
  cases answer with
  | error e => exact ⟨default, nofun⟩
  | ok rule =>
    refine ⟨.rule { rule with validators := ("", []) :: rule.validators }, fun h => ?_⟩
    have hvalidators : ("", []) :: rule.validators = rule.validators :=
      congrArg Rule.validators (Except.ok.inj h)
    exact List.cons_ne_self _ _ hvalidators

/-- Once a variant is frozen, no later history of operations on any registry changes what
    it has for a name in a context, or that it has nothing, exactly when every registry in
    which the name is looked up is frozen. -/
theorem Store.resolve_freezeVariant_iff (history : List Operation) (v : Variant Nat)
    (hv : ∀ c, v.select c < Past.creations history.reverse) (name : String) (c : Context) :
    (∀ later, (v.map (((Store.run [] history).freezeVariant v).run later).lineage).resolve name c =
        (v.map ((Store.run [] history).freezeVariant v).lineage).resolve name c) ↔
      ∀ j, Past.VariantSearches (history ++ v.freezing).reverse v name c j →
        Past.isFrozen (history ++ v.freezing).reverse j = true := by
  have hfollows : ((Store.run [] history).freezeVariant v).Follows
      (history ++ v.freezing).reverse := by
    rw [List.reverse_append]
    exact (Store.follows_run history).run v.freezing
  have hcreated : ∀ c, v.select c < Past.creations (history ++ v.freezing).reverse := by
    rw [List.reverse_append]
    exact fun c => (Past.creation?_append_of_lt v.freezing.reverse (hv c)).1
  constructor
  · intro hkept j hsearch
    cases hfrozen : Past.isFrozen (history ++ v.freezing).reverse j with
    | true => rfl
    | false =>
      obtain ⟨source, hsource⟩ := RuleSource.exists_named_ne
        ((v.map ((Store.run [] history).freezeVariant v).lineage).resolve name c) name
      have hchanged := hfollows.resolve_register hcreated hsearch hfrozen source
      exact absurd (hchanged.symm.trans (hkept [.register j name source])) hsource
  · exact fun hfrozen later => hfollows.resolve_run hcreated hfrozen later

/-- A registry called base, what is done with it, and then one that extends it. -/
def extendedBase (meanwhile : List Store.Operation) : List Store.Operation :=
  .create "base" none [] :: meanwhile ++ [.create "own" (some 0) []]

/-- The registry that extends the other one, in every context. -/
def extending : Variant Nat := ⟨1, 1, 1⟩

/-- A rule inherited from a frozen registry stays. -/
theorem Store.resolve_freezeVariant_frozenBase :
    (∀ c, extending.select c <
        Past.creations (extendedBase [.register 0 "abs" default, .freeze 0]).reverse) ∧
      ∀ later, (extending.map (((Store.run []
          (extendedBase [.register 0 "abs" default, .freeze 0])).freezeVariant
            extending).run later).lineage).resolve "abs" .window =
        .ok ((default : RuleSource).named "abs") := by
  have hv : ∀ c, extending.select c <
      Past.creations (extendedBase [.register 0 "abs" default, .freeze 0]).reverse := by
    intro c
    cases c <;> decide
  refine ⟨hv, fun later => ?_⟩
  refine ((Store.resolve_freezeVariant_iff _ extending hv "abs" .window).2 ?_ later).trans rfl
  intro j hsearch
  have hj : j ≤ 1 := by
    rcases hsearch with hsearch | ⟨_, hsearch⟩
    · exact hsearch.le
    · exact hsearch.le
  rcases Nat.le_one_iff_eq_zero_or_eq_one.1 hj with rfl | rfl
  · decide
  · decide

/-- A registry that is not frozen can still get a rule that a frozen variant inherits. -/
theorem Store.not_resolve_freezeVariant_openBase :
    ¬ ∀ later, (extending.map (((Store.run [] (extendedBase [])).freezeVariant
          extending).run later).lineage).resolve "abs" .scalar =
        (extending.map ((Store.run [] (extendedBase [])).freezeVariant
          extending).lineage).resolve "abs" .scalar := by
  intro hkept
  have hchanged := hkept [.register 0 "abs" default]
  nomatch hchanged

end SqlDialects
