-- SUMMARY: What a history of operations says about registries, and that the store it leads to holds just that.
import SqlDialects.Registry.Store
import SqlDialects.Proofs.Steps

/-!
# Histories of registries

What has become of a registry can be read off the operations performed so far,
without running them: the name and the parent it was created with, the rules
registered with it until it was frozen, in order, and whether it is frozen. The
store that the operations lead to holds exactly these registries.
-/

namespace SqlDialects

/-- Operations performed on the empty store, the latest first. -/
abbrev Past := List Store.Operation

namespace Past

/-! ## What a history says -/

/-- How many registries were created. -/
def creations : Past → Nat
  | [] => 0
  | .create .. :: past => creations past + 1
  | _ :: past => creations past

/-- The name and the parent that the registry of a number was created with. -/
def creation? : Past → Nat → Option (String × Option Nat)
  | [], _ => none
  | .create name parent _ :: past, i =>
    if i = creations past then some (name, parent) else creation? past i
  | _ :: past, i => creation? past i

/-- A registry was frozen at some time after its creation. -/
def isFrozen : Past → Nat → Bool
  | [], _ => false
  | .freeze j :: past, i => (j = i && i < creations past) || isFrozen past i
  | _ :: past, i => isFrozen past i

/-- A registry is there and takes further rules. -/
def isOpen (past : Past) (i : Nat) : Bool := i < creations past && !isFrozen past i

/-- What was registered with a registry under which names, in order: at its creation
    and later, as long as it was not frozen. -/
def registered : Past → Nat → List (String × RuleSource)
  | [], _ => []
  | .create _ _ rules :: past, i => if i = creations past then rules else registered past i
  | .register j name source :: past, i =>
    registered past i ++ if j = i && isOpen past i then [(name, source)] else []
  | .update j rules :: past, i =>
    registered past i ++ if j = i && isOpen past i then rules else []
  | .freeze _ :: past, i => registered past i

end Past

/-- The rule that was registered last under a name. -/
def lastUnder (entries : List (String × RuleSource)) (name : String) : Option Rule :=
  (entries.reverse.lookup name).map (·.named name)

/-- The rule for a name is the one last registered under it in the nearest registry,
    from a given one along the parents, in which anything was registered under it. A
    parent is a registry that was there before. -/
inductive Past.Provides (past : Past) : Nat → String → Rule → Prop where
  | own {i : Nat} {name : String} {rule : Rule} :
    lastUnder (past.registered i) name = some rule → Provides past i name rule
  | inherited {i p : Nat} {own name : String} {rule : Rule} :
    lastUnder (past.registered i) name = none → past.creation? i = some (own, some p) → p < i →
    Provides past p name rule → Provides past i name rule

/-! ## Tables of registered rules -/

@[simp] theorem RuleSource.name_named (name : String) (source : RuleSource) :
    (source.named name).name = name := by
  cases source <;> rfl

/-- Put rules into a table one by one, each under its name. -/
def addRules (table : NameTable Rule) (entries : List (String × RuleSource)) : NameTable Rule :=
  entries.foldl (fun table entry => table.put entry.1 (entry.2.named entry.1)) table

theorem addRules_append (table : NameTable Rule) (entries more : List (String × RuleSource)) :
    addRules table (entries ++ more) = addRules (addRules table entries) more :=
  List.foldl_append

theorem lastUnder_cons (first : String) (source : RuleSource) (rest : List (String × RuleSource))
    (name : String) :
    lastUnder ((first, source) :: rest) name =
      (lastUnder rest name).or (if name = first then some (source.named name) else none) := by
  simp only [lastUnder, List.reverse_cons, List.lookup_append, NameTable.lookup_cons,
    List.lookup_nil]
  cases rest.reverse.lookup name with
  | some last => rfl
  | none => split <;> rfl

/-- The table has under every name what was put last, else what it had before. -/
theorem lookup_addRules (table : NameTable Rule) (entries : List (String × RuleSource))
    (name : String) :
    (addRules table entries).lookup name = (lastUnder entries name).or (table.lookup name) := by
  induction entries generalizing table with
  | nil => rfl
  | cons entry rest ih =>
    obtain ⟨first, source⟩ := entry
    have hstep : addRules table ((first, source) :: rest) =
        addRules (table.put first (source.named first)) rest := rfl
    rw [hstep, ih, NameTable.lookup_put, lastUnder_cons]
    cases lastUnder rest name with
    | some last => rfl
    | none =>
      by_cases hname : name = first
      · simp [hname]
      · simp [hname]

/-- What is stored under a name bears the name. -/
theorem name_of_mem_addRules {entries : List (String × RuleSource)} {entry : String × Rule}
    (h : entry ∈ addRules [] entries) : entry.2.name = entry.1 := by
  have hlist : addRules [] entries =
      NameTable.ofList (entries.map fun entry => (entry.1, entry.2.named entry.1)) := by
    simp [addRules, NameTable.ofList, List.foldl_map]
  rw [hlist] at h
  obtain ⟨⟨name, source⟩, _, rfl⟩ := List.mem_map.1 (NameTable.mem_of_mem_ofList h)
  exact RuleSource.name_named name source

/-! ## Single registries -/

namespace Registry

theorem update_of_open {r : Registry} (h : r.frozen = false) (rules : List (String × RuleSource)) :
    r.update rules = .ok
      { r with rules := addRules r.rules rules } := by
  induction rules generalizing r with
  | nil => rfl
  | cons entry rest ih =>
    obtain ⟨name, source⟩ := entry
    have hopen : ({ r with rules := r.rules.put name (source.named name) } : Registry).frozen =
        false := h
    rw [update, register_of_not_frozen h, ok_bind, ih hopen]
    rfl

theorem update_of_frozen {r : Registry} (h : r.frozen = true) (name : String) (source : RuleSource)
    (rest : List (String × RuleSource)) :
    r.update ((name, source) :: rest) = .error (.frozen r.name name) := by
  rw [update, register_of_frozen h]
  rfl

/-- Registering one rule is an update with this rule alone. -/
theorem update_single (r : Registry) (name : String) (source : RuleSource) :
    r.update [(name, source)] = r.register name source := by
  rw [update]
  cases r.register name source <;> rfl

end Registry

/-! ## Registries of a store -/

namespace Store

/-- The registry of a number. -/
def registryAt? (s : Store) (i : Nat) : Option Registry := (s.lineage i).head?

theorem registryAt?_cons (r : Registry) (older : Store) (i : Nat) :
    registryAt? (r :: older) i = if i = older.length then some r else registryAt? older i := by
  rw [registryAt?, lineage]
  split <;> rfl

theorem lineage_of_length_le {s : Store} {i : Nat} (h : s.length ≤ i) : s.lineage i = [] := by
  induction s with
  | nil => rfl
  | cons r older ih =>
    rw [List.length_cons] at h
    rw [lineage, if_neg (Nat.ne_of_gt h), ih (Nat.le_of_succ_le h)]

theorem lt_of_registryAt? {s : Store} {i : Nat} {r : Registry} (h : s.registryAt? i = some r) :
    i < s.length := by
  refine Nat.lt_of_not_le fun hle => ?_
  rw [registryAt?, lineage_of_length_le hle] at h
  cases h

/-- Every registry of the store is the one of some number. -/
theorem exists_registryAt? {s : Store} {r : Registry} (hr : r ∈ s) :
    ∃ i, s.registryAt? i = some r := by
  induction s with
  | nil => cases hr
  | cons latest older ih =>
    rcases List.mem_cons.1 hr with rfl | hr
    · exact ⟨older.length, by rw [registryAt?_cons, if_pos rfl]⟩
    · obtain ⟨i, hi⟩ := ih hr
      have hlt : i < older.length := lt_of_registryAt? hi
      exact ⟨i, by rw [registryAt?_cons, if_neg (Nat.ne_of_lt hlt), hi]⟩

/-- A registry stands in front of the lineage of its parent, which was there before. -/
theorem lineage_of_registryAt? {s : Store} {i : Nat} {r : Registry} (h : s.registryAt? i = some r) :
    s.lineage i = r :: (match r.parent with
      | some p => if p < i then s.lineage p else []
      | none => []) := by
  induction s with
  | nil => cases h
  | cons latest older ih =>
    rw [registryAt?_cons] at h
    rw [lineage]
    by_cases hi : i = older.length
    · rw [if_pos hi] at h ⊢
      cases h
      cases hparent : r.parent with
      | none => rfl
      | some p =>
        simp only
        split
        next hp => rw [lineage, if_neg (by omega)]
        next hp => rw [lineage_of_length_le (by omega)]
    · rw [if_neg hi] at h ⊢
      rw [ih h]
      have hlt : i < older.length := lt_of_registryAt? h
      cases hparent : r.parent with
      | none => rfl
      | some p =>
        simp only
        split
        next hp => rw [lineage, if_neg (by omega)]
        next => rfl

theorem lineage_of_registryAt?_eq_none {s : Store} {i : Nat} (h : s.registryAt? i = none) :
    s.lineage i = [] := List.head?_eq_none_iff.1 h

theorem registryAt?_modify (f : Registry → Registry) (s : Store) (i j : Nat) :
    (s.modify f i).registryAt? j = if j = i then (s.registryAt? j).map f else s.registryAt? j := by
  induction s with
  | nil => simp [modify, registryAt?, lineage]
  | cons r older ih =>
    by_cases hi : i = older.length
    · by_cases hj : j = older.length
      · simp [modify, registryAt?_cons, hi, hj]
      · simp [modify, registryAt?_cons, hi, hj]
    · by_cases hj : j = older.length
      · simp [modify, registryAt?_cons, hi, hj, Ne.symm hi]
      · simp [modify, registryAt?_cons, hi, hj, ih]

theorem change_eq (s : Store) (i : Nat) (f : Registry → Except Error Registry) :
    s.change i f = match s.registryAt? i with
      | none => .ok s
      | some r => (f r).map fun changed => s.modify (fun _ => changed) i := by
  rw [change, registryAt?]
  cases s.lineage i with
  | nil => rfl
  | cons r older => simp only [List.head?_cons]; cases f r <;> rfl

/-- What an update makes of a registry: a frozen one stays. -/
def updated (rules : List (String × RuleSource)) (r : Registry) : Registry :=
  if r.frozen then r else { r with rules := addRules r.rules rules }

theorem after_update (s : Store) (j : Nat) (rules : List (String × RuleSource)) :
    (s.after (.update j rules)).length = s.length ∧
      ∀ i, (s.after (.update j rules)).registryAt? i =
        if i = j then (s.registryAt? i).map (updated rules) else s.registryAt? i := by
  rw [after, perform, change_eq]
  cases hr : s.registryAt? j with
  | none =>
    refine ⟨rfl, fun i => ?_⟩
    by_cases hi : i = j
    · simp [hi, hr]
    · simp [hi]
  | some r =>
    cases hfrozen : r.frozen with
    | false =>
      simp only [Registry.update_of_open hfrozen, Except.map]
      refine ⟨length_modify _ s j, fun i => ?_⟩
      by_cases hi : i = j
      · simp [registryAt?_modify, hi, hr, updated, hfrozen]
      · simp [registryAt?_modify, hi]
    | true =>
      have hkeep : ∀ i, s.registryAt? i =
          if i = j then (s.registryAt? i).map (updated rules) else s.registryAt? i := by
        intro i
        by_cases hi : i = j
        · simp [hi, hr, updated, hfrozen]
        · simp [hi]
      cases rules with
      | nil =>
        refine ⟨length_modify _ s j, fun i => ?_⟩
        simp only [Registry.update, Except.map, registryAt?_modify]
        by_cases hi : i = j
        · simp [hi, hr, updated, hfrozen]
        · simp [hi]
      | cons entry rest =>
        simp only [Registry.update_of_frozen hfrozen]
        exact ⟨rfl, hkeep⟩

end Store

/-! ## The store a history leads to -/

/-- The registry of a number as its history tells it. -/
def Past.registryAt? (past : Past) (i : Nat) : Option Registry :=
  (past.creation? i).map fun (name, parent) =>
    { name, parent, rules := addRules [] (past.registered i), frozen := past.isFrozen i }

/-- A store holds what a history says. -/
structure Store.Follows (s : Store) (past : Past) : Prop where
  length_eq : s.length = past.creations
  registryAt?_eq : ∀ i, s.registryAt? i = past.registryAt? i

namespace Past

theorem isFrozen_lt {past : Past} {i : Nat} (h : past.isFrozen i = true) : i < past.creations := by
  induction past with
  | nil => cases h
  | cons op past ih =>
    cases op with
    | create => exact Nat.lt_succ_of_lt (ih h)
    | register => exact ih h
    | update => exact ih h
    | freeze j =>
      rcases Bool.or_eq_true_iff.1 h with h | h
      · exact of_decide_eq_true (Bool.and_eq_true_iff.1 h).2
      · exact ih h

/-- What is not there yet has nothing registered with it. -/
theorem registered_of_le {past : Past} {i : Nat} (h : past.creations ≤ i) :
    past.registered i = [] := by
  induction past with
  | nil => rfl
  | cons op past ih =>
    cases op with
    | create name parent rules =>
      rw [creations] at h
      rw [registered, if_neg (by omega), ih (by omega)]
    | register j name source =>
      simp [registered, ih h, isOpen, Nat.not_lt.2 (show creations past ≤ i from h)]
    | update j rules =>
      simp [registered, ih h, isOpen, Nat.not_lt.2 (show creations past ≤ i from h)]
    | freeze j => exact ih h

theorem lt_of_lastUnder {past : Past} {i : Nat} {name : String} {rule : Rule}
    (h : lastUnder (past.registered i) name = some rule) : i < past.creations := by
  refine Nat.lt_of_not_le fun hle => ?_
  rw [registered_of_le hle] at h
  cases h

theorem creation?_isSome_iff (past : Past) (i : Nat) :
    (past.creation? i).isSome = true ↔ i < past.creations := by
  induction past with
  | nil => simp [creation?, creations]
  | cons op past ih =>
    cases op with
    | create name parent rules =>
      rw [creation?, creations]
      split
      next h => simp [h]
      next h => rw [ih]; omega
    | register => exact ih
    | update => exact ih
    | freeze => exact ih

theorem registryAt?_update (past : Past) (j i : Nat) (rules : List (String × RuleSource)) :
    registryAt? (.update j rules :: past) i =
      if i = j then (past.registryAt? i).map (Store.updated rules) else past.registryAt? i := by
  by_cases hi : i = j
  · subst hi
    cases hcreation : past.creation? i with
    | none => simp [registryAt?, creation?, hcreation]
    | some own =>
      have hlt : i < past.creations := by
        rw [← creation?_isSome_iff, hcreation]
        rfl
      cases hfrozen : past.isFrozen i with
      | true =>
        simp [registryAt?, creation?, registered, isFrozen, isOpen, hcreation, hfrozen,
          Store.updated]
      | false =>
        simp [registryAt?, creation?, registered, isFrozen, isOpen, hcreation, hfrozen, hlt,
          Store.updated, addRules_append]
  · simp [registryAt?, creation?, registered, isFrozen, hi, Ne.symm hi]

theorem registryAt?_freeze (past : Past) (j i : Nat) :
    registryAt? (.freeze j :: past) i =
      if i = j then (past.registryAt? i).map Registry.freeze else past.registryAt? i := by
  by_cases hi : i = j
  · subst hi
    cases hcreation : past.creation? i with
    | none => simp [registryAt?, creation?, hcreation]
    | some own =>
      have hlt : i < past.creations := by
        rw [← creation?_isSome_iff, hcreation]
        rfl
      simp [registryAt?, creation?, registered, isFrozen, hcreation, hlt, Registry.freeze]
  · simp [registryAt?, creation?, registered, isFrozen, hi, Ne.symm hi]

end Past

namespace Store.Follows

variable {s : Store} {past : Past}

theorem registryAt?_of_creation? (h : s.Follows past) {i : Nat} {own : String} {parent : Option Nat}
    (hcreation : past.creation? i = some (own, parent)) :
    s.registryAt? i = some
      { name := own, parent, rules := addRules [] (past.registered i),
        frozen := past.isFrozen i } := by
  rw [h.registryAt?_eq, Past.registryAt?, hcreation]
  rfl

theorem empty : Follows [] [] where
  length_eq := rfl
  registryAt?_eq _ := rfl

/-- A registry that was just created holds the rules given with it and is not frozen. -/
theorem create (h : s.Follows past) (name : String) (parent : Option Nat)
    (rules : List (String × RuleSource)) :
    Follows (s.after (.create name parent rules)) (.create name parent rules :: past) := by
  have hafter : s.after (.create name parent rules) =
      { name, parent, rules := addRules [] rules } :: s := by
    rw [after, perform, Registry.update_of_open rfl, ok_bind]
    rfl
  rw [hafter]
  refine ⟨congrArg (· + 1) h.length_eq, fun i => ?_⟩
  rw [registryAt?_cons, h.length_eq]
  split
  next hi =>
    have hfrozen : past.isFrozen i = false := by
      cases hi' : past.isFrozen i with
      | false => rfl
      | true => exact absurd (Past.isFrozen_lt hi') (by omega)
    subst hi
    simp [Past.registryAt?, Past.creation?, Past.registered, Past.isFrozen, hfrozen]
  next hi =>
    rw [h.registryAt?_eq i]
    simp [Past.registryAt?, Past.creation?, Past.registered, Past.isFrozen, hi]

theorem update (h : s.Follows past) (j : Nat) (rules : List (String × RuleSource)) :
    Follows (s.after (.update j rules)) (.update j rules :: past) := by
  obtain ⟨hlength, hregistries⟩ := after_update s j rules
  refine ⟨hlength.trans h.length_eq, fun i => ?_⟩
  rw [hregistries, Past.registryAt?_update, h.registryAt?_eq]

/-- To register a rule is to update with it alone, and histories take it so too. -/
theorem register (h : s.Follows past) (j : Nat) (name : String) (source : RuleSource) :
    Follows (s.after (.register j name source)) (.register j name source :: past) := by
  have hafter : s.after (.register j name source) = s.after (.update j [(name, source)]) := by
    simp only [after, perform, change_eq, Registry.update_single]
  have hupdate := h.update j [(name, source)]
  exact ⟨hafter ▸ hupdate.length_eq, fun i => hafter ▸ hupdate.registryAt?_eq i⟩

theorem freeze (h : s.Follows past) (j : Nat) :
    Follows (s.after (.freeze j)) (.freeze j :: past) := by
  refine ⟨(length_modify _ s j).trans h.length_eq, fun i => ?_⟩
  rw [Past.registryAt?_freeze, ← h.registryAt?_eq]
  exact registryAt?_modify _ s j i

/-- Every operation leads from the store of a history to the store of the longer one. -/
theorem step (h : s.Follows past) (op : Operation) : Follows (s.after op) (op :: past) := by
  cases op with
  | create name parent rules => exact h.create name parent rules
  | register j name source => exact h.register j name source
  | update j rules => exact h.update j rules
  | freeze j => exact h.freeze j

end Store.Follows

/-- A run leads from the store of a history to the store of the history with the run. -/
theorem Store.Follows.run {s : Store} {past : Past} (h : s.Follows past)
    (ops : List Store.Operation) : (s.run ops).Follows (ops.reverse ++ past) := by
  induction ops generalizing s past with
  | nil => exact h
  | cons op ops ih =>
    have hrun : s.run (op :: ops) = (s.after op).run ops := rfl
    rw [hrun, List.reverse_cons, List.append_assoc, List.singleton_append]
    exact ih (h.step op)

/-- The store that a history leads to holds what the history says. -/
theorem Store.follows_run (history : List Store.Operation) :
    (Store.run [] history).Follows history.reverse := by
  simpa using Follows.empty.run history

end SqlDialects
