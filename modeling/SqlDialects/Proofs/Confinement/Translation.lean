-- SUMMARY: Translation confines user data: what a host tree translates to has no word of the caller's in its SQL, and no column or call left.
import SqlDialects.Proofs.Confinement.Tables
import SqlDialects.Proofs.Resolution.Tables
import SqlDialects.Proofs.Traced

/-!
# Confinement of translation

Every rule that a backend resolves comes from one of its tables, so it confines.
Arguments are translated before a rule is applied to them: by induction on the
tree they are confined, and so is what the rule builds.

Only arguments are translated item by item. A sequence that stands alone, as the
whole expression or as a key of a window, becomes a literal as it is, with every
column and call that is in it.
-/

namespace SqlDialects

/-! ## Resolution -/

/-- Every rule of a backend confines, in every context. -/
theorem Backend.confines_of_resolve {backend : Backend} {name : String} {c : Context} {rule : Rule}
    (h : backend.variant.resolve name c = .ok rule) : rule.Confines := by
  refine forall_of_resolve (P := fun _ rule => rule.Confines) (fun c row hrow => ?_)
    (fun c row hrow => ?_) h
  · cases c with
    | scalar => exact (General.confines_scalarRules row hrow).named row.1
    | aggregate => exact (General.confines_aggregateRules row hrow).named row.1
    | window => exact (General.confines_windowRules row hrow).named row.1
  · cases c with
    | scalar => exact (Postgres.confines_scalarRules row hrow).named row.1
    | aggregate => exact (Postgres.confines_aggregateRules row hrow).named row.1
    | window => exact (Postgres.confines_windowRules row hrow).named row.1

/-! ## Sequences -/

/-- A sequence that stands alone is not translated, so it must hold no column and
    no call. -/
def Value.standsAlone : Value → Bool
  | .list items => (Value.list items).isPlain
  | .tuple items => (Value.tuple items).isPlain
  | _ => true

mutual

/-- Of a host tree only the columns and calls are not confined. -/
theorem Value.isConfined_eq_isPlain : ∀ {v : Value}, v.isHostTree = true →
    v.isConfined = v.isPlain
  | .scalar _, _ => rfl
  | .list items, hv => by
    simp [Value.isConfined, Value.isPlain, Value.everyPart, Value.isHost,
      @allConfined_eq_everyPartOf items hv]
  | .tuple items, hv => by
    simp [Value.isConfined, Value.isPlain, Value.everyPart, Value.isHost,
      @allConfined_eq_everyPartOf items hv]
  | .column .., _ => rfl
  | .call .., _ => rfl
  | .fixed pattern, hv => by
    have hpattern := Value.isConfined_eq_isPlain (v := pattern) hv
    simpa [Value.isConfined, Value.isPlain, Value.everyPart, Value.isHost] using hpattern
  | .sql _, hv => by cases hv
  | .window _, hv => by cases hv

theorem allConfined_eq_everyPartOf : ∀ {vs : List Value}, allHostTrees vs = true →
    allConfined vs = everyPartOf false (fun part => !part.isHost) vs
  | [], _ => rfl
  | v :: vs, hvs => by
    simp only [allHostTrees, Bool.and_eq_true] at hvs
    have hv := Value.isConfined_eq_isPlain hvs.1
    rw [allConfined, everyPartOf, hv, allConfined_eq_everyPartOf hvs.2]
    rfl

end

/-! ## Arguments -/

namespace Translator

variable {t : Translator} {c : Context} {w : Window}

theorem confined_setting (hw : w.isConfined = true)
    (hweek : t.options.weekStart.isConfined = true) : (t.setting c w).Confined :=
  ⟨hw, hweek⟩

/-- An argument that is a host tree is confined when it is translated. -/
theorem confined_argument (hw : w.isConfined = true) (hweek : t.options.weekStart.isConfined = true)
    {v v' : Value} (hv : v.isHostTree = true) (h : (t.argument c w v).outcome = .ok v') :
    v'.isConfined = true := by
  induction v using Value.tree_induction generalizing v' with
  | call name args named ihargs ihnamed =>
    simp only [Value.isHostTree, Bool.and_eq_true, allHostTrees_iff, allNamedHostTrees_iff] at hv
    simp only [argument_call, Traced.outcome_bind_eq_ok_iff, outcome_resolve] at h
    obtain ⟨rule, hrule, args', hargs, named', hnamed, e, he, h⟩ := h
    cases h
    have hargs' : ∀ v' ∈ args', v'.isConfined = true := by
      intro v' hv'
      obtain ⟨v, hmem, hargument⟩ := exists_of_mem_arguments hargs hv'
      exact ihargs v hmem (hv.1 v hmem) hargument
    have hnamed' : ∀ n ∈ named', n.2.isConfined = true := by
      intro n hn
      obtain ⟨v, hmem, hargument⟩ := exists_of_mem_namedArguments hnamed hn
      have hwritten := NameTable.mem_of_mem_ofList hmem
      exact ihnamed _ hwritten (hv.2 _ hwritten) hargument
    exact (Backend.confines_of_resolve hrule).build (confined_setting hw hweek)
      (allConfined_iff.2 hargs') hnamed' he
  | column =>
    cases h
    rfl
  | fixed pattern ih =>
    simp only [argument, Traced.outcome_bind_eq_ok_iff] at h
    obtain ⟨pattern', hpattern, h⟩ := h
    cases h
    have hconfined : pattern'.isConfined = true := ih hv hpattern
    exact hconfined
  | list items ih | tuple items ih =>
    simp only [argument, Traced.outcome_bind_eq_ok_iff] at h
    obtain ⟨items', hitems, h⟩ := h
    cases h
    refine allConfined_iff.2 fun v' hv' => ?_
    obtain ⟨v, hmem, hargument⟩ := exists_of_mem_arguments hitems hv'
    exact ih v hmem (allHostTrees_iff.1 hv v hmem) hargument
  | scalar =>
    cases h
    rfl
  | sql => cases hv
  | window => cases hv

/-! ## Expressions -/

/-- A translated host tree is confined exactly when it is no sequence that holds a
    column or a call. -/
theorem isConfined_of_translate {c : Except Error Context} {v : Value} {e : Expr}
    (hw : w.isConfined = true) (hweek : t.options.weekStart.isConfined = true)
    (hv : v.isHostTree = true) (h : (t.translate c w v).outcome = .ok e) :
    e.isConfined = v.standsAlone := by
  cases v with
  | call name args named =>
    cases c with
    | error => cases h
    | ok c =>
      exact confined_argument hw hweek hv (translate_call_eq_ok_iff.1 h)
  | column name table =>
    cases h
    rfl
  | fixed pattern => cases h
  | sql e => cases hv
  | window w => cases hv
  | scalar s =>
    cases h
    rfl
  | list items =>
    cases h
    exact Value.isConfined_eq_isPlain hv
  | tuple items =>
    cases h
    exact Value.isConfined_eq_isPlain hv

/-! ## Windows -/

theorem confined_windowKey {k : Value} {e : Expr}
    (hweek : t.options.weekStart.isConfined = true) (hk : k.isHostTree = true)
    (halone : k.standsAlone = true) (h : (t.windowKey k).outcome = .ok e) :
    e.isConfined = true := by
  unfold windowKey at h
  split at h
  · cases h
    rfl
  · rw [isConfined_of_translate (by decide) hweek hk h]
    exact halone

theorem confined_windowKeys {ks : List Value} {es : List Expr}
    (hweek : t.options.weekStart.isConfined = true)
    (hks : ∀ k ∈ ks, k.isHostTree = true ∧ k.standsAlone = true)
    (h : (t.windowKeys ks).outcome = .ok es) : allConfinedExprs es = true := by
  induction ks generalizing es with
  | nil =>
    cases h
    rfl
  | cons k ks ih =>
    simp only [windowKeys, Traced.outcome_bind_eq_ok_iff] at h
    obtain ⟨e, he, rest, hrest, h⟩ := h
    cases h
    obtain ⟨hk, halone⟩ := hks k List.mem_cons_self
    rw [allConfinedExprs, confined_windowKey hweek hk halone he,
      ih (fun k hk => hks k (List.mem_cons_of_mem _ hk)) hrest]
    rfl

theorem confined_window {partitionBy orderBy : List Value} {frame : Option (List Value)}
    {name : Option String} (hweek : t.options.weekStart.isConfined = true)
    (hkeys : ∀ k ∈ partitionBy ++ orderBy, k.isHostTree = true ∧ k.standsAlone = true)
    (hframe : allConfined (frame.getD []) = true)
    (h : (t.window partitionBy orderBy frame name).outcome = .ok w) : w.isConfined = true := by
  simp only [window, Traced.outcome_bind_eq_ok_iff] at h
  obtain ⟨partition, hpartition, order, horder, h⟩ := h
  cases h
  have hps := confined_windowKeys hweek
    (fun k hk => hkeys k (List.mem_append_left _ hk)) hpartition
  have hos := confined_windowKeys hweek
    (fun k hk => hkeys k (List.mem_append_right _ hk)) horder
  rw [Window.isConfined_eq, hps, hos, hframe]
  rfl

/-- With every backend, in every context and over every window of column names and
    host trees, what a host tree translates to is confined. Only a sequence that
    stands alone keeps the columns and calls in it, so no key may be one, and the
    translation is confined exactly when the tree is none. -/
theorem isConfined_translate {c : Except Error Context} {partitionBy orderBy : List Value}
    {frame : Option (List Value)} {name : Option String} {v : Value} {e : Expr}
    (hweek : t.options.weekStart.isConfined = true)
    (hkeys : ∀ k ∈ partitionBy ++ orderBy, k.isHostTree = true ∧ k.standsAlone = true)
    (hframe : allConfined (frame.getD []) = true)
    (hw : (t.window partitionBy orderBy frame name).outcome = .ok w)
    (hv : v.isHostTree = true) (he : (t.translate c w v).outcome = .ok e) :
    e.isConfined = v.standsAlone :=
  isConfined_of_translate (confined_window hweek hkeys hframe hw) hweek hv he

/-- A sum over the partitions of a column. -/
theorem isConfined_translate_sum :
    ∃ (t : Translator) (w : Window) (e : Expr),
      (t.window [.text "g"] [] none none).outcome = .ok w ∧
        (t.translate (.ok .window) w (.call "sum" [.column "x" none] [])).outcome = .ok e ∧
          e.isConfined = true := by
  have hw : (window ⟨.standard .postgres, {}⟩ [.text "g"] [] none none).outcome =
      .ok { partitionBy := [.ident "g" none] } := rfl
  have he : (translate ⟨.standard .postgres, {}⟩ (.ok .window) { partitionBy := [.ident "g" none] }
      (.call "sum" [.column "x" none] [])).outcome =
        .ok (.over (.call "SUM" [.ident "x" none] false) { partitionBy := [.ident "g" none] }) := rfl
  exact ⟨⟨.standard .postgres, {}⟩, _, _, hw, he,
    isConfined_translate (by decide) (by decide) (by decide) hw (by decide) he⟩

/-- A list of a column becomes a literal that holds the column. -/
theorem not_isConfined_translate_list :
    ∃ e, (translate ⟨.standard .postgres, {}⟩ (.ok .scalar) {}
        (.list [.column "a" none])).outcome = .ok e ∧
      (Value.list [.column "a" none]).isHostTree = true ∧ e.isConfined = false :=
  ⟨.literal (.list [.column "a" none]), rfl, by decide, by decide⟩

end Translator

end SqlDialects
