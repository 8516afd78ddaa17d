-- SUMMARY: Both methods of an upsert write the same columns, assignments and key, which can be read off their texts.
import SqlDialects.Proofs.Readers.Upserts
import SqlDialects.Proofs.Statement.Refusals

/-!
# Agreement of the methods of an upsert

A dialect with native conflict handling accepts an upsert by both methods or by none,
since nothing but the form of the text depends on the method. Where all names are one
line each, both texts are read back: they insert the same columns, assign the same ones
from the source and find the rows by the same key, each column by its namesake.
-/

namespace SqlDialects

variable {d : Dialect} {r : UpsertRequest} {key updated : List String}

/-! ## Columns by name -/

/-- A value lists columns by their names; a text is the name of one. -/
inductive Value.Names : Value → List String → Prop
  | text (s : String) : Names (.text s) [s]
  | list (names : List String) : Names (.list (names.map .text)) names
  | tuple (names : List String) : Names (.tuple (names.map .text)) names

/-- A value names its columns in one way. -/
theorem Value.Names.unique {v : Value} {names names' : List String} (h : v.Names names)
    (h' : v.Names names') : names = names' := by
  have hinjective : Function.Injective Value.text := fun s t hst => by
    cases hst
    rfl
  generalize hv : v = w at h'
  cases h with
  | text s =>
    cases h' with
    | text t => cases hv; rfl
    | list names' => cases hv
    | tuple names' => cases hv
  | list names =>
    cases h' with
    | text t => cases hv
    | list names' => exact List.map_injective_iff.2 hinjective (Value.list.inj hv)
    | tuple names' => cases hv
  | tuple names =>
    cases h' with
    | text t => cases hv
    | list names' => cases hv
    | tuple names' => exact List.map_injective_iff.2 hinjective (Value.tuple.inj hv)

/-- Only a text has a name. -/
theorem eq_map_text_of_names {columns : List Value} {names : List String}
    (h : Value.names columns = .ok names) : columns = names.map .text := by
  have htext {v : Value} {s : String} (h : v.asText = .ok s) : v = .text s := by
    cases v with
    | scalar a =>
      cases a with
      | text t =>
        cases h
        rfl
      | _ => cases h
    | _ => cases h
  rw [← List.map_id columns, ← List.forall₂_eq_eq_eq, List.forall₂_map_left_iff,
    List.forall₂_map_right_iff]
  exact (mapM_eq_ok_iff.1 h).imp fun _ _ => htext

/-- Only texts, and lists and tuples of them, name columns. -/
theorem names_of_requiredColumns {argument : String} {v : Value} {names : List String}
    (h : requiredColumns argument v = .ok (names.map .text)) : v.Names names := by
  have hne := requiredColumns_ne_nil h
  have hitems (h : (do
      let columns ← listedColumns v
      if columns.isEmpty then throw (Error.invalidArgument argument .null .noColumns)
      else return columns) = Except.ok (names.map .text)) : v.items = .ok (names.map .text) := by
    obtain ⟨listed, hlisted, h⟩ := bind_eq_ok_iff.1 h
    split at h
    · cases h
    · cases h
      rw [listedColumns] at hlisted
      split at hlisted
      · exact hlisted
      · exact absurd (Except.ok.inj hlisted).symm hne
  cases v with
  | list vs =>
    cases hitems h
    exact .list names
  | tuple vs =>
    cases hitems h
    exact .tuple names
  | scalar a =>
    cases a with
    | text s =>
      have hnames : [s] = names := by
        have hlength := congrArg List.length (Except.ok.inj h)
        obtain ⟨name, rfl⟩ := List.length_eq_one_iff.1 (by simpa using hlength.symm)
        cases h
        rfl
      rw [← hnames]
      exact .text s
    | bytes bs =>
      have hbytes := Except.ok.inj (hitems h)
      cases names with
      | nil => exact absurd rfl hne
      | cons name names => cases bs with
        | nil => cases hbytes
        | cons b bs => cases hbytes
    | _ => cases hitems h
  | _ => cases hitems h

/-! ## Plans -/

theorem isEmpty_overlap_iff (key updated : List String) :
    ((key.filter updated.contains).eraseDups.mergeSort (· ≤ ·)).isEmpty = true ↔
      ∀ column ∈ updated, column ∉ key := by
  rw [(List.mergeSort_perm _ _).isEmpty_eq, List.isEmpty_iff]
  constructor
  · intro hnil column hupdated hkey
    have hcommon : column ∈ (key.filter updated.contains).eraseDups :=
      List.mem_eraseDups.2 (List.mem_filter.2 ⟨hkey, by simpa using hupdated⟩)
    rw [hnil] at hcommon
    cases hcommon
  · intro hdisjoint
    have hnil : key.filter updated.contains = [] :=
      List.filter_eq_nil_iff.2 fun column hkey hmem => hdisjoint column (by simpa using hmem) hkey
    rw [hnil]
    rfl

/-- Once the method and the names are known, a plan is refused for a column that is both, or
    for what it returns. -/
theorem upsertPlan_eq {method : Method} (hmethod : d.resolveMethod .upsert r.method = .ok method)
    (hkey : requiredColumns "by" r.key = .ok (key.map .text))
    (hupdated : requiredColumns "update_cols" r.updated = .ok (updated.map .text)) :
    upsertPlan d r =
      if ∀ column ∈ updated, column ∉ key then do
        let returning ← returnedTexts d r.table r.returning
        return ⟨Identifier.table r.table, method, key, updated, returning⟩
      else .error (.invalidArgument "update_cols" .null
        (.keyUpdated ((key.filter updated.contains).eraseDups.mergeSort (· ≤ ·)))) := by
  rw [upsertPlan, hmethod, ok_bind, hkey, ok_bind, hupdated, ok_bind, overlap_texts, ok_bind]
  simp only [names_texts, ok_bind, ← isEmpty_overlap_iff]
  cases ((key.filter updated.contains).eraseDups.mergeSort (· ≤ ·)).isEmpty with
  | false => rfl
  | true =>
    simp only [Bool.not_true, Bool.false_eq_true, if_false, if_true]
    split <;> rfl

/-- What an accepted upsert is planned to write, by any method that is accepted as well. -/
theorem names_of_upsertPlan {p : UpsertPlan} (h : upsertPlan d r = .ok p) :
    r.key.Names p.key ∧ r.updated.Names p.updated ∧ (∀ column ∈ p.updated, column ∉ p.key) ∧
    ∀ method m, d.resolveMethod .upsert method = .ok m →
      upsertPlan d { r with method } = .ok { p with method := m } := by
  have hfits := UpsertPlan.fits h
  obtain ⟨key, hkey, hnames⟩ := hfits.key
  obtain ⟨updated, hupdated, hnames'⟩ := hfits.updated
  obtain rfl := eq_map_text_of_names hnames
  obtain rfl := eq_map_text_of_names hnames'
  have hdisjoint : ∀ column ∈ p.updated, column ∉ p.key := by
    by_contra hcommon
    rw [upsertPlan_eq hfits.method hkey hupdated, if_neg hcommon] at h
    cases h
  refine ⟨names_of_requiredColumns hkey, names_of_requiredColumns hupdated, hdisjoint,
    fun method m hm => ?_⟩
  rw [upsertPlan_eq (r := { r with method }) hm hkey hupdated, if_pos hdisjoint,
    hfits.returning, ok_bind, hfits.table_eq]
  rfl

/-! ## Agreement -/

/-- A dialect with native conflict handling accepts both methods. -/
theorem resolveMethod_upsert (h : d.capabilities.onConflict = true) :
    d.resolveMethod .upsert (.text "on_conflict") = .ok .onConflict ∧
    d.resolveMethod .upsert (.text "cte_update") = .ok .cteUpdate := by
  have hchosen : d.chosenMethod? .upsert (.text "on_conflict") = some .onConflict ∧
      d.chosenMethod? .upsert (.text "cte_update") = some .cteUpdate := ⟨rfl, rfl⟩
  simp only [resolveMethod_eq, hchosen, h]
  exact ⟨rfl, rfl⟩

/-- The two methods of an upsert write the same columns. Where an upsert is accepted and its
    names are one line each, both texts are read back: they insert and select the key and the
    updated columns, assign each updated column once from the source's, in the order in which
    they come first, and find rows by the key, each column compared with its namesake. -/
theorem upsertMethods_agree {text : String} {record : LogRecord}
    (hnative : d.capabilities.onConflict = true) (h : upsertStatement d r = .ok (text, record)) :
    ∃ key updated, r.key.Names key ∧ r.updated.Names updated ∧
      (∀ column ∈ updated, column ∉ key) ∧
      (Text.IsOneLine r.table → (∀ column ∈ key ++ updated, Text.IsOneLine column) →
        ∃ native general returning,
          outcome (upsertStatement d { r with method := .text "on_conflict" }) = .ok native ∧
          outcome (upsertStatement d { r with method := .text "cte_update" }) = .ok general ∧
          (Reader.nativeUpsert r.source).readAll native.toList = some
            { insert :=
                { table := Identifier.tablePath r.table
                  columns := key ++ updated
                  selected := key ++ updated
                  source := sourceAlias }
              target := key
              assigned := updated.eraseDups.map fun column => (column, ["excluded", column])
              returning } ∧
          (Reader.generalUpsert r.source).readAll general.toList = some
            { updated := updatedAlias
              update :=
                { table := Identifier.tablePath r.table
                  assigned := updated.eraseDups.map fun column => (column, [sourceAlias, column])
                  source := sourceAlias
                  matched := key.map fun column =>
                    ([sourceAlias, column], Identifier.tablePath r.table ++ [column])
                  returned := Identifier.tablePath r.table }
              insert :=
                { table := Identifier.tablePath r.table
                  columns := key ++ updated
                  selected := key ++ updated
                  source := sourceAlias }
              probed := [updatedAlias]
              matched := key.map fun column => ([updatedAlias, column], [sourceAlias, column])
              returning }) := by
  obtain ⟨p, hp, -, -⟩ := exists_upsertPlan h
  obtain ⟨hkey, hupdated, hdisjoint, hmethods⟩ := names_of_upsertPlan hp
  have hfits := UpsertPlan.fits hp
  refine ⟨p.key, p.updated, hkey, hupdated, hdisjoint, fun htable hnames => ?_⟩
  obtain ⟨hkeys, hupdates⟩ := List.forall_mem_append.1 hnames
  have hpath := Identifier.areReadable_tablePath htable
  have heq : p.table = Identifier.pathText (Identifier.tablePath r.table) :=
    hfits.table_eq.trans (Identifier.table_eq_pathText r.table)
  have houtcome {method : Value} {m : Method} (hm : d.resolveMethod .upsert method = .ok m) :
      outcome (upsertStatement d { r with method }) =
        .ok ({ p with method := m }.text d r.source) := by
    rw [upsertStatement_eq, hmethods method m hm]
    rfl
  exact ⟨_, _, p.returning.map fun items => (commaSeparated items).toList,
    houtcome (resolveMethod_upsert hnative).1, houtcome (resolveMethod_upsert hnative).2,
    (Reader.takes_nativeUpsert (p := { p with method := .onConflict }) rfl heq hpath
      ⟨hfits.key_ne, hkeys⟩ ⟨hfits.updated_ne, hupdates⟩ d r.source).readAll,
    (Reader.takes_generalUpsert (p := { p with method := .cteUpdate }) nofun heq hpath
      ⟨hfits.key_ne, hkeys⟩ ⟨hfits.updated_ne, hupdates⟩ d r.source).readAll⟩

/-- An upsert that updates a reserved word, and one column twice. -/
def doubledUpsert : UpsertRequest where
  table := "shop.items"
  source := "SELECT id, \"order\", qty FROM\nstock"
  key := .list [.text "id", .text "shop"]
  updated := .tuple [.text "order", .text "qty", .text "order"]

theorem upsertPlan_doubledUpsert :
    upsertPlan (.standard .postgres) doubledUpsert =
      .ok ⟨"shop.items", .onConflict, ["id", "shop"], ["order", "qty", "order"], none⟩ := by
  cbv

/-- The column that is updated twice is assigned once. -/
theorem upsertMethods_agree_doubled :
    (Dialect.standard .postgres).capabilities.onConflict = true ∧
    ∃ native general returning,
      outcome (upsertStatement (.standard .postgres)
        { doubledUpsert with method := .text "on_conflict" }) = .ok native ∧
      outcome (upsertStatement (.standard .postgres)
        { doubledUpsert with method := .text "cte_update" }) = .ok general ∧
      (Reader.nativeUpsert doubledUpsert.source).readAll native.toList = some
        { insert := ⟨["shop", "items"], ["id", "shop", "order", "qty", "order"],
            ["id", "shop", "order", "qty", "order"], "...y"⟩
          target := ["id", "shop"]
          assigned := [("order", ["excluded", "order"]), ("qty", ["excluded", "qty"])]
          returning } ∧
      (Reader.generalUpsert doubledUpsert.source).readAll general.toList = some
        { updated := "updated"
          update :=
            { table := ["shop", "items"]
              assigned := [("order", ["...y", "order"]), ("qty", ["...y", "qty"])]
              source := "...y"
              matched := [(["...y", "id"], ["shop", "items", "id"]),
                (["...y", "shop"], ["shop", "items", "shop"])]
              returned := ["shop", "items"] }
          insert := ⟨["shop", "items"], ["id", "shop", "order", "qty", "order"],
            ["id", "shop", "order", "qty", "order"], "...y"⟩
          probed := ["updated"]
          matched := [(["updated", "id"], ["...y", "id"]), (["updated", "shop"], ["...y", "shop"])]
          returning } := by
  have hflag : (Dialect.standard .postgres).capabilities.onConflict = true := rfl
  obtain ⟨key, updated, hkey, hupdated, -, hagree⟩ := upsertMethods_agree hflag
    (upsertStatement_of_plan upsertPlan_doubledUpsert doubledUpsert.source)
  obtain rfl := hkey.unique (.list ["id", "shop"])
  obtain rfl := hupdated.unique (.tuple ["order", "qty", "order"])
  exact ⟨hflag, hagree (by decide) (by decide)⟩

end SqlDialects
