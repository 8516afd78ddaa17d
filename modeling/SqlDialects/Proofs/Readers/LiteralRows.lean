-- SUMMARY: Literal rows are written when they fit their columns, and their subquery is read back: columns, name and every cell with its kind.
import SqlDialects.Proofs.Readers.Written
import SqlDialects.Proofs.Statement.Refusals

/-!
# Reading literal rows

Literal rows are refused by the first of their checks that fails: there is a column,
every row has as many cells as there are columns, every number in it can be written,
and there is a row. What is written otherwise is read back. The cells of a row stand
between parentheses, and so do the columns, which come last, behind the name of the
subquery.
-/

namespace SqlDialects

/-- Columns and rows of cells, under a name. -/
structure LiteralTable where
  columns : List String
  rows : List (List Scalar)
  given : String

namespace LiteralTable

/-- Two values go through the columns and through the rows, one by one. -/
structure IsHeldBy (t : LiteralTable) (columns rows : Value) : Prop where
  columns : columns.items = .ok (t.columns.map .text)
  rows : ∃ vs, rows.items = .ok vs ∧
    List.Forall₂ (fun v row => v.items = .ok (row.map .scalar)) vs t.rows

def HasCells (t : LiteralTable) : Prop := ∀ row ∈ t.rows, ∀ c ∈ row, c.IsCell

end LiteralTable

/-- A whole number with too many digits to be written. -/
def Scalar.isTooLong : Scalar → Bool
  | .number (.whole n) => !isShort n
  | _ => false

theorem Scalar.isTooLong_eq_false_iff {n : Int} :
    (Scalar.number (.whole n)).isTooLong = false ↔ IsWritable n := by
  rw [isTooLong, Bool.not_eq_false', isShort_iff]

/-! ## Checks -/

namespace LiteralTable

/-- The checks of a row: its length, then its cells. -/
def rowChecks (t : LiteralTable) (row : List Scalar) : List Check :=
  [(decide (row.length ≠ t.columns.length),
    .rowShape (row.map .scalar) (t.columns.map .text))] ++
    row.map fun c => (c.isTooLong, .lapse .tooManyDigits)

def checks (t : LiteralTable) : List Check :=
  [(t.columns.isEmpty, .valuesWithoutColumns)] ++ (t.rows.flatMap t.rowChecks ++
    [(t.rows.isEmpty, .valuesWithoutRows)])

/-- The subquery, given the texts of the rows. -/
def text (t : LiteralTable) (d : Dialect) (rows : List String) : String :=
  "SELECT * FROM " ++ tableAlias d ("VALUES " ++ commaSeparated rows) t.given ++ " " ++
    parenthesised (commaSeparated (t.columns.map Identifier.escaped))

variable {t : LiteralTable} {d : Dialect} {columns rows : Value} {row : List Scalar} {c : Scalar}

/-- Values that go through texts count as false when there are none. -/
theorem isTruthy_of_items {names : List String} (h : columns.items = .ok (names.map .text)) :
    columns.isTruthy = !names.isEmpty := by
  cases columns with
  | list vs =>
    cases h
    simp [Value.isTruthy]
  | tuple vs =>
    cases h
    simp [Value.isTruthy]
  | scalar a =>
    cases a with
    | text s =>
      have hlength := congrArg List.length (Except.ok.inj h)
      simp only [characters, List.length_map] at hlength
      cases names with
      | nil =>
        obtain rfl := String.toList_eq_nil_iff.1 (List.length_eq_zero_iff.1 hlength)
        rfl
      | cons name names =>
        have hs : s ≠ "" := by
          rintro rfl
          cases hlength
        simpa [Value.isTruthy, Scalar.isTruthy] using hs
    | bytes bs =>
      have hitems := Except.ok.inj h
      cases bs with
      | nil =>
        obtain rfl : names = [] := by simpa using hitems.symm
        rfl
      | cons b bs =>
        cases names with
        | nil => cases hitems
        | cons name names => cases hitems
    | _ => cases h
  | _ => cases h

theorem valuesSubquery_eq (h : t.IsHeldBy columns rows) :
    valuesSubquery d columns rows t.given =
      if t.columns.isEmpty then .error .valuesWithoutColumns
      else (t.rows.mapM fun row => rowText d (t.columns.map .text) (row.map .scalar)) >>=
        fun texts =>
          if t.rows.isEmpty then .error .valuesWithoutRows else .ok (t.text d texts) := by
  obtain ⟨vs, hvs, heach⟩ := h.rows
  have hmap : (vs.mapM fun v => do
        let row ← v.items
        let columns ← columns.items
        rowText d columns row) =
      t.rows.mapM fun row => rowText d (t.columns.map .text) (row.map .scalar) := by
    refine mapM_congr (heach.imp fun v row hv => ?_)
    rw [hv, h.columns]
    rfl
  simp only [valuesSubquery, isTruthy_of_items h.columns, Bool.not_not, hvs, ok_bind, hmap]
  cases t.columns.isEmpty with
  | true => rfl
  | false =>
    simp only [Bool.false_eq_true, if_false]
    refine bind_congr_ok fun texts htexts => ?_
    have hlength := (mapM_eq_ok_iff.1 htexts).length_eq
    have hempty : texts.isEmpty = t.rows.isEmpty := by
      rw [Bool.eq_iff_iff, List.isEmpty_iff_length_eq_zero, List.isEmpty_iff_length_eq_zero,
        hlength]
    rw [hempty]
    cases t.rows.isEmpty with
    | true => rfl
    | false =>
      simp only [Bool.false_eq_true, if_false, h.columns, ok_bind, names_texts]
      rfl

theorem refusedBy_literal (hc : c.IsCell) :
    RefusedBy ((Value.scalar c).toExpr.render d) [(c.isTooLong, .lapse .tooManyDigits)] := by
  have hrender : (Value.scalar c).toExpr.render d = d.backend.scalarLiteral c := rfl
  rw [hrender]
  cases hc with
  | null => exact refusedBy_ite false _ _
  | bool b => exact refusedBy_ite false _ _
  | whole n =>
    rw [Backend.scalarLiteral, Backend.numberLiteral, wholeText, Scalar.isTooLong, isShort]
    by_cases hn : n.natAbs < Nat.pow 10 wholeDigitLimit
    · rw [if_pos hn, decide_eq_true hn]
      exact refusedBy_ite false _ _
    · rw [if_neg hn, decide_eq_false hn]
      exact refusedBy_ite true _ ""
  | @text s hs =>
    have hnul : s.toList.contains (Char.ofNat 0) = false := by simpa using hs
    have htext : d.backend.scalarLiteral (.text s) =
        .ok (String.ofList ('\'' :: doubled '\'' s.toList ++ ['\''])) := by
      rw [Backend.scalarLiteral, Backend.textLiteral, hnul]
      rfl
    rw [htext]
    exact refusedBy_ite false _ _

theorem refusedBy_rowText (hrow : ∀ c ∈ row, c.IsCell) :
    RefusedBy (rowText d (t.columns.map .text) (row.map .scalar)) (t.rowChecks row) := by
  have hcells : RefusedBy (renderAll d ((row.map .scalar).map Value.toExpr))
      (row.map fun c => (c.isTooLong, .lapse .tooManyDigits)) := by
    have heach := RefusedBy.mapM fun c hc => refusedBy_literal (d := d) (hrow c hc)
    have hitems : renderAll d ((row.map .scalar).map Value.toExpr) =
        row.mapM fun c => (Value.scalar c).toExpr.render d := by
      rw [renderAll_eq_mapM, List.map_map]
      exact mapM_congr (List.forall₂_map_left_iff.2 (List.forall₂_same.2 fun c _ => rfl))
    rw [hitems, List.map_eq_flatMap]
    exact heach
  have hgroup := hcells.bind fun texts _ => refusedBy_ok (parenthesised (commaSeparated texts))
  rw [List.append_nil] at hgroup
  have hguarded : rowText d (t.columns.map .text) (row.map .scalar) =
      if decide (row.length ≠ t.columns.length) then
        .error (.rowShape (row.map .scalar) (t.columns.map .text))
      else (Expr.group ((row.map .scalar).map Value.toExpr)).render d := by
    by_cases hlength : row.length = t.columns.length <;> simp [rowText, hlength]
  rw [hguarded]
  exact .guarded rfl hgroup

/-- Literal rows are refused by the first of their checks that fails. -/
theorem refusedBy (h : t.IsHeldBy columns rows) (hcells : t.HasCells) :
    RefusedBy (valuesSubquery d columns rows t.given) t.checks := by
  rw [valuesSubquery_eq h]
  refine .guarded rfl (.bind (.mapM fun row hrow => refusedBy_rowText (hcells row hrow)) ?_)
  intro rendered _
  exact refusedBy_ite _ _ _

/-- Why literal rows are refused: columns or rows that are not there, a row that does not fit
    the columns, or a number that cannot be written. -/
inductive Refusal (t : LiteralTable) : Error → Prop
  | noColumns (h : t.columns = []) : Refusal t .valuesWithoutColumns
  | noRows (h : t.rows = []) : Refusal t .valuesWithoutRows
  | rowLength {row : List Scalar} (h : row ∈ t.rows) (hlength : row.length ≠ t.columns.length) :
      Refusal t (.rowShape (row.map .scalar) (t.columns.map .text))
  | tooLong {row : List Scalar} {c : Scalar} (h : row ∈ t.rows) (hc : c ∈ row)
      (hlong : c.isTooLong = true) : Refusal t (.lapse .tooManyDigits)

theorem refusal_of_mem_checks {e : Error} (h : (true, e) ∈ t.checks) : t.Refusal e := by
  simp only [checks, rowChecks, List.mem_append, List.mem_singleton, List.mem_flatMap,
    List.mem_map, Prod.mk.injEq] at h
  obtain ⟨hcolumns, rfl⟩ | ⟨row, hrow, ⟨hlength, rfl⟩ | ⟨c, hc, hlong, rfl⟩⟩ | ⟨hrows, rfl⟩ := h
  · exact .noColumns (List.isEmpty_iff.1 hcolumns.symm)
  · exact .rowLength hrow (by simpa using hlength)
  · exact .tooLong hrow hc hlong
  · exact .noRows (List.isEmpty_iff.1 hrows.symm)

/-- There are columns and rows, every row fits the columns, and every number can be written. -/
structure IsSound (t : LiteralTable) : Prop where
  columns_ne : t.columns ≠ []
  rows_ne : t.rows ≠ []
  rowLength : ∀ row ∈ t.rows, row.length = t.columns.length
  isShort : ∀ row ∈ t.rows, ∀ c ∈ row, c.isTooLong = false

theorem checks_pass_iff : (∀ check ∈ t.checks, check.1 = false) ↔ t.IsSound := by
  simp only [checks, rowChecks, List.forall_mem_append, List.forall_mem_singleton,
    List.forall_mem_flatMap, List.forall_mem_map]
  constructor
  · rintro ⟨hcolumns, hrows, hne⟩
    exact ⟨by simpa using hcolumns, by simpa using hne,
      fun row hrow => by simpa using (hrows row hrow).1, fun row hrow => (hrows row hrow).2⟩
  · rintro ⟨hcolumns, hne, hlength, hshort⟩
    exact ⟨by simpa using hcolumns,
      fun row hrow => ⟨by simpa using hlength row hrow, hshort row hrow⟩, by simpa using hne⟩

/-- What is written goes through all checks, and is put together of the texts of the rows. -/
theorem exists_texts (h : t.IsHeldBy columns rows) {s : String}
    (hs : valuesSubquery d columns rows t.given = .ok s) :
    t.columns ≠ [] ∧ t.rows ≠ [] ∧ ∃ texts, s = t.text d texts ∧
      List.Forall₂ (fun row s => rowText d (t.columns.map .text) (row.map .scalar) = .ok s)
        t.rows texts := by
  rw [valuesSubquery_eq h] at hs
  split at hs
  · cases hs
  next hcolumns =>
    obtain ⟨texts, htexts, hs⟩ := bind_eq_ok_iff.1 hs
    split at hs
    · cases hs
    next hrows =>
      cases hs
      exact ⟨by simpa using hcolumns, by simpa using hrows, texts, rfl, mapM_eq_ok_iff.1 htexts⟩

end LiteralTable

/-! ## Reading -/

namespace Reader

variable {d : Dialect} {t : LiteralTable} {columns rows : Value} {row : List Scalar} {s : String}

/-- A name that is given to what stands before it, behind a word where the dialect has one. -/
def aliasName : Reader String := do
  expect " "
  let _ ← optional (expect "AS ")
  written

def literalTable : Reader LiteralTable := do
  expect "SELECT * FROM "
  expect "("
  expect "VALUES "
  let rows ← separated ", " (tuple literal)
  expect ")"
  let given ← aliasName
  expect " "
  let columns ← tuple written
  return { columns, rows, given }

theorem takes_aliasName (withAs : Bool) (name : String) {rest : List Char}
    (hrest : StartsWithout Identifier.isUndelimited rest) :
    aliasName.Takes ((if withAs then " AS " else " ") ++ Identifier.escaped name).toList name
      rest := by
  have hname := takes_written name hrest
  cases withAs with
  | true =>
    have htext : " AS " ++ Identifier.escaped name =
        " " ++ ("AS " ++ Identifier.escaped name) := by
      rw [← String.append_assoc]
      rfl
    rw [if_pos rfl, htext]
    exact .expect_next <| (takes_expect "AS " _).optional_some.next hname
  | false =>
    have hnone : (expect "AS ").run ((Identifier.escaped name).toList ++ rest) = none :=
      expect_eq_none rfl (Identifier.startsWithout_escaped (by decide) (by decide) name rest)
    rw [if_neg Bool.false_ne_true]
    exact .expect_next <| (takes_optional_none hnone).bind hname

/-- A row is read back cell by cell. -/
theorem takes_rowText (hrow : ∀ c ∈ row, c.IsCell) (hne : t.columns ≠ [])
    (h : rowText d (t.columns.map .text) (row.map .scalar) = .ok s) (rest : List Char) :
    (tuple literal).Takes s.toList row rest := by
  rw [rowText] at h
  split at h
  next hlength =>
    rw [Expr.render] at h
    obtain ⟨texts, htexts, hs⟩ := bind_eq_ok_iff.1 h
    cases hs
    rw [renderAll_eq_ok_iff, List.map_map, List.forall₂_map_left_iff] at htexts
    have heach : TakesEach literal (StartsWithout Identifier.isUndelimited) texts row :=
      forall₂_takesBefore htexts fun c hc _ htext _ hrest => takes_literal (hrow c hc) htext hrest
    have htexts : texts ≠ [] := by
      rintro rfl
      cases heach
      exact hne (List.length_eq_zero_iff.1 (by simpa using hlength.symm))
    exact takes_tuple heach htexts rest
  next => cases h

/-- The subquery of literal rows is read back from its text. -/
theorem takes_literalTable (h : t.IsHeldBy columns rows) (hcells : t.HasCells)
    (hs : valuesSubquery d columns rows t.given = .ok s) :
    literalTable.Takes s.toList t [] := by
  obtain ⟨hcolumns, hrows, texts, rfl, htexts⟩ := LiteralTable.exists_texts h hs
  have heach : TakesEach (tuple literal) (fun _ => True) texts t.rows :=
    forall₂_takesBefore htexts fun row hrow _ htext rest _ =>
      takes_rowText (hcells row hrow) hcolumns htext rest
  have hnames : TakesEach written (StartsWithout Identifier.isUndelimited)
      (t.columns.map Identifier.escaped) t.columns := by
    rw [TakesEach, List.forall₂_map_left_iff]
    exact List.forall₂_same.2 fun name _ _ => takes_written name
  have htext : t.text d texts = "SELECT * FROM " ++ ("(" ++ ("VALUES " ++ (commaSeparated texts ++
      (")" ++ (((if d.capabilities.tableAliasWithAs then " AS " else " ") ++
        Identifier.escaped t.given) ++ (" " ++ parenthesised
          (commaSeparated (t.columns.map Identifier.escaped)))))))) := by
    simp only [LiteralTable.text, tableAlias, parenthesised, String.append_assoc]
  have hne : texts ≠ [] := by
    rintro rfl
    exact hrows (List.forall₂_nil_left_iff.1 heach)
  have hstop (more : String) :
      (do expect ", "; tuple literal : Reader _).run ((")" ++ more).toList ++ []) = none :=
    expect_bind_eq_none rfl (.text (by decide) more []) _
  rw [htext]
  exact .expect_next <| .expect_next <| .expect_next <|
    (heach.separated hne (fun _ _ => trivial) (by decide) trivial (hstop _)).next <| .expect_next <|
    (takes_aliasName _ t.given (.text (by decide) _ [])).next <| .expect_next <|
    (takes_tuple hnames (by simpa using hcolumns) []).bind_pure

end Reader

/-! ## Nothing is lost -/

/-- Literal rows of nulls, truth values, whole numbers and texts without a NUL character lose
    nothing. They are written exactly when there are columns and rows, each row fits the columns
    and each number can be written, and are refused for one of these reasons otherwise. What is
    written is read back as it was, so no other rows, columns and name are written alike. -/
theorem valuesSubquery_losesNothing (d : Dialect) {t : LiteralTable} {columns rows : Value}
    (h : t.IsHeldBy columns rows) (hcells : t.HasCells) :
    ((∃ s, valuesSubquery d columns rows t.given = .ok s) ↔ t.IsSound) ∧
    (∀ e, valuesSubquery d columns rows t.given = .error e → t.Refusal e) ∧
    ∀ s, valuesSubquery d columns rows t.given = .ok s →
      Reader.literalTable.readAll s.toList = some t ∧
      ∀ (t' : LiteralTable) (columns' rows' : Value), t'.IsHeldBy columns' rows' →
        t'.HasCells → valuesSubquery d columns' rows' t'.given = .ok s → t' = t := by
  have hrefused := LiteralTable.refusedBy (d := d) h hcells
  refine ⟨hrefused.exists_iff.trans LiteralTable.checks_pass_iff,
    fun e he => LiteralTable.refusal_of_mem_checks (hrefused.mem_of_error he), fun s hs => ?_⟩
  have hread := (Reader.takes_literalTable h hcells hs).readAll
  refine ⟨hread, fun t' columns' rows' h' hcells' hs' => ?_⟩
  have hread' := (Reader.takes_literalTable h' hcells' hs').readAll
  rw [hread] at hread'
  exact (Option.some.inj hread').symm

/-- Names and texts that hold what stands between names and between texts. -/
def separatorTable : LiteralTable where
  columns := ["order", "a), (b", "x\n"]
  rows := [[.null, .bool true, .number (.whole (-7))], [.text "it's", .text "', ('", .text "NULL"]]
  given := "v AS \"w\""

theorem valuesSubquery_losesNothing_separators :
    let columns := Value.tuple [.text "order", .text "a), (b", .text "x\n"]
    let rows := Value.list [.tuple [.null, .bool true, .whole (-7)],
      .list [.text "it's", .text "', ('", .text "NULL"]]
    separatorTable.IsHeldBy columns rows ∧ separatorTable.HasCells ∧
      ∃ s, valuesSubquery (.standard .ansi) columns rows separatorTable.given = .ok s ∧
        Reader.literalTable.readAll s.toList = some separatorTable := by
  intro columns rows
  have hheld : separatorTable.IsHeldBy columns rows :=
    ⟨rfl, _, rfl, .cons rfl (.cons rfl .nil)⟩
  have hcells : separatorTable.HasCells := by
    simp only [LiteralTable.HasCells, separatorTable, List.forall_mem_cons, List.not_mem_nil,
      false_implies, implies_true, and_true]
    exact ⟨⟨.null, .bool true, .whole (-7)⟩, .text (by decide), .text (by decide),
      .text (by decide)⟩
  have hseven : (Scalar.number (.whole (-7))).isTooLong = false :=
    Scalar.isTooLong_eq_false_iff.2 (isWritable_of_lt_ten (by decide))
  have hsound : separatorTable.IsSound := by
    refine ⟨by decide, by decide, by decide, ?_⟩
    simp only [separatorTable, List.forall_mem_cons, List.not_mem_nil, false_implies, implies_true,
      and_true]
    exact ⟨⟨rfl, rfl, hseven⟩, rfl, rfl, rfl⟩
  obtain ⟨hwritten, -, hread⟩ := valuesSubquery_losesNothing (.standard .ansi) hheld hcells
  obtain ⟨s, hs⟩ := hwritten.2 hsound
  exact ⟨hheld, hcells, s, hs, (hread s hs).1⟩

theorem not_isWritable_pow : ¬ IsWritable (10 ^ wholeDigitLimit) := by
  have hpow (k : Nat) : ¬ ((10 : Int) ^ k).natAbs < Nat.pow 10 k := by
    rw [Int.natAbs_pow]
    exact Nat.lt_irrefl _
  exact hpow wholeDigitLimit

/-- The smallest number with more digits than are written. -/
def longTable : LiteralTable where
  columns := ["a"]
  rows := [[.number (.whole (10 ^ 4300))]]
  given := "v"

/-- Rows that fit their column are not written, as a number in them has too many digits. -/
theorem not_exists_valuesSubquery_tooLong :
    longTable.HasCells ∧ longTable.columns ≠ [] ∧ longTable.rows ≠ [] ∧
      (∀ row ∈ longTable.rows, row.length = longTable.columns.length) ∧
      ¬ ∃ s, valuesSubquery (.standard .postgres) (.list [.text "a"])
        (.list [.list [.whole (10 ^ 4300)]]) "v" = .ok s := by
  have hheld : longTable.IsHeldBy (.list [.text "a"]) (.list [.list [.whole (10 ^ 4300)]]) :=
    ⟨rfl, _, rfl, .cons rfl .nil⟩
  have hcells : longTable.HasCells := by
    simp only [LiteralTable.HasCells, longTable, List.forall_mem_singleton]
    exact .whole _
  refine ⟨hcells, nofun, nofun, List.forall_mem_singleton.2 rfl, ?_⟩
  intro hwritten
  have hsound := LiteralTable.checks_pass_iff.1
    ((LiteralTable.refusedBy (d := .standard .postgres) hheld hcells).exists_iff.1 hwritten)
  exact not_isWritable_pow (Scalar.isTooLong_eq_false_iff.1
    (hsound.isShort _ List.mem_cons_self _ List.mem_cons_self))

end SqlDialects
