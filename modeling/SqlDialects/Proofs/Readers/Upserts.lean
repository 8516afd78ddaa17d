-- SUMMARY: Both forms of an upsert are read back from their texts, the update and the probe of the general one too.
import SqlDialects.Proofs.Readers.Rows
import SqlDialects.Proofs.Statement.Indented

/-!
# Reading upserts

A native upsert is an insert that says what to do on a conflict. A general one updates
in a common table expression in front of its insert, and the insert probes what has
been updated. Both subqueries are indented, which leaves all names of one line as they
are.
-/

namespace SqlDialects

open Identifier (AreReadable)

/-! ## What an upsert says -/

/-- An insert of selected columns, and the name of the source they come from. -/
structure InsertReading where
  table : List String
  columns : List String
  selected : List String
  source : String

/-- An update of rows that match a source's. -/
structure UpdateReading where
  table : List String
  assigned : List (String × List String)
  source : String
  matched : List (List String × List String)
  returned : List String

structure NativeReading where
  insert : InsertReading
  target : List String
  assigned : List (String × List String)
  returning : Option (List Char)

structure GeneralReading where
  /-- The name of the updated rows. -/
  updated : String
  update : UpdateReading
  insert : InsertReading
  probed : List String
  matched : List (List String × List String)
  returning : Option (List Char)

namespace Reader

def remaining : Reader (List Char) := fun cs => some (cs, [])

def returning : Reader (Option (List Char)) := optional do
  expect "\n"
  expect "RETURNING "
  remaining

def insert (source : String) : Reader InsertReading := do
  let (table, columns) ← inserted
  expect "\n"
  let selected ← selected
  expect "\n"
  let rows ← rows source
  return ⟨table, columns, selected, rows⟩

/-- An update that is indented, given the source as it stands there. -/
def update (source : String) : Reader UpdateReading := do
  expect "UPDATE "
  let table ← path
  expect "\n  "
  let assigned ← assigned
  expect "\n  "
  let rows ← rows source
  expect "\n  "
  let matched ← matched
  expect "\n  RETURNING "
  let returned ← path
  expect ".*"
  return ⟨table, assigned, rows, matched, returned⟩

def nativeUpsert (source : String) : Reader NativeReading := do
  let insert ← insert source
  expect "\nWHERE true\n"
  let target ← target
  expect "\nDO UPDATE\n"
  let assigned ← assigned
  let returning ← returning
  return ⟨insert, target, assigned, returning⟩

def generalUpsert (source : String) : Reader GeneralReading := do
  expect "WITH "
  let updated ← name
  expect " AS (\n  "
  let update ← update (Text.hungText source)
  expect "\n)\n"
  let insert ← insert source
  expect "\nWHERE NOT EXISTS (\n  SELECT 1\n  FROM "
  let probed ← path
  expect "\n  "
  let matched ← matched
  expect "\n)"
  let returning ← returning
  return ⟨updated, update, insert, probed, matched, returning⟩

variable {rest : List Char} {table key columns updated : List String}

theorem takes_remaining (cs : List Char) : remaining.Takes cs cs [] := by
  rw [Takes, List.append_nil]
  rfl

theorem takes_returning (items : Option (List String)) :
    returning.Takes (opened (items.toList.map returningLine)).toList
      (items.map fun items => (commaSeparated items).toList) [] := by
  cases items with
  | none => exact takes_optional_none rfl
  | some items =>
    have htext : opened ((some items).toList.map returningLine) =
        "\n" ++ ("RETURNING " ++ commaSeparated items) := by
      simp [opened, returningLine]
    rw [htext]
    exact Takes.optional_some (.expect_next (.expect_next (takes_remaining _)))

/-- The returned columns stand on a line of their own. -/
theorem startsWithout_returning (p : UpsertPlan) :
    StartsWithout (· != '\n') (p.returningText.toList ++ []) := by
  rw [UpsertPlan.returningText]
  cases p.returning with
  | none => exact .nil
  | some items =>
    rw [Option.toList_some, List.map_singleton, opened_cons]
    exact .text (by decide) _ []

theorem takes_insert (d : Dialect) (source : String) (htable : AreReadable table)
    (hcolumns : AreReadable columns) (hrest : StartsWithout (· != '\n') rest) :
    (insert source).Takes (insertText d (Identifier.pathText table) source columns).toList
      ⟨table, columns, columns, sourceAlias⟩ rest := by
  rw [insertText, sourceLine_eq]
  exact (takes_inserted htable hcolumns _).next <| .expect_next <|
    (takes_selected hcolumns (.text (by decide) _ _)).next <| .expect_next <|
    (takes_rows d source hrest).bind_pure

theorem takes_update (d : Dialect) (source : String) (htable : AreReadable table)
    (hkey : AreReadable key) (hupdated : AreReadable updated) (rest : List Char) :
    (update source).Takes
      (indentedUpdate d (Identifier.pathText table) source key updated).toList
      ⟨table, updated.eraseDups.map fun column => (column, [sourceAlias, column]), sourceAlias,
        key.map fun column => ([sourceAlias, column], table ++ [column]), table⟩ rest := by
  have halias : AreReadable [sourceAlias] := Identifier.areReadable_singleton (by decide)
  exact .expect_next <| (takes_path htable (.text (by decide) _ _)).next <| .expect_next <|
    (takes_assigned halias hupdated (.text (by decide) _ _)).next <| .expect_next <|
    (takes_rows d source (.text (by decide) _ _)).next <| .expect_next <|
    (takes_matched halias htable hkey (.text (by decide) _ _)).next <| .expect_next <|
    (takes_path_star htable).next <| (takes_expect ".*" rest).bind_pure

/-- A native upsert is read back from its text. -/
theorem takes_nativeUpsert {p : UpsertPlan} (h : p.method = .onConflict)
    (htable : p.table = Identifier.pathText table) (hpath : AreReadable table)
    (hkey : AreReadable p.key) (hupdated : AreReadable p.updated) (d : Dialect) (source : String) :
    (nativeUpsert source).Takes (p.text d source).toList
      { insert := ⟨table, p.key ++ p.updated, p.key ++ p.updated, sourceAlias⟩
        target := p.key
        assigned := p.updated.eraseDups.map fun column => (column, ["excluded", column])
        returning := p.returning.map fun items => (commaSeparated items).toList } [] := by
  have hexcluded : AreReadable ["excluded"] := Identifier.areReadable_singleton (by decide)
  have hqualifier : "excluded" = Identifier.pathText ["excluded"] := by decide
  have hcolumns := hkey.append hupdated.isOneLine
  rw [p.text_eq_native h, htable, hqualifier]
  exact (takes_insert d source hpath hcolumns (.text (by decide) _ _)).next <| .expect_next <|
    (takes_target hkey _).next <| .expect_next <|
    (takes_assigned hexcluded hupdated (startsWithout_returning p)).next <|
    (takes_returning p.returning).bind_pure

/-- A general upsert is read back from its text, with both of its subqueries. -/
theorem takes_generalUpsert {p : UpsertPlan} (h : p.method ≠ .onConflict)
    (htable : p.table = Identifier.pathText table) (hpath : AreReadable table)
    (hkey : AreReadable p.key) (hupdated : AreReadable p.updated) (d : Dialect) (source : String) :
    (generalUpsert source).Takes (p.text d source).toList
      { updated := updatedAlias
        update :=
          { table
            assigned := p.updated.eraseDups.map fun column => (column, [sourceAlias, column])
            source := sourceAlias
            matched := p.key.map fun column => ([sourceAlias, column], table ++ [column])
            returned := table }
        insert := ⟨table, p.key ++ p.updated, p.key ++ p.updated, sourceAlias⟩
        probed := [updatedAlias]
        matched := p.key.map fun column => ([updatedAlias, column], [sourceAlias, column])
        returning := p.returning.map fun items => (commaSeparated items).toList } [] := by
  have hone : Text.IsOneLine updatedAlias := by decide
  have halias : AreReadable [sourceAlias] := Identifier.areReadable_singleton (by decide)
  have hprobed : AreReadable [updatedAlias] := Identifier.areReadable_singleton hone
  have hcolumns := hkey.append hupdated.isOneLine
  have hline : Text.IsOneLine p.table := htable ▸ hpath.isOneLine_pathText
  rw [p.text_eq_general h hline hkey.ne_nil hkey.isOneLine hupdated.isOneLine, htable]
  exact .expect_next <| (takes_name hone (.text (by decide) _ _)).next <| .expect_next <|
    (takes_update d _ hpath hkey hupdated _).next <| .expect_next <|
    (takes_insert d source hpath hcolumns (.text (by decide) _ _)).next <| .expect_next <|
    (takes_path hprobed (.text (by decide) _ _)).next <| .expect_next <|
    (takes_matched hprobed halias hkey (.text (by decide) _ _)).next <| .expect_next <|
    (takes_returning p.returning).bind_pure

end Reader

end SqlDialects
