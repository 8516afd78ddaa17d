-- SUMMARY: The lines of an upsert are read back: its columns, assignments and key matches, one by one.
import SqlDialects.Proofs.Readers.Names
import SqlDialects.Proofs.Statement.Source

/-!
# Reading the lines of upserts

The lines of a row statement are read one by one, names and paths of names in the
places where a line has them. Only the text of the source is not looked into: it is
given, and expected where it stands.
-/

namespace SqlDialects

open Identifier (AreReadable)

namespace Reader

variable {rest : List Char} {column : String} {names key left right : List String}

/-! ## Parts of lines -/

def columns : Reader (List String) := separated ", " name

def group : Reader (List String) := do
  expect "("
  let columns ← columns
  expect ")"
  return columns

/-- A column and what is assigned to it. -/
def assignment : Reader (String × List String) := do
  let column ← name
  expect " = "
  let value ← path
  return (column, value)

/-- The two sides of an equation. -/
def equation : Reader (List String × List String) := do
  expect "("
  let left ← path
  expect " = "
  let right ← path
  expect ")"
  return (left, right)

theorem takes_columns (h : AreReadable names)
    (hrest : StartsWithout (fun c => Identifier.lengthens c || c == ',') rest) :
    columns.Takes (columnsText names).toList names rest :=
  takes_names h (by decide) (startsWithout_or hrest).1
    (expect_bind_eq_none rfl (startsWithout_or hrest).2 _)

theorem takes_group (h : AreReadable names) (rest : List Char) :
    group.Takes (parenthesised (columnsText names)).toList names rest := by
  rw [parenthesised, String.append_assoc]
  exact .expect_next <| (takes_columns h (.append (by decide) rest)).next <|
    (takes_expect ")" rest).bind_pure

theorem takes_assignment (hcolumn : Text.IsOneLine column) (h : AreReadable names)
    (hrest : StartsWithout (fun c => Identifier.lengthens c || c == '.') rest) :
    assignment.Takes (assignmentText (Identifier.pathText names) column).toList
      (column, names ++ [column]) rest := by
  rw [assignmentText, qualifiedText, ← Identifier.pathText_concat h.ne_nil, String.append_assoc]
  exact (takes_name hcolumn (.text (by decide) _ _)).next <| .expect_next <|
    (takes_path (h.concat hcolumn) hrest).bind_pure

theorem takes_equation (hcolumn : Text.IsOneLine column) (hleft : AreReadable left)
    (hright : AreReadable right) (rest : List Char) :
    equation.Takes (equationText (Identifier.pathText left) (Identifier.pathText right)
      column).toList (left ++ [column], right ++ [column]) rest := by
  rw [equationText, qualifiedText, qualifiedText, ← Identifier.pathText_concat hleft.ne_nil,
    ← Identifier.pathText_concat hright.ne_nil, parenthesised]
  simp only [String.append_assoc]
  exact .expect_next <|
    (takes_path (hleft.concat hcolumn) (.text (by decide) _ _)).next <| .expect_next <|
    (takes_path (hright.concat hcolumn) (.append (by decide) _)).next <|
    (takes_expect ")" rest).bind_pure

/-! ## Lines -/

/-- The table and the columns of an insert. -/
def inserted : Reader (List String × List String) := do
  expect "INSERT INTO "
  let table ← path
  expect " "
  let columns ← group
  return (table, columns)

def selected : Reader (List String) := do
  expect "SELECT "
  columns

/-- The name of a source whose text is given. -/
def rows (source : String) : Reader String := do
  expect "FROM ("
  expect source
  expect ") "
  let _ ← optional (expect "AS ")
  name

def target : Reader (List String) := do
  expect "ON CONFLICT "
  group

def assigned : Reader (List (String × List String)) := do
  expect "SET "
  separated ", " assignment

def matched : Reader (List (List String × List String)) := do
  expect "WHERE "
  separated " AND " equation

theorem takes_inserted (h : AreReadable names) (hkey : AreReadable key) (rest : List Char) :
    inserted.Takes (insertLine (Identifier.pathText names) key).toList (names, key) rest := by
  rw [insertLine]
  simp only [String.append_assoc]
  exact .expect_next <| (takes_path h (.text (by decide) _ _)).next <| .expect_next <|
    (takes_group hkey rest).bind_pure

theorem takes_selected (h : AreReadable names) (hrest : StartsWithout (· != '\n') rest) :
    selected.Takes (selectLine names).toList names rest :=
  .expect_next (takes_columns h (startsWithout_of_lineEnd hrest (by decide)))

theorem takes_rows (d : Dialect) (source : String) (hrest : StartsWithout (· != '\n') rest) :
    (rows source).Takes ("FROM (" ++ source ++ sourceEnd d).toList sourceAlias rest := by
  have halias : name.Takes (Identifier.escaped sourceAlias).toList sourceAlias rest :=
    takes_name (by decide) (startsWithout_of_lineEnd hrest (by decide))
  have hnamed : Takes (do let _ ← optional (expect "AS "); name)
      ((if d.capabilities.tableAliasWithAs then "AS " else "") ++
        Identifier.escaped sourceAlias).toList sourceAlias rest := by
    split
    · exact (takes_expect "AS " _).optional_some.next halias
    · exact (takes_optional_none rfl).next halias
  have hword : ")" ++ (if d.capabilities.tableAliasWithAs then " AS " else " ") =
      ") " ++ if d.capabilities.tableAliasWithAs then "AS " else "" := by
    split <;> rfl
  rw [sourceEnd, hword]
  simp only [String.append_assoc]
  exact .expect_next <| .expect_next <| .expect_next hnamed

theorem takes_target (h : AreReadable names) (rest : List Char) :
    target.Takes (targetLine names).toList names rest :=
  .expect_next (takes_group h rest)

theorem takes_assigned (h : AreReadable names) (hkey : AreReadable key)
    (hrest : StartsWithout (· != '\n') rest) :
    assigned.Takes (setLine (Identifier.pathText names) key).toList
      (key.eraseDups.map fun column => (column, names ++ [column])) rest := by
  have hstop : (do expect ", "; assignment : Reader _).run rest = none :=
    expect_bind_eq_none rfl (startsWithout_of_lineEnd hrest (by decide)) _
  exact .expect_next <| takes_separated (eraseDups_ne_nil hkey.ne_nil) (fun column hcolumn _ =>
    takes_assignment (hkey.isOneLine column (List.mem_eraseDups.1 hcolumn)) h) (by decide)
    (startsWithout_of_lineEnd hrest (by decide)) hstop

theorem takes_matched (hleft : AreReadable left) (hright : AreReadable right)
    (hkey : AreReadable key) (hrest : StartsWithout (· != '\n') rest) :
    matched.Takes (matchLine (Identifier.pathText left) (Identifier.pathText right) key).toList
      (key.map fun column => (left ++ [column], right ++ [column])) rest := by
  have hstop : (do expect " AND "; equation : Reader _).run rest = none :=
    expect_bind_eq_none rfl (startsWithout_of_lineEnd hrest (by decide)) _
  -- nothing goes on with an equation, which ends with its parenthesis
  have hend : StartsWithout (fun _ => false) rest := fun _ _ => rfl
  exact .expect_next <| takes_separated hkey.ne_nil (fun column hcolumn rest _ =>
    takes_equation (hkey.isOneLine column hcolumn) hleft hright rest) (by decide) hend hstop

end Reader

end SqlDialects
