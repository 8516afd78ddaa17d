-- SUMMARY: The subqueries of a general upsert as they stand in its text, where all names are one line.
import SqlDialects.Proofs.Layout.OneLine
import SqlDialects.Proofs.Statement.Source

/-!
# Indented subqueries

The update and the probe of a general upsert are indented. Where the names in them are
one line each, so is every line but the source's, and the subqueries are the same lines
with two blanks before each. The text of an upsert is then known line by line.
-/

namespace SqlDialects

variable {table target qualifier column left right : String} {key columns : List String}

/-- Lines stay as they are in an indented text, and only what is between them does not. -/
theorem Text.hungText_intercalate {lines : List String} (h : ∀ line ∈ lines, IsOneLine line) :
    hungText ("\n".intercalate lines) = "\n  ".intercalate lines := by
  have hhung : hung ("\n".intercalate lines).toList = ("\n  ".intercalate lines).toList := by
    induction lines with
    | nil => rfl
    | cons line lines ih =>
      obtain ⟨hline, hlines⟩ := List.forall_mem_cons.1 h
      cases lines with
      | nil => simpa using (hung_eq_self_iff _).2 hline
      | cons next lines =>
        rw [String.intercalate_cons_cons, String.intercalate_cons_cons, String.append_assoc,
          String.append_assoc, String.toList_append, String.toList_append, hline.hung_append,
          String.toList_append, String.toList_append, ← ih hlines]
        simp [hung_lineFeed]
  rw [hungText, hhung, String.ofList_toList]

/-! ## Lines of names -/

theorem isOneLine_qualifiedText (hq : Text.IsOneLine qualifier) (h : Text.IsOneLine column) :
    Text.IsOneLine (qualifiedText qualifier column) :=
  (hq.append (by decide)).append (Identifier.isOneLine_escaped h)

theorem isOneLine_setLine (hq : Text.IsOneLine qualifier)
    (h : ∀ s ∈ columns, Text.IsOneLine s) : Text.IsOneLine (setLine qualifier columns) := by
  have hassignment (column : String) (hcolumn : column ∈ columns.eraseDups) :
      Text.IsOneLine (assignmentText qualifier column) := by
    have hname := h column (List.mem_eraseDups.1 hcolumn)
    exact ((Identifier.isOneLine_escaped hname).append (by decide)).append
      (isOneLine_qualifiedText hq hname)
  exact .append (by decide) (.intercalate (by decide) (List.forall_mem_map.2 hassignment))

theorem isOneLine_matchLine (hleft : Text.IsOneLine left) (hright : Text.IsOneLine right)
    (h : ∀ s ∈ key, Text.IsOneLine s) : Text.IsOneLine (matchLine left right key) := by
  have hequation (column : String) (hcolumn : column ∈ key) :
      Text.IsOneLine (equationText left right column) := by
    have hname := h column hcolumn
    have hsides : Text.IsOneLine (qualifiedText left column ++ " = " ++
        qualifiedText right column) :=
      ((isOneLine_qualifiedText hleft hname).append (by decide)).append
        (isOneLine_qualifiedText hright hname)
    exact (Text.IsOneLine.append (by decide) hsides).append (by decide)
  exact .append (by decide) (.intercalate (by decide) (List.forall_mem_map.2 hequation))

theorem isOneLine_sourceEnd (d : Dialect) : Text.IsOneLine (sourceEnd d) := by
  have hword : Text.IsOneLine (if d.capabilities.tableAliasWithAs then " AS " else " ") := by
    split <;> decide
  exact (Text.IsOneLine.append (by decide) hword).append (by decide)

/-! ## Subqueries -/

/-- An update as it stands in a general upsert, given the source as it stands there. -/
def indentedUpdate (d : Dialect) (table source : String) (key updated : List String) : String :=
  "UPDATE " ++ (table ++ ("\n  " ++ (setLine (Identifier.escaped sourceAlias) updated ++
    ("\n  " ++ ("FROM (" ++ source ++ sourceEnd d ++ ("\n  " ++
    (matchLine (Identifier.escaped sourceAlias) table key ++
    ("\n  RETURNING " ++ (table ++ ".*")))))))))

theorem UpsertPlan.updateLine_eq_indented {p : UpsertPlan} (htable : Text.IsOneLine p.table)
    (hkey : ∀ s ∈ p.key, Text.IsOneLine s) (hupdated : ∀ s ∈ p.updated, Text.IsOneLine s)
    (d : Dialect) (source : String) :
    updateLine d p.table source p.key p.updated = "WITH " ++ (Identifier.escaped updatedAlias ++
      (" AS (\n  " ++ (indentedUpdate d p.table (Text.hungText source) p.key p.updated ++
        "\n)"))) := by
  have hhead : p.updateHead = "\n".intercalate
      ["UPDATE " ++ p.table, setLine (Identifier.escaped sourceAlias) p.updated, "FROM ("] := by
    simp [updateHead, closed, String.append_assoc]
  have htail : p.updateTail d = "\n".intercalate
      [sourceEnd d, matchLine (Identifier.escaped sourceAlias) p.table p.key,
        "RETURNING " ++ p.table ++ ".*"] := by
    simp [updateTail, opened, String.append_assoc]
  have hupdate : Text.IsOneLine ("UPDATE " ++ p.table) := .append (by decide) htable
  have hset : Text.IsOneLine (setLine (Identifier.escaped sourceAlias) p.updated) :=
    isOneLine_setLine (by decide) hupdated
  have hmatch : Text.IsOneLine (matchLine (Identifier.escaped sourceAlias) p.table p.key) :=
    isOneLine_matchLine (by decide) htable hkey
  have hreturning : Text.IsOneLine ("RETURNING " ++ p.table ++ ".*") :=
    (Text.IsOneLine.append (by decide) htable).append (by decide)
  have hfrom : Text.IsOneLine "FROM (" := by decide
  rw [updateLine_eq, updateOutline, hhead, htail,
    Text.hungText_intercalate (by simpa using ⟨hupdate, hset, hfrom⟩),
    Text.hungText_intercalate (by simpa using ⟨isOneLine_sourceEnd d, hmatch, hreturning⟩),
    ← String.toList_inj, indentedUpdate]
  simp [Outline.fill, Piece.fill]

/-- A probe as it stands in a general upsert. -/
theorem probeLine_eq_indented (htarget : Text.IsOneLine target) (hne : key ≠ [])
    (h : ∀ s ∈ key, Text.IsOneLine s) : probeLine target key =
      "WHERE NOT EXISTS (\n  SELECT 1\n  FROM " ++ (target ++ ("\n  " ++
        (matchLine target (Identifier.escaped sourceAlias) key ++ "\n)"))) := by
  have hfrom : Text.IsOneLine ("FROM " ++ target) := .append (by decide) htarget
  have hmatch : Text.IsOneLine (matchLine target (Identifier.escaped sourceAlias) key) :=
    isOneLine_matchLine htarget (by decide) h
  have hselect : Text.IsOneLine "SELECT 1" := by decide
  have hindent : Text.indent (probeText target key) =
      "  " ++ Text.hungText (probeText target key) := by
    rw [← String.toList_inj, Text.toList_indent (getLast?_probeText hne target) (by decide)]
    simp [Text.hungText]
  have hblock : probeLine target key = "WHERE NOT EXISTS " ++ ("(\n" ++
      Text.indent (probeText target key) ++ "\n)") := rfl
  rw [hblock, hindent, probeText, Text.hungText_intercalate
    (by simpa using ⟨hselect, hfrom, hmatch⟩), ← String.toList_inj]
  simp

/-! ## Texts of plans -/

theorem intercalate_cons_eq (line : String) (lines : List String) :
    "\n".intercalate (line :: lines) = line ++ opened lines := by
  simpa [closed] using intercalate_append_cons [] line lines

theorem opened_cons (line : String) (lines : List String) :
    opened (line :: lines) = "\n" ++ (line ++ opened lines) := by
  simp [opened, String.append_assoc]

/-- The lines of an insert of selected columns. -/
def insertText (d : Dialect) (table source : String) (columns : List String) : String :=
  insertLine table columns ++ ("\n" ++ (selectLine columns ++ ("\n" ++ sourceLine d source)))

namespace UpsertPlan

variable {p : UpsertPlan}

def returningText (p : UpsertPlan) : String := opened (p.returning.toList.map returningLine)

theorem text_eq_native (h : p.method = .onConflict) (d : Dialect) (source : String) :
    p.text d source = insertText d p.table source p.columns ++ ("\nWHERE true\n" ++
      (targetLine p.key ++ ("\nDO UPDATE\n" ++ (setLine "excluded" p.updated ++
        p.returningText)))) := by
  rw [← String.toList_inj, text, lines, if_pos h, nativeLines, List.cons_append,
    intercalate_cons_eq, insertText, returningText]
  simp [opened]

theorem text_eq_general (h : p.method ≠ .onConflict) (htable : Text.IsOneLine p.table)
    (hne : p.key ≠ []) (hkey : ∀ s ∈ p.key, Text.IsOneLine s)
    (hupdated : ∀ s ∈ p.updated, Text.IsOneLine s) (d : Dialect) (source : String) :
    p.text d source = "WITH " ++ (Identifier.escaped updatedAlias ++ (" AS (\n  " ++
      (indentedUpdate d p.table (Text.hungText source) p.key p.updated ++ ("\n)\n" ++
      (insertText d p.table source p.columns ++
      ("\nWHERE NOT EXISTS (\n  SELECT 1\n  FROM " ++ (Identifier.escaped updatedAlias ++
      ("\n  " ++ (matchLine (Identifier.escaped updatedAlias) (Identifier.escaped sourceAlias)
        p.key ++ ("\n)" ++ p.returningText)))))))))) := by
  rw [← String.toList_inj, text, lines, if_neg h, generalLines, List.cons_append,
    intercalate_cons_eq, updateLine_eq_indented htable hkey hupdated,
    probeLine_eq_indented (by decide) hne hkey, insertText, returningText]
  simp [opened]

end UpsertPlan

end SqlDialects
