-- SUMMARY: Where the source stands in a row statement: once as it is, and in the general upsert once more, indented.
import SqlDialects.Proofs.Layout.Indentation
import SqlDialects.Proofs.Statement.Plan

/-!
# The source in a row statement

The text of a plan is an outline: the statement's own text with places for the
source. An insert and a native upsert have one place, where the source stands as it
is. A general upsert has another one before it, in the update, where the source is
indented.
-/

namespace SqlDialects

/-! ## Outlines -/

/-- A part of a statement: text of its own, or a place for the source. -/
inductive Piece where
  | own (text : String)
  | source
  /-- The source as it stands in an indented text. -/
  | hung

abbrev Outline := List Piece

/-- A text as it stands in the middle of an indented one. -/
def Text.hungText (s : String) : String := String.ofList (Text.hung s.toList)

def Piece.fill (source : String) : Piece → String
  | .own text => text
  | .source => source
  | .hung => Text.hungText source

/-- The text with a source in its places. -/
def Outline.fill (t : Outline) (source : String) : String :=
  String.join (t.map (Piece.fill source))

def Piece.ownText : Piece → String
  | .own text => text
  | _ => ""

/-- The text of the statement itself, without the source. -/
def Outline.ownText (t : Outline) : String := String.join (t.map Piece.ownText)

/-- What is there without the source is the text with an empty one. -/
theorem Outline.fill_empty (t : Outline) : t.fill "" = t.ownText := by
  have hpiece : Piece.fill "" = Piece.ownText := by
    funext piece
    cases piece <;> rfl
  rw [fill, ownText, hpiece]

theorem Outline.fill_append (t u : Outline) (source : String) :
    fill (t ++ u) source = fill t source ++ fill u source := by
  simp [fill]

/-! ## Lines around the source -/

/-- Lines with a line feed behind each. -/
def closed (lines : List String) : String := String.join (lines.map (· ++ "\n"))

/-- Lines with a line feed before each. -/
def opened (lines : List String) : String := String.join (lines.map ("\n" ++ ·))

theorem intercalate_append_cons (before : List String) (line : String) (after : List String) :
    "\n".intercalate (before ++ line :: after) = closed before ++ line ++ opened after := by
  induction before with
  | nil =>
    induction after generalizing line with
    | nil => simp [closed, opened]
    | cons next after ih =>
      rw [List.nil_append, String.intercalate_cons_cons, ← List.nil_append (next :: after), ih]
      simp [closed, opened, String.append_assoc]
  | cons first before ih =>
    have hcons : "\n".intercalate (first :: (before ++ line :: after)) =
        first ++ "\n" ++ "\n".intercalate (before ++ line :: after) := by
      cases before <;> exact String.intercalate_cons_cons
    rw [List.cons_append, hcons, ih]
    simp [closed, String.append_assoc]

/-- What stands behind the source on its line. -/
def sourceEnd (d : Dialect) : String :=
  ")" ++ (if d.capabilities.tableAliasWithAs then " AS " else " ") ++
    Identifier.escaped sourceAlias

theorem sourceLine_eq (d : Dialect) (source : String) :
    sourceLine d source = "FROM (" ++ source ++ sourceEnd d := by
  have hopen : "FROM (" = "FROM " ++ "(" := rfl
  rw [hopen]
  simp only [sourceLine, sourceEnd, tableAlias, parenthesised, String.append_assoc]

/-- Lines with the source's line between them. -/
theorem intercalate_sourceLine (d : Dialect) (source : String) (before after : List String) :
    "\n".intercalate (before ++ sourceLine d source :: after) =
      closed before ++ "FROM (" ++ source ++ (sourceEnd d ++ opened after) := by
  rw [intercalate_append_cons, sourceLine_eq]
  simp only [String.append_assoc]

def Outline.around (d : Dialect) (before after : List String) : Outline :=
  [.own (closed before ++ "FROM ("), .source, .own (sourceEnd d ++ opened after)]

theorem Outline.fill_around (d : Dialect) (source : String) (before after : List String) :
    (around d before after).fill source =
      "\n".intercalate (before ++ sourceLine d source :: after) := by
  rw [intercalate_sourceLine]
  simp [fill, around, Piece.fill, String.append_assoc]

/-- A text that is indented along with what stands around it. -/
theorem indent_around {before middle after : String} {c : Char}
    (hbefore : before.toList.getLast? ≠ some '\r')
    (hmiddle : middle.toList.getLast? = some '\r' → after.toList.head? ≠ some '\n')
    (hlast : (before ++ middle ++ after).toList.getLast? = some c) (hc : Text.isLineEnd c = false) :
    Text.indent (before ++ middle ++ after) =
      "  " ++ Text.hungText before ++ Text.hungText middle ++ Text.hungText after := by
  rw [← String.toList_inj, Text.toList_indent hlast hc, String.append_assoc, String.toList_append,
    Text.hung_append fun h => absurd h hbefore, String.toList_append, Text.hung_append hmiddle]
  simp [Text.hungText]

/-! ## Outlines of statements -/

def InsertPlan.outline (p : InsertPlan) (d : Dialect) : Outline :=
  .around d [insertLine p.table p.columns, "SELECT *"]
    (p.conflictLines ++ p.returning.toList.map returningLine)

theorem InsertPlan.text_eq (p : InsertPlan) (d : Dialect) (source : String) :
    p.text d source = (p.outline d).fill source := by
  rw [outline, Outline.fill_around, text, lines, List.append_assoc]
  rfl

namespace UpsertPlan

/-- The update of a general upsert, up to the source. -/
def updateHead (p : UpsertPlan) : String :=
  closed ["UPDATE " ++ p.table, setLine (Identifier.escaped sourceAlias) p.updated] ++ "FROM ("

/-- The update of a general upsert, from the source on. -/
def updateTail (p : UpsertPlan) (d : Dialect) : String :=
  sourceEnd d ++ opened [matchLine (Identifier.escaped sourceAlias) p.table p.key,
    "RETURNING " ++ p.table ++ ".*"]

theorem updateText_eq (p : UpsertPlan) (d : Dialect) (source : String) :
    updateText d p.table source p.key p.updated = p.updateHead ++ source ++ p.updateTail d := by
  rw [updateHead, updateTail, ← intercalate_sourceLine]
  rfl

def updateOutline (p : UpsertPlan) (d : Dialect) : Outline :=
  [.own ("WITH " ++ Identifier.escaped updatedAlias ++ " AS " ++ "(\n" ++ "  " ++
      Text.hungText p.updateHead),
    .hung, .own (Text.hungText (p.updateTail d) ++ "\n)")]

theorem updateLine_eq (p : UpsertPlan) (d : Dialect) (source : String) :
    updateLine d p.table source p.key p.updated = (p.updateOutline d).fill source := by
  have hhead : p.updateHead.toList.getLast? ≠ some '\r' := by
    rw [updateHead, getLast?_append_of_eq (t := "FROM (") rfl]
    decide
  have htail : (p.updateTail d).toList.head? ≠ some '\n' := by
    simp [updateTail, sourceEnd]
  have hlast := getLast?_updateText d p.table source p.key p.updated
  rw [updateText_eq] at hlast
  rw [updateLine, blockText, updateText_eq, indent_around hhead (fun _ => htail) hlast (by decide),
    updateOutline]
  simp only [Outline.fill, Piece.fill, List.map_cons, List.map_nil, String.join_cons,
    String.join_nil, String.append_empty, String.append_assoc]

def outline (p : UpsertPlan) (d : Dialect) : Outline :=
  let returning := p.returning.toList.map returningLine
  if p.method = .onConflict then
    .around d [insertLine p.table p.columns, selectLine p.columns]
      (["WHERE true", targetLine p.key, "DO UPDATE", setLine "excluded" p.updated] ++ returning)
  else
    p.updateOutline d ++ [.own "\n"] ++
      .around d [insertLine p.table p.columns, selectLine p.columns]
        (probeLine (Identifier.escaped updatedAlias) p.key :: returning)

theorem text_eq (p : UpsertPlan) (d : Dialect) (source : String) :
    p.text d source = (p.outline d).fill source := by
  rw [text, lines, outline]
  split
  · rw [Outline.fill_around]
    rfl
  · rw [Outline.fill_append, Outline.fill_append, Outline.fill_around, ← updateLine_eq,
      generalLines, List.cons_append, List.cons_append, List.cons_append, List.cons_append,
      List.cons_append, List.cons_append, String.intercalate_cons_cons]
    simp [Outline.fill, Piece.fill]

end UpsertPlan

end SqlDialects
