-- SUMMARY: The lines of row statements, and that rendering their clauses writes exactly these.
import SqlDialects.Statement.Row
import SqlDialects.Proofs.Lexing.Rendering

/-!
# Lines of row statements

Every clause of a row statement is written on a line of its own. Its items are
names and texts that are SQL already, so rendering it never fails, and its line is
known from the names alone.
-/

namespace SqlDialects

variable {d : Dialect}

/-! ## Lists and conjunctions -/

/-- Items whose text is known render to these texts. -/
theorem renderAll_map {α : Type} {item : α → Expr} {text : α → String}
    (h : ∀ x, (item x).render d = .ok (text x)) (xs : List α) :
    renderAll d (xs.map item) = .ok (xs.map text) := by
  rw [renderAll_eq_mapM, mapM_map_eq_ok h]

/-- Written on the left of its own operator, a conjunction takes no parentheses. -/
theorem render_foldl_conjunction {connector : String} {es : List Expr} {ts : List String}
    (h : List.Forall₂ (fun e t => (Expr.paren e).render d = .ok t) es ts) {left : Expr} {s : String}
    (hleft : left.render d = .ok s) (hop : left.isOtherBinary connector = false) :
    (es.foldl (fun left e => .binary connector left (.paren e)) left).render d =
      .ok ((" " ++ connector ++ " ").intercalate (s :: ts)) := by
  induction h generalizing left s with
  | nil => simpa using hleft
  | @cons e t es ts he hes ih =>
    have hstep : (Expr.binary connector left (.paren e)).render d =
        .ok (s ++ (" " ++ connector ++ " ") ++ t) := by
      rw [Expr.render, hleft, he, hop]
      simp [wrapIf, Expr.isBinary, ok_bind, String.append_assoc]
    rw [List.foldl_cons, ih hstep (by simp [Expr.isOtherBinary])]
    cases ts with
    | nil => simp [String.intercalate_cons_cons]
    | cons u us => simp [String.intercalate_cons_cons, String.append_assoc]

/-- The parenthesised texts of the items, with the connector between them. -/
theorem render_conjunction {connector : String} {es : List Expr} {ts : List String}
    (h : List.Forall₂ (fun e t => (Expr.paren e).render d = .ok t) es ts) {joined : Expr}
    (hjoined : Expr.conjunction? connector es = some joined) :
    joined.render d = .ok ((" " ++ connector ++ " ").intercalate ts) := by
  cases h with
  | nil => cases hjoined
  | cons he hes =>
    cases hjoined
    exact render_foldl_conjunction hes he rfl

/-! ## Clauses -/

theorem render_clause {c : Clause} {texts : List String} (hne : texts ≠ [])
    (h : renderAll d c.items = .ok texts) :
    c.render d = .ok (c.keyword ++ " " ++ wrapIf c.parens (c.separator.intercalate texts)) := by
  have hitems : c.items.isEmpty = false := by
    cases hlist : c.items with
    | nil =>
      rw [hlist] at h
      cases h
      exact absurd rfl hne
    | cons => rfl
  rw [Clause.render, hitems, h]
  rfl

/-- Clauses are composed of their lines. -/
theorem compose_eq {clauses : List Clause} {lines : List String}
    (h : List.Forall₂ (fun c line => Clause.render d c = .ok line) clauses lines) :
    Clause.compose d clauses = .ok ("\n".intercalate lines) := by
  have hlines : (clauses.map .ok).mapM (fun draft : Clause.Draft => draft.bind (Clause.render d))
      = .ok lines :=
    mapM_eq_ok_iff.2 (List.forall₂_map_left_iff.2 h)
  rw [Clause.compose, Clause.composeDrafts, hlines]
  rfl

/-! ## Texts of lines -/

def columnsText (columns : List String) : String :=
  commaSeparated (columns.map Identifier.escaped)

def insertLine (table : String) (columns : List String) : String :=
  "INSERT INTO " ++ table ++ " " ++ parenthesised (columnsText columns)

def selectLine (columns : List String) : String := "SELECT " ++ columnsText columns

def sourceLine (d : Dialect) (source : String) : String :=
  "FROM " ++ tableAlias d source sourceAlias

def targetLine (key : List String) : String := "ON CONFLICT " ++ parenthesised (columnsText key)

def returningLine (items : List String) : String := "RETURNING " ++ commaSeparated items

def assignmentText (qualifier column : String) : String :=
  Identifier.escaped column ++ " = " ++ qualifiedText qualifier column

/-- A column that is assigned twice is written once. -/
def setLine (qualifier : String) (columns : List String) : String :=
  "SET " ++ commaSeparated (columns.eraseDups.map (assignmentText qualifier))

def equationText (left right column : String) : String :=
  parenthesised (qualifiedText left column ++ " = " ++ qualifiedText right column)

def matchLine (left right : String) (key : List String) : String :=
  "WHERE " ++ " AND ".intercalate (key.map (equationText left right))

/-- The subquery for a row of a target that has the source's key. -/
def probeText (target : String) (key : List String) : String :=
  "\n".intercalate
    ["SELECT 1", "FROM " ++ target, matchLine target (Identifier.escaped sourceAlias) key]

def probeLine (target : String) (key : List String) : String :=
  "WHERE NOT EXISTS " ++ blockText (probeText target key)

/-- The update of the rows that have the key of a source's row. -/
def updateText (d : Dialect) (table source : String) (key updated : List String) : String :=
  let rows := Identifier.escaped sourceAlias
  "\n".intercalate
    ["UPDATE " ++ table, setLine rows updated, sourceLine d source, matchLine rows table key,
      "RETURNING " ++ table ++ ".*"]

def updateLine (d : Dialect) (table source : String) (key updated : List String) : String :=
  "WITH " ++ Identifier.escaped updatedAlias ++ " AS " ++
    blockText (updateText d table source key updated)

/-! ## Ends of subqueries -/

theorem getLast?_append_of_eq {t : String} {c : Char} (h : t.toList.getLast? = some c)
    (s : String) : (s ++ t).toList.getLast? = some c := by
  rw [String.toList_append, List.getLast?_append, h]
  rfl

/-- A key match ends with a parenthesis. -/
theorem getLast?_matchLine {key : List String} (h : key ≠ []) (left right : String) :
    (matchLine left right key).toList.getLast? = some ')' := by
  refine getLast?_append_of_eq ?_ _
  induction key with
  | nil => exact absurd rfl h
  | cons column key ih =>
    cases key with
    | nil =>
      rw [List.map_singleton, String.intercalate_singleton]
      exact getLast?_append_of_eq rfl _
    | cons next key =>
      rw [List.map_cons, List.map_cons, String.intercalate_cons_cons]
      exact getLast?_append_of_eq (ih (List.cons_ne_nil _ _)) _

theorem getLast?_probeText {key : List String} (h : key ≠ []) (target : String) :
    (probeText target key).toList.getLast? = some ')' := by
  simp only [probeText, String.intercalate_cons_cons, String.intercalate_singleton]
  exact getLast?_append_of_eq (getLast?_append_of_eq (getLast?_matchLine h _ _) _) _

theorem getLast?_updateText (d : Dialect) (table source : String) (key updated : List String) :
    (updateText d table source key updated).toList.getLast? = some '*' := by
  simp only [updateText, String.intercalate_cons_cons, String.intercalate_singleton]
  have hlast := getLast?_append_of_eq (t := ".*") (c := '*') rfl ("RETURNING " ++ table)
  exact getLast?_append_of_eq (getLast?_append_of_eq (getLast?_append_of_eq
    (getLast?_append_of_eq hlast _) _) _) _

/-! ## Rendering -/

theorem renderAll_columnList (columns : List String) :
    renderAll d (columnList columns) = .ok (columns.map Identifier.escaped) :=
  renderAll_map (fun _ => by rw [Expr.render, qualifiedName]) columns

theorem render_insertInto {columns : List String} (h : columns ≠ []) (table : String) :
    (insertInto table columns).render d = .ok (insertLine table columns) :=
  render_clause (by simpa using h) (renderAll_columnList columns)

theorem render_columns {columns : List String} (h : columns ≠ []) :
    Clause.render d { keyword := "SELECT", items := columnList columns } =
      .ok (selectLine columns) :=
  render_clause (c := { keyword := "SELECT", items := columnList columns }) (by simpa using h)
    (renderAll_columnList columns)

/-- A clause with one item. -/
theorem render_item {e : Expr} {text : String} (h : e.render d = .ok text) (keyword : String) :
    Clause.render d { keyword, items := [e] } = .ok (keyword ++ " " ++ text) := by
  simp [Clause.render, renderAll, h, ok_bind, wrapIf]

theorem render_raw (keyword text : String) :
    Clause.render d { keyword, items := [.raw text] } = .ok (keyword ++ " " ++ text) :=
  render_item (by rw [Expr.render]) keyword

theorem render_conflictTarget (key : List String) :
    (conflictTarget key).render d = .ok (targetLine key) :=
  render_item (by rw [Expr.render, renderAll_columnList]; rfl) "ON CONFLICT"

/-- The table of values found by their names has each name once. -/
theorem ofList_map {α : Type} (value : String → α) (names : List String) :
    NameTable.ofList (names.map fun name => (name, value name)) =
      names.eraseDups.map fun name => (name, value name) := by
  have hput (kept : List String) (name : String) :
      NameTable.put (kept.map fun name => (name, value name)) name (value name) =
        (if name ∈ kept then kept else kept ++ [name]).map fun name => (name, value name) := by
    induction kept with
    | nil => rfl
    | cons first kept ih =>
      rw [List.map_cons, NameTable.put]
      by_cases h : first = name
      · simp [h]
      · rw [if_neg h, ih]
        by_cases hmem : name ∈ kept <;> simp [hmem, Ne.symm h]
  induction names using List.reverseRecOn with
  | nil => rfl
  | append_singleton names name ih =>
    have hlast : NameTable.ofList ((names ++ [name]).map fun name => (name, value name)) =
        NameTable.put (names.eraseDups.map fun name => (name, value name)) name (value name) := by
      rw [← ih, NameTable.ofList, List.map_append, List.foldl_append]
      rfl
    rw [hlast, hput, List.eraseDups_append]
    by_cases h : name ∈ names <;> simp [List.mem_eraseDups, h, List.removeAll, List.eraseDups_cons]

theorem eraseDups_ne_nil {names : List String} (h : names ≠ []) : names.eraseDups ≠ [] := by
  obtain ⟨first, hfirst⟩ := List.exists_mem_of_ne_nil names h
  exact List.ne_nil_of_mem (List.mem_eraseDups.2 hfirst)

theorem render_setClause {columns : List String} (h : columns ≠ []) (qualifier : String) :
    (setClause (assignFrom qualifier columns)).render d = .ok (setLine qualifier columns) := by
  have hitem (column : String) :
      (Expr.binary "=" (.ident column none) (qualified qualifier column)).render d =
        .ok (assignmentText qualifier column) := by
    simp [Expr.render, qualifiedName, qualified, Expr.isOtherBinary, Expr.isBinary, wrapIf, ok_bind,
      assignmentText, String.append_assoc]
  have hitems : renderAll d (setClause (assignFrom qualifier columns)).items =
      .ok (columns.eraseDups.map (assignmentText qualifier)) := by
    rw [setClause, assignFrom, ofList_map, List.map_map]
    exact renderAll_map hitem _
  exact render_clause (by simpa using eraseDups_ne_nil h) hitems

/-- The key's columns are equal one by one on both sides. -/
theorem keyMatch_eq {key : List String} (h : key ≠ []) (left right : String) :
    ∃ condition, keyMatch left right key = .ok condition ∧
      Clause.render d { keyword := "WHERE", items := [condition] } =
        .ok (matchLine left right key) := by
  have hitem (column : String) : (Expr.paren (.binary "=" (qualified left column)
      (qualified right column))).render d = .ok (equationText left right column) := by
    simp [Expr.render, qualified, Expr.isOtherBinary, Expr.isBinary, wrapIf, ok_bind, equationText,
      String.append_assoc]
  have hitems (key : List String) : List.Forall₂ (fun e t => (Expr.paren e).render d = .ok t)
      (key.map fun column => .binary "=" (qualified left column) (qualified right column))
      (key.map (equationText left right)) := by
    rw [List.forall₂_map_left_iff, List.forall₂_map_right_iff]
    exact List.forall₂_same.2 fun column _ => hitem column
  cases key with
  | nil => exact absurd rfl h
  | cons column key =>
    exact ⟨_, rfl, render_item (render_conjunction (hitems (column :: key)) rfl) "WHERE"⟩

theorem render_sourceLine (source : String) :
    (fromSource d source).render d = .ok (sourceLine d source) :=
  render_raw "FROM" _

/-- The clause that asks for no row with the key. -/
theorem whereNotExists_eq {key : List String} (h : key ≠ []) (target : String) :
    ∃ clause, whereNotExists d target key = .ok clause ∧
      clause.render d = .ok (probeLine target key) := by
  obtain ⟨condition, hcondition, hmatch⟩ :=
    keyMatch_eq (d := d) h target (Identifier.escaped sourceAlias)
  have hprobe := compose_eq (.cons (render_raw (d := d) "SELECT" "1")
    (.cons (render_raw "FROM" target) (.cons hmatch .nil)))
  refine ⟨_, ?_, render_raw "WHERE NOT EXISTS" (blockText (probeText target key))⟩
  rw [whereNotExists, hcondition, ok_bind, hprobe]
  rfl

/-- The clause that updates the rows with a known key. -/
theorem updatedRows_eq {key updated : List String} (hkey : key ≠ []) (hupdated : updated ≠ [])
    (table source : String) :
    ∃ clause, updatedRows d table source key updated = .ok clause ∧
      clause.render d = .ok (updateLine d table source key updated) := by
  obtain ⟨condition, hcondition, hmatch⟩ :=
    keyMatch_eq (d := d) hkey (Identifier.escaped sourceAlias) table
  have hset := render_setClause (d := d) hupdated (Identifier.escaped sourceAlias)
  have htable : Clause.render d { keyword := "UPDATE " ++ table } = .ok ("UPDATE " ++ table) := rfl
  have hupdate := compose_eq (.cons htable (.cons hset
    (.cons (render_sourceLine source) (.cons hmatch
      (.cons (render_raw "RETURNING" (table ++ ".*")) .nil)))))
  refine ⟨_, ?_, render_raw "WITH" (Identifier.escaped updatedAlias ++ " AS " ++
    blockText (updateText d table source key updated))⟩
  rw [updatedRows, hcondition, ok_bind, hupdate]
  rfl

end SqlDialects
