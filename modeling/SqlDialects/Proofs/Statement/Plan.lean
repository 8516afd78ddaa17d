-- SUMMARY: A row statement first settles what it writes, which may be refused, and then writes it, which never is.
import SqlDialects.Proofs.Statement.Lines

/-!
# Plans of row statements

The arguments of a row statement are checked one after the other. What they come to
is a plan: the names that are written and the way to write them. A plan does not
depend on the source, and writing it cannot fail, so the statement is the text of its
plan and refuses just what the plan refuses.
-/

namespace SqlDialects

/-! ## Returned columns -/

def returnedText (table : String) (column : Value) : Except Error String :=
  if column.equalsText "*" then .ok (table ++ ".*")
  else do return qualifiedText table (← column.asText)

/-- The texts of the returned columns, if there are any to return. -/
def returnedTexts (d : Dialect) (table : String) (columns : Value) :
    Except Error (Option (List String)) :=
  if !columns.isTruthy then .ok none
  else if d.capabilities.returning then do
    return some (← (← columns.items).mapM (returnedText (Identifier.table table)))
  else .error (.unsupportedArgument "returning_cols" .null (some d.displayName))

def returningOf (texts : List String) : Clause where
  keyword := "RETURNING"
  items := texts.map .raw

/-! ## Inserts -/

/-- What an insert writes. -/
structure InsertPlan where
  table : String
  columns : List String
  conflict : ConflictAction
  method : Method
  /-- The names of the key; none when conflicts are not handled. -/
  key : List String
  returning : Option (List String)

def insertPlan (d : Dialect) (r : InsertRequest) : Except Error InsertPlan := do
  let conflict ← ConflictAction.ofValue r.conflict
  let method ← d.resolveMethod .insert r.method
  let columns ← requiredColumns "insert_cols" r.columns
  let key ← insertKey r conflict
  if method ≠ .onConflict then discard (handledNames key conflict)
  let returning ← returnedTexts d r.table r.returning
  let columns ← Value.names columns
  let key ← handledNames key conflict
  return ⟨Identifier.table r.table, columns, conflict, method, key, returning⟩

namespace InsertPlan

def conflictLines (p : InsertPlan) : List String :=
  match p.conflict with
  | .error => []
  | .ignore =>
    if p.method = .onConflict then [targetLine p.key, "DO NOTHING"]
    else [probeLine p.table p.key]

def lines (p : InsertPlan) (d : Dialect) (source : String) : List String :=
  [insertLine p.table p.columns, "SELECT *", sourceLine d source] ++ p.conflictLines ++
    p.returning.toList.map returningLine

def text (p : InsertPlan) (d : Dialect) (source : String) : String :=
  "\n".intercalate (p.lines d source)

def record (p : InsertPlan) (r : InsertRequest) : LogRecord :=
  .debug "query.rows" ("Built insert into " ++ r.table ++ " using " ++ p.method.text ++
    " (conflict=" ++ r.conflict.bareText ++ ")")

end InsertPlan

/-! ## Upserts -/

/-- What an upsert writes. -/
structure UpsertPlan where
  table : String
  method : Method
  key : List String
  updated : List String
  returning : Option (List String)

def upsertPlan (d : Dialect) (r : UpsertRequest) : Except Error UpsertPlan := do
  let method ← d.resolveMethod .upsert r.method
  let key ← requiredColumns "by" r.key
  let updated ← requiredColumns "update_cols" r.updated
  let common ← overlap key updated
  if !common.isEmpty then throw (.invalidArgument "update_cols" .null (.keyUpdated common))
  let updated ← Value.names updated
  if method ≠ .onConflict then discard (Value.names key)
  let returning ← returnedTexts d r.table r.returning
  let key ← Value.names key
  return ⟨Identifier.table r.table, method, key, updated, returning⟩

namespace UpsertPlan

def columns (p : UpsertPlan) : List String := p.key ++ p.updated

def nativeLines (p : UpsertPlan) (d : Dialect) (source : String) : List String :=
  [insertLine p.table p.columns, selectLine p.columns, sourceLine d source, "WHERE true",
    targetLine p.key, "DO UPDATE", setLine "excluded" p.updated]

def generalLines (p : UpsertPlan) (d : Dialect) (source : String) : List String :=
  [updateLine d p.table source p.key p.updated, insertLine p.table p.columns,
    selectLine p.columns, sourceLine d source, probeLine (Identifier.escaped updatedAlias) p.key]

def lines (p : UpsertPlan) (d : Dialect) (source : String) : List String :=
  (if p.method = .onConflict then p.nativeLines d source else p.generalLines d source) ++
    p.returning.toList.map returningLine

def text (p : UpsertPlan) (d : Dialect) (source : String) : String :=
  "\n".intercalate (p.lines d source)

def record (p : UpsertPlan) (r : UpsertRequest) : LogRecord :=
  .debug "query.rows" ("Built upsert into " ++ r.table ++ " using " ++ p.method.text)

end UpsertPlan

/-! ## Accepted arguments -/

variable {d : Dialect}

theorem requiredColumns_ne_nil {argument : String} {v : Value} {columns : List Value}
    (h : requiredColumns argument v = .ok columns) : columns ≠ [] := by
  have hchecked {listed : Except Error (List Value)} (h : (do
      let columns ← listed
      if columns.isEmpty then throw (Error.invalidArgument argument .null .noColumns)
      else return columns) = Except.ok columns) : columns ≠ [] := by
    obtain ⟨listed, _, hlisted⟩ := bind_eq_ok_iff.1 h
    split at hlisted
    next => cases hlisted
    next hne =>
      cases hlisted
      simpa using hne
  simp only [requiredColumns] at h
  split at h
  · exact hchecked h
  · exact hchecked h

/-- What counts as true and can be gone through has an item. -/
theorem items_ne_nil {v : Value} {items : List Value} (htruthy : v.isTruthy = true)
    (h : v.items = .ok items) : items ≠ [] := by
  cases v with
  | list vs =>
    cases h
    simpa [Value.isTruthy] using htruthy
  | tuple vs =>
    cases h
    simpa [Value.isTruthy] using htruthy
  | scalar s =>
    cases s with
    | text s =>
      cases h
      simpa [Value.isTruthy, Scalar.isTruthy, characters] using htruthy
    | bytes bs =>
      cases h
      simpa [Value.isTruthy, Scalar.isTruthy] using htruthy
    | _ => cases h
  | _ => cases h

/-- There are as many names as columns. -/
theorem names_ne_nil {columns : List Value} {names : List String} (hne : columns ≠ [])
    (h : Value.names columns = .ok names) : names ≠ [] := by
  have hlength := (mapM_eq_ok_iff.1 h).length_eq
  rw [← List.length_pos_iff] at hne ⊢
  omega

theorem returningClause_eq (d : Dialect) (table : String) (columns : Value) :
    returningClause d table columns = do
      let texts ← returnedTexts d table columns
      return texts.map returningOf := by
  have hcolumn (table : String) (column : Value) : returnedColumn table column = do
      let text ← returnedText table column
      return .raw text := by
    rw [returnedColumn, returnedText]
    split
    · rfl
    · cases column.asText <;> rfl
  have hcolumns (table : String) (columns : List Value) :
      columns.mapM (returnedColumn table) = do
        let texts ← columns.mapM (returnedText table)
        return texts.map .raw := by
    induction columns with
    | nil => rfl
    | cons column columns ih =>
      rw [List.mapM_cons, List.mapM_cons, hcolumn, ih]
      cases returnedText table column with
      | error => rfl
      | ok => cases columns.mapM (returnedText table) <;> rfl
  rw [returningClause, returnedTexts]
  split
  · rfl
  · split
    · simp only [bind_assoc, hcolumns, pure_bind]
      rfl
    · rfl

/-- A clause is there only with columns in it. -/
theorem returnedTexts_ne_nil {table : String} {columns : Value} {texts : List String}
    (h : returnedTexts d table columns = .ok (some texts)) : texts ≠ [] := by
  rw [returnedTexts] at h
  split at h
  · cases h
  · next htruthy =>
    split at h
    · obtain ⟨items, hitems, h⟩ := bind_eq_ok_iff.1 h
      obtain ⟨texts', htexts, h⟩ := bind_eq_ok_iff.1 h
      cases h
      have hlength := (mapM_eq_ok_iff.1 htexts).length_eq
      have hne := items_ne_nil (by simpa using htruthy) hitems
      rw [← List.length_pos_iff] at hne ⊢
      omega
    · cases h

/-- The texts are those of columns, and the dialect knows the clause. -/
theorem mem_returnedTexts {table : String} {columns : Value} {texts : List String}
    (h : returnedTexts d table columns = .ok (some texts)) :
    d.capabilities.returning = true ∧ ∀ text ∈ texts, text = Identifier.table table ++ ".*" ∨
      ∃ column, text = qualifiedText (Identifier.table table) column := by
  rw [returnedTexts] at h
  split at h
  · cases h
  · split at h
    next hflag =>
      obtain ⟨items, _, h⟩ := bind_eq_ok_iff.1 h
      obtain ⟨texts', htexts, h⟩ := bind_eq_ok_iff.1 h
      cases h
      refine ⟨hflag, fun text htext => ?_⟩
      obtain ⟨column, _, hcolumn⟩ := exists_of_mem_right (mapM_eq_ok_iff.1 htexts) htext
      rw [returnedText] at hcolumn
      split at hcolumn
      · cases hcolumn
        exact .inl rfl
      · obtain ⟨name, _, hcolumn⟩ := bind_eq_ok_iff.1 hcolumn
        cases hcolumn
        exact .inr ⟨name, rfl⟩
    · cases h

/-- A clause of returned columns is written as a line, if there is one. -/
theorem render_returning {table : String} {columns : Value} {returning : Option (List String)}
    (h : returnedTexts d table columns = .ok returning) :
    List.Forall₂ (fun c line => Clause.render d c = .ok line)
      (returning.map returningOf).toList (returning.toList.map returningLine) := by
  cases returning with
  | none => exact .nil
  | some texts =>
    have hitems : renderAll d (texts.map .raw) = .ok (texts.map id) :=
      renderAll_map (fun text => by rw [Expr.render, id]) texts
    rw [List.map_id] at hitems
    exact .cons (render_clause (returnedTexts_ne_nil h) hitems) .nil

/-! ## Writing an insert -/

/-- A plan holds what the arguments of an insert come to. -/
structure InsertPlan.Fits (d : Dialect) (r : InsertRequest) (p : InsertPlan) : Prop where
  table_eq : p.table = Identifier.table r.table
  conflict : ConflictAction.ofValue r.conflict = .ok p.conflict
  method : d.resolveMethod .insert r.method = .ok p.method
  columns : ∃ columns, requiredColumns "insert_cols" r.columns = .ok columns ∧
    Value.names columns = .ok p.columns
  key : ∃ key, insertKey r p.conflict = .ok key ∧ handledNames key p.conflict = .ok p.key
  returning : returnedTexts d r.table r.returning = .ok p.returning

namespace InsertPlan.Fits

variable {r : InsertRequest} {p : InsertPlan}

theorem columns_ne (h : p.Fits d r) : p.columns ≠ [] := by
  obtain ⟨columns, hcolumns, hnames⟩ := h.columns
  exact names_ne_nil (requiredColumns_ne_nil hcolumns) hnames

theorem key_ne (h : p.Fits d r) (hconflict : p.conflict = .ignore) : p.key ≠ [] := by
  obtain ⟨key, hkey, hnames⟩ := h.key
  rw [hconflict] at hkey hnames
  obtain ⟨listed, _, hkey⟩ := bind_eq_ok_iff.1 hkey
  exact names_ne_nil (requiredColumns_ne_nil hkey) hnames

/-- What is said of conflicts is written on the plan's lines for it. -/
theorem conflictClauses_eq (h : p.Fits d r) :
    ∃ clauses, conflictClauses d p.table p.method p.key p.conflict = .ok clauses ∧
      List.Forall₂ (fun c line => Clause.render d c = .ok line) clauses p.conflictLines := by
  cases hconflict : p.conflict with
  | error =>
    refine ⟨[], rfl, ?_⟩
    rw [conflictLines, hconflict]
    exact .nil
  | ignore =>
    rw [conflictClauses, conflictLines, hconflict]
    split
    · exact ⟨_, rfl, .cons (render_conflictTarget p.key) (.cons rfl .nil)⟩
    · obtain ⟨clause, hclause, hline⟩ := whereNotExists_eq (d := d) (h.key_ne hconflict) p.table
      refine ⟨[clause], ?_, .cons hline .nil⟩
      rw [hclause]
      rfl

theorem write_eq (h : p.Fits d r) (record : LogRecord) :
    (do
      let handling ← conflictClauses d p.table p.method p.key p.conflict
      let text ← Clause.compose d ([insertInto p.table p.columns,
        { keyword := "SELECT", items := [.star none] }, fromSource d r.source] ++ handling ++
        (p.returning.map returningOf).toList)
      return (text, record)) = .ok (p.text d r.source, record) := by
  obtain ⟨clauses, hclauses, hlines⟩ := h.conflictClauses_eq
  have hstar : (Expr.star none).render d = .ok "*" := by rw [Expr.render, qualifiedName]
  have hselect : Clause.render d { keyword := "SELECT", items := [.star none] } =
      .ok "SELECT *" := render_item hstar "SELECT"
  have hfirst : List.Forall₂ (fun c line => Clause.render d c = .ok line)
      [insertInto p.table p.columns, { keyword := "SELECT", items := [.star none] },
        fromSource d r.source]
      [insertLine p.table p.columns, "SELECT *", sourceLine d r.source] :=
    .cons (render_insertInto h.columns_ne p.table)
      (.cons hselect (.cons (render_sourceLine r.source) .nil))
  have htext := compose_eq
    (List.rel_append (List.rel_append hfirst hlines) (render_returning h.returning))
  rw [hclauses, ok_bind, htext]
  rfl

end InsertPlan.Fits

/-- An insert is the text of its plan, and is refused where its plan is. -/
theorem insertStatement_eq (d : Dialect) (r : InsertRequest) :
    insertStatement d r = do
      let p ← insertPlan d r
      return (p.text d r.source, p.record r) := by
  simp only [insertStatement, insertPlan, bind_assoc, returningClause_eq]
  refine bind_congr_ok fun conflict hconflict => ?_
  refine bind_congr_ok fun method hmethod => ?_
  refine bind_congr_ok fun columns hcolumns => ?_
  refine bind_congr_ok fun key hkey => ?_
  split
  on_goal 1 =>
    simp only [bind_assoc]
    refine bind_congr_ok fun _ _ => ?_
  all_goals
    simp only [bind_assoc, pure_bind]
    refine bind_congr_ok fun returning hreturning => ?_
    refine bind_congr_ok fun columns' hcolumns' => ?_
    refine bind_congr_ok fun key' hkey' => ?_
    exact InsertPlan.Fits.write_eq
      (p := ⟨Identifier.table r.table, columns', conflict, method, key', returning⟩)
      ⟨rfl, hconflict, hmethod, ⟨columns, hcolumns, hcolumns'⟩, ⟨key, hkey, hkey'⟩, hreturning⟩ _

theorem InsertPlan.fits {r : InsertRequest} {p : InsertPlan} (h : insertPlan d r = .ok p) :
    p.Fits d r := by
  simp only [insertPlan, bind_eq_ok_iff] at h
  obtain ⟨conflict, hconflict, method, hmethod, columns, hcolumns, key, hkey, h⟩ := h
  have hlast (h : (do
      let returning ← returnedTexts d r.table r.returning
      let columns ← Value.names columns
      let key ← handledNames key conflict
      return InsertPlan.mk (Identifier.table r.table) columns conflict method key returning)
        = Except.ok p) : p.Fits d r := by
    simp only [bind_eq_ok_iff, pure_eq_ok_iff] at h
    obtain ⟨returning, hreturning, columns', hcolumns', key', hkey', rfl⟩ := h
    exact ⟨rfl, hconflict, hmethod, ⟨columns, hcolumns, hcolumns'⟩, ⟨key, hkey, hkey'⟩, hreturning⟩
  split at h
  · obtain ⟨_, _, h⟩ := bind_eq_ok_iff.1 h
    exact hlast h
  · exact hlast h

/-- Every text of an insert is that of a plan. -/
theorem exists_insertPlan {r : InsertRequest} {text : String} {record : LogRecord}
    (h : insertStatement d r = .ok (text, record)) :
    ∃ p, insertPlan d r = .ok p ∧ text = p.text d r.source ∧ record = p.record r := by
  rw [insertStatement_eq] at h
  obtain ⟨p, hp, h⟩ := bind_eq_ok_iff.1 h
  cases h
  exact ⟨p, hp, rfl, rfl⟩

/-- A plan is written for any source. -/
theorem insertStatement_of_plan {r : InsertRequest} {p : InsertPlan} (h : insertPlan d r = .ok p)
    (source : String) :
    insertStatement d { r with source } = .ok (p.text d source, p.record r) := by
  have hplan : insertPlan d { r with source } = .ok p := h
  rw [insertStatement_eq, hplan]
  rfl

/-! ## Writing an upsert -/

/-- A plan holds what the arguments of an upsert come to. -/
structure UpsertPlan.Fits (d : Dialect) (r : UpsertRequest) (p : UpsertPlan) : Prop where
  table_eq : p.table = Identifier.table r.table
  method : d.resolveMethod .upsert r.method = .ok p.method
  key : ∃ key, requiredColumns "by" r.key = .ok key ∧ Value.names key = .ok p.key
  updated : ∃ updated, requiredColumns "update_cols" r.updated = .ok updated ∧
    Value.names updated = .ok p.updated
  returning : returnedTexts d r.table r.returning = .ok p.returning

namespace UpsertPlan.Fits

variable {r : UpsertRequest} {p : UpsertPlan}

theorem key_ne (h : p.Fits d r) : p.key ≠ [] := by
  obtain ⟨key, hkey, hnames⟩ := h.key
  exact names_ne_nil (requiredColumns_ne_nil hkey) hnames

theorem updated_ne (h : p.Fits d r) : p.updated ≠ [] := by
  obtain ⟨updated, hupdated, hnames⟩ := h.updated
  exact names_ne_nil (requiredColumns_ne_nil hupdated) hnames

theorem columns_ne (h : p.Fits d r) : p.columns ≠ [] :=
  List.append_ne_nil_of_left_ne_nil h.key_ne _

/-- The clauses of an upsert are written on its plan's lines. -/
theorem upsertClauses_eq (h : p.Fits d r) :
    ∃ clauses, upsertClauses d p.table r.source p.method p.key p.updated = .ok clauses ∧
      List.Forall₂ (fun c line => Clause.render d c = .ok line) clauses
        (if p.method = .onConflict then p.nativeLines d r.source
          else p.generalLines d r.source) := by
  have hinsert := render_insertInto (d := d) h.columns_ne p.table
  have hselect := render_columns (d := d) h.columns_ne
  have hsource := render_sourceLine (d := d) r.source
  rw [upsertClauses]
  split
  · have htrue : (Expr.keyword "true").render d = .ok "true" := by rw [Expr.render]
    have hwhere : Clause.render d { keyword := "WHERE", items := [.keyword "true"] } =
        .ok "WHERE true" := render_item htrue "WHERE"
    exact ⟨_, rfl, .cons hinsert (.cons hselect (.cons hsource (.cons hwhere
      (.cons (render_conflictTarget p.key) (.cons rfl
        (.cons (render_setClause h.updated_ne "excluded") .nil))))))⟩
  · obtain ⟨update, hupdate, hfirst⟩ :=
      updatedRows_eq (d := d) h.key_ne h.updated_ne p.table r.source
    obtain ⟨remaining, hremaining, hlast⟩ :=
      whereNotExists_eq (d := d) h.key_ne (Identifier.escaped updatedAlias)
    rw [hupdate, ok_bind, hremaining]
    exact ⟨_, rfl, .cons hfirst (.cons hinsert (.cons hselect (.cons hsource
      (.cons hlast .nil))))⟩

theorem write_eq (h : p.Fits d r) (record : LogRecord) :
    (do
      let clauses ← upsertClauses d p.table r.source p.method p.key p.updated
      let text ← Clause.compose d (clauses ++ (p.returning.map returningOf).toList)
      return (text, record)) = .ok (p.text d r.source, record) := by
  obtain ⟨clauses, hclauses, hlines⟩ := h.upsertClauses_eq
  have htext := compose_eq (List.rel_append hlines (render_returning h.returning))
  rw [hclauses, ok_bind, htext]
  rfl

end UpsertPlan.Fits

/-- An upsert is the text of its plan, and is refused where its plan is. -/
theorem upsertStatement_eq (d : Dialect) (r : UpsertRequest) :
    upsertStatement d r = do
      let p ← upsertPlan d r
      return (p.text d r.source, p.record r) := by
  simp only [upsertStatement, upsertPlan, bind_assoc, returningClause_eq]
  refine bind_congr_ok fun method hmethod => ?_
  refine bind_congr_ok fun key hkey => ?_
  refine bind_congr_ok fun updated hupdated => ?_
  refine bind_congr_ok fun common hcommon => ?_
  split
  · rfl
  · simp only [bind_assoc, pure_bind]
    refine bind_congr_ok fun updated' hupdated' => ?_
    split
    on_goal 1 =>
      simp only [bind_assoc]
      refine bind_congr_ok fun _ _ => ?_
    all_goals
      simp only [bind_assoc, pure_bind]
      refine bind_congr_ok fun returning hreturning => ?_
      refine bind_congr_ok fun key' hkey' => ?_
      exact UpsertPlan.Fits.write_eq
        (p := ⟨Identifier.table r.table, method, key', updated', returning⟩)
        ⟨rfl, hmethod, ⟨key, hkey, hkey'⟩, ⟨updated, hupdated, hupdated'⟩, hreturning⟩ _

theorem UpsertPlan.fits {r : UpsertRequest} {p : UpsertPlan} (h : upsertPlan d r = .ok p) :
    p.Fits d r := by
  simp only [upsertPlan, bind_eq_ok_iff] at h
  obtain ⟨method, hmethod, key, hkey, updated, hupdated, common, _, h⟩ := h
  have hlast {updated' : List String} (hupdated' : Value.names updated = .ok updated') (h : (do
      let returning ← returnedTexts d r.table r.returning
      let key ← Value.names key
      return UpsertPlan.mk (Identifier.table r.table) method key updated' returning)
        = Except.ok p) : p.Fits d r := by
    simp only [bind_eq_ok_iff, pure_eq_ok_iff] at h
    obtain ⟨returning, hreturning, key', hkey', rfl⟩ := h
    exact ⟨rfl, hmethod, ⟨key, hkey, hkey'⟩, ⟨updated, hupdated, hupdated'⟩, hreturning⟩
  split at h
  · cases h
  · obtain ⟨updated', hupdated', h⟩ := bind_eq_ok_iff.1 h
    split at h
    · obtain ⟨_, _, h⟩ := bind_eq_ok_iff.1 h
      exact hlast hupdated' h
    · exact hlast hupdated' h

/-- Every text of an upsert is that of a plan. -/
theorem exists_upsertPlan {r : UpsertRequest} {text : String} {record : LogRecord}
    (h : upsertStatement d r = .ok (text, record)) :
    ∃ p, upsertPlan d r = .ok p ∧ text = p.text d r.source ∧ record = p.record r := by
  rw [upsertStatement_eq] at h
  obtain ⟨p, hp, h⟩ := bind_eq_ok_iff.1 h
  cases h
  exact ⟨p, hp, rfl, rfl⟩

/-- A plan is written for any source. -/
theorem upsertStatement_of_plan {r : UpsertRequest} {p : UpsertPlan} (h : upsertPlan d r = .ok p)
    (source : String) :
    upsertStatement d { r with source } = .ok (p.text d source, p.record r) := by
  have hplan : upsertPlan d { r with source } = .ok p := h
  rw [upsertStatement_eq, hplan]
  rfl

end SqlDialects
