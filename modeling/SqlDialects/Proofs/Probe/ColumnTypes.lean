-- SUMMARY: The lookup of column types: which statements it runs, when it gives an answer, and what the answer is.
import Mathlib.Data.List.Forall2
import SqlDialects.Probe.ColumnTypes
import SqlDialects.Proofs.Lists
import SqlDialects.Proofs.Steps

/-!
# Looking column types up

A column has the type name that the registry has for its number, or else the one of
the catalog. The catalog is asked only for numbers the registry has no name for, and
only when there are any. A lookup has an answer exactly when no statement fails and
every number has a name in one of the two; all other lookups are refused, and those
on account of the driver are told apart from those that leave a number without a name.
-/

namespace SqlDialects

/-! ## Names of types -/

theorem TypeNames.name?_append (known further : TypeNames) (oid : Int) :
    (known ++ further).name? oid = (further.name? oid).or (known.name? oid) := by
  rw [name?, List.reverse_append, List.lookup_append]
  rfl

theorem TypeNames.mem_of_name? {names : TypeNames} {oid : Int} {name : String}
    (h : names.name? oid = some name) : (oid, name) ∈ names :=
  List.mem_reverse.1 (mem_of_lookup h)

theorem mem_namelessTypes {names : TypeNames} {columns : List (String × Int)} {oid : Int} :
    oid ∈ namelessTypes names columns ↔ oid ∈ columns.map (·.2) ∧ names.name? oid = none := by
  rw [namelessTypes, mem_sorted, List.mem_filter, Option.isNone_iff_eq_none]

theorem namelessTypes_eq_nil_iff {names : TypeNames} {columns : List (String × Int)} :
    namelessTypes names columns = [] ↔
      ∀ column ∈ columns, (names.name? column.2).isSome = true := by
  simp only [List.eq_nil_iff_forall_not_mem, mem_namelessTypes, not_and, ← ne_eq,
    Option.ne_none_iff_isSome, List.forall_mem_map]

/-- Columns of different names are listed in their order, each with the name of its type. -/
theorem forall₂_columnTypes {names : TypeNames} {columns : List (String × Int)}
    {name? : Int → Option String} (hcolumns : (columns.map (·.1)).Nodup)
    (hname : ∀ oid ∈ columns.map (·.2), names.name? oid = name? oid)
    (hsome : namelessTypes names columns = []) :
    List.Forall₂ (fun column entry => entry.1 = column.1 ∧ name? column.2 = some entry.2)
      columns (columnTypes names columns) := by
  have hdistinct : (NameTable.names (columns.map fun column =>
      (column.1, (names.name? column.2).getD ""))).Nodup := by
    rw [NameTable.names, List.map_map]
    exact hcolumns
  have hentries : columnTypes names columns = columns.map fun column =>
      (column.1, (names.name? column.2).getD "") := NameTable.ofList_of_nodup hdistinct
  rw [hentries, List.forall₂_map_right_iff, List.forall₂_same]
  intro column hcolumn
  obtain ⟨name, hfound⟩ :=
    Option.isSome_iff_exists.1 (namelessTypes_eq_nil_iff.1 hsome column hcolumn)
  rw [← hname column.2 (List.mem_map_of_mem hcolumn)]
  simp [hfound]

/-! ## Statements of a session -/

namespace ProbeSession

variable (s : ProbeSession) (c : Connection)

@[simp] theorem statements_emit (e : ProbeEvent) :
    (s.emit e).statements = s.statements ++ e.statement?.toList := by
  cases h : e.statement? <;> simp [emit, statements, h]

@[simp] theorem statements_tick : s.tick.1.statements = s.statements := by
  rw [statements, events_tick, statements]

@[simp] theorem statements_log (r : LogRecord) : (s.log r).statements = s.statements := by
  rw [log, emitUnder, statements_emit]
  exact List.append_nil _

@[simp] theorem statements_emitUnder_ran (sql : String) (params : Value) :
    (s.emitUnder (.ran · sql params)).statements = s.statements ++ [(sql, params)] := by
  rw [emitUnder, statements_emit]
  rfl

@[simp] theorem statements_timed (threshold : Number) (name sql : String) (params logged : Value) :
    (s.timed threshold c name sql params logged).1.statements =
      s.statements ++ [(sql, params)] := by
  simp [timed, execute]

end ProbeSession

namespace Connection

/-- The columns of a result, none where there is no result. -/
def described (c : Connection) : List (String × Int) := c.columns.getD []

/-- The statement of a number fails. -/
def fails (c : Connection) (number : Nat) : Bool := c.failing == some number

/-- The number of a column's type, when the registry has no name for it. -/
def Lacks (c : Connection) (driver : TypeNames) (oid : Int) : Prop :=
  oid ∈ c.described.map (·.2) ∧ (Prober.knownNames driver c).name? oid = none

/-- The name of a type: the registry's, or else the catalog's. -/
def typeName? (c : Connection) (driver : TypeNames) (oid : Int) : Option String :=
  ((Prober.knownNames driver c).name? oid).or (c.catalog.name? oid)

end Connection

theorem ProbeSession.succeeded_timed (s : ProbeSession) (c : Connection) (threshold : Number)
    (name sql : String) (params logged : Value) :
    (s.timed threshold c name sql params logged).2 = !c.fails (s.statements.length + 1) := by
  simp [timed, execute, Connection.fails, bne]

/-! ## Looking up -/

namespace Prober

variable (p : Prober) (s : ProbeSession) (c : Connection) (driver : TypeNames) (table : String)

/-- The catalog query for some numbers. -/
def catalogQuery (oids : List Int) : String × Value :=
  (typeNameSql, .tuple [.list (oids.map .whole)])

variable {known : TypeNames} {columns : List (String × Int)}

theorem lookUp_of_known (h : namelessTypes known columns = []) :
    p.lookUp s c known columns = (s, some known) := by
  rw [lookUp, h]

theorem statements_lookUp (h : namelessTypes known columns ≠ []) :
    (p.lookUp s c known columns).1.statements =
      s.statements ++ [catalogQuery (namelessTypes known columns)] := by
  rw [lookUp]
  split
  next hnil => exact absurd hnil h
  next => simp [catalogQuery]

theorem found_lookUp (h : namelessTypes known columns ≠ []) :
    (p.lookUp s c known columns).2 =
      if c.fails (s.statements.length + 1) then none else some (known ++ c.catalog) := by
  rw [lookUp]
  split
  next hnil => exact absurd hnil h
  next =>
    simp only [ProbeSession.succeeded_timed, ProbeSession.statements_log]
    cases c.fails (s.statements.length + 1) <;> rfl

/-- The numbers that the catalog is asked for. -/
def missing (driver : TypeNames) (c : Connection) : List Int :=
  namelessTypes (knownNames driver c) c.described

/-- The statements that are run after a number of others: the one without rows, and
    unless it fails the catalog query where it is needed. -/
def statementsRun (before : Nat) (c : Connection) (driver : TypeNames) (table : String) :
    List (String × Value) :=
  (emptySelect table, .null) ::
    if c.fails (before + 1) = true ∨ missing driver c = [] then []
    else [catalogQuery (missing driver c)]

/-- The names that are found: the registry's where they are enough, and else also the
    catalog's, unless a statement fails. -/
def foundNames (before : Nat) (c : Connection) (driver : TypeNames) : Option TypeNames :=
  if c.fails (before + 1) then none
  else if missing driver c = [] then some (knownNames driver c)
  else if c.fails (before + 2) then none
  else some (knownNames driver c ++ c.catalog)

/-- The session after the statement without rows. -/
def selected (p : Prober) (s : ProbeSession) (c : Connection) (table : String) : ProbeSession :=
  (s.timed p.threshold c "postgres.column_types" (emptySelect table) .null .null).1

theorem statements_selected :
    (p.selected s c table).statements = s.statements ++ [(emptySelect table, .null)] :=
  s.statements_timed c _ _ _ _ _

theorem read_of_fails (h : c.fails (s.statements.length + 1) = true) :
    p.read s c driver table = (p.selected s c table, none) := by
  simp [read, selected, ProbeSession.succeeded_timed, h]

theorem read_of_succeeds (h : c.fails (s.statements.length + 1) = false) :
    p.read s c driver table =
      let looked := p.lookUp (p.selected s c table) c (knownNames driver c) c.described
      (looked.1, looked.2.map fun names => (c.described, names)) := by
  simp [read, selected, ProbeSession.succeeded_timed, h, Connection.described]

theorem statements_read : (p.read s c driver table).1.statements =
    s.statements ++ statementsRun s.statements.length c driver table := by
  rw [statementsRun, missing]
  cases hfirst : c.fails (s.statements.length + 1) with
  | true => simp [read_of_fails, hfirst, statements_selected]
  | false =>
    rw [read_of_succeeds p s c driver table hfirst]
    by_cases hknown : namelessTypes (knownNames driver c) c.described = []
    · simp [lookUp_of_known, hknown, statements_selected]
    · simp [statements_lookUp, hknown, statements_selected]

theorem found_read : (p.read s c driver table).2 =
    (foundNames s.statements.length c driver).map fun names => (c.described, names) := by
  rw [foundNames, missing]
  cases hfirst : c.fails (s.statements.length + 1) with
  | true => simp [read_of_fails, hfirst]
  | false =>
    rw [read_of_succeeds p s c driver table hfirst]
    by_cases hknown : namelessTypes (knownNames driver c) c.described = []
    · simp [lookUp_of_known, hknown]
    · simp [found_lookUp, hknown, statements_selected]

/-- Opening and closing a cursor runs no statement. -/
theorem statements_probe (h : c.opens = true) : (p.probe s c driver table).1.statements =
    s.statements ++ statementsRun s.statements.length c driver table := by
  rw [probe, if_pos h]
  simp [statements_read, ProbeEvent.statement?]

theorem found_probe (h : c.opens = true) : (p.probe s c driver table).2 =
    (foundNames s.statements.length c driver).map fun names => (c.described, names) := by
  rw [probe, if_pos h]
  simp [found_read, ProbeEvent.statement?]

/-- What comes of the names that are found. -/
def outcome (c : Connection) (table : String) :
    Option TypeNames → Except ProbeError (List (String × String))
  | none => .error (.readFailed table)
  | some names =>
    match namelessTypes names c.described with
    | [] => .ok (SqlDialects.columnTypes names c.described)
    | unresolved => .error (.unknownTypes table unresolved)

theorem statements_columnTypes (hdriver : p.driver = some driver) (h : c.opens = true) :
    (p.columnTypes s c table).1.statements =
      s.statements ++ statementsRun s.statements.length c driver table := by
  have hprobe := p.statements_probe { s with journal := (s.journal.enter none).1 } c driver table h
  rw [columnTypes, hdriver]
  dsimp only
  split
  next => exact hprobe
  next =>
    split
    · exact hprobe
    · exact hprobe

theorem result_columnTypes (hdriver : p.driver = some driver) (h : c.opens = true) :
    (p.columnTypes s c table).2 = outcome c table (foundNames s.statements.length c driver) := by
  have hprobe := p.found_probe { s with journal := (s.journal.enter none).1 } c driver table h
  have hcount : ProbeSession.statements { s with journal := (s.journal.enter none).1 } =
    s.statements := rfl
  rw [hcount] at hprobe
  rw [columnTypes, hdriver]
  dsimp only
  rw [hprobe]
  cases foundNames s.statements.length c driver with
  | none => rfl
  | some names =>
    rw [Option.map_some, outcome]
    dsimp only
    cases namelessTypes names c.described with
    | nil => rfl
    | cons => rfl

variable {c driver}

theorem mem_missing {oid : Int} : oid ∈ missing driver c ↔ c.Lacks driver oid := mem_namelessTypes

theorem foundNames_eq_none_iff {before : Nat} : foundNames before c driver = none ↔
    c.fails (before + 1) = true ∨ missing driver c ≠ [] ∧ c.fails (before + 2) = true := by
  unfold foundNames
  split
  next h => simp [h]
  next h =>
    split
    next hknown => simp [h, hknown]
    next hknown =>
      split
      next hsecond => simp [hknown, hsecond]
      next hsecond => simp [h, hsecond]

/-- A catalog of numbers that the registry lacks has no name for one that it knows. -/
theorem name?_catalog_of_known (hrows : ∀ row ∈ c.catalog, c.Lacks driver row.1) {oid : Int}
    {name : String} (hname : (knownNames driver c).name? oid = some name) :
    c.catalog.name? oid = none := by
  by_contra hlisted
  obtain ⟨other, hother⟩ := Option.ne_none_iff_exists'.1 hlisted
  have hlacks := (hrows _ (TypeNames.mem_of_name? hother)).2
  rw [hname] at hlacks
  cases hlacks

/-- Among the names that are found a number has the registry's name, or else the
    catalog's: the catalog was only asked for numbers that the registry lacks. -/
theorem name?_of_foundNames
    (hcatalog : (∃ oid, c.Lacks driver oid) → ∀ row ∈ c.catalog, c.Lacks driver row.1)
    {before : Nat} {names : TypeNames} (hfound : foundNames before c driver = some names)
    {oid : Int} (hoid : oid ∈ c.described.map (·.2)) :
    names.name? oid = c.typeName? driver oid := by
  have hnever : ¬ c.fails (before + 1) = true := fun hfirst => by
    simp [foundNames, hfirst] at hfound
  rw [foundNames, if_neg hnever] at hfound
  rw [Connection.typeName?]
  cases hname : (knownNames driver c).name? oid with
  | none =>
    have hmissing : oid ∈ missing driver c := mem_missing.2 ⟨hoid, hname⟩
    rw [if_neg (List.ne_nil_of_mem hmissing)] at hfound
    split at hfound
    · cases hfound
    · cases hfound
      rw [TypeNames.name?_append, hname, Option.or_none, Option.none_or]
  | some name =>
    rw [Option.some_or]
    split at hfound
    next =>
      cases hfound
      exact hname
    next hmissing =>
      split at hfound
      next => cases hfound
      next =>
        cases hfound
        obtain ⟨lacking, hlacking⟩ := List.exists_mem_of_ne_nil _ hmissing
        have hrows := hcatalog ⟨lacking, mem_missing.1 hlacking⟩
        rw [TypeNames.name?_append, name?_catalog_of_known hrows hname, hname, Option.none_or]

/-- The statement without rows is run, and then the catalog query for exactly the
    numbers that the registry lacks, sorted and each once, when there are any. The lookup
    has an answer exactly when neither fails and every column's type has a name in the
    registry or the catalog. The answer lists the columns in their order, each with the
    registry's name or else the catalog's. Every other lookup is refused by an execution
    error, which stems from the driver exactly when a statement failed. -/
theorem columnTypes_correct {p : Prober} {driver : TypeNames} (hdriver : p.driver = some driver)
    {c : Connection} (hopens : c.opens = true) (hcolumns : (c.described.map (·.1)).Nodup)
    (hcatalog : (∃ oid, c.Lacks driver oid) → ∀ row ∈ c.catalog, c.Lacks driver row.1)
    (s : ProbeSession) (table : String) :
    ∃ missing : List Int, missing.Pairwise (· < ·) ∧ (∀ oid, oid ∈ missing ↔ c.Lacks driver oid) ∧
      (p.columnTypes s c table).1.statements = s.statements ++ (emptySelect table, .null) ::
        (if c.fails (s.statements.length + 1) = true ∨ missing = [] then []
          else [(typeNameSql, .tuple [.list (missing.map .whole)])]) ∧
      ((∃ types, (p.columnTypes s c table).2 = .ok types) ↔
        ¬ (c.fails (s.statements.length + 1) = true ∨
          missing ≠ [] ∧ c.fails (s.statements.length + 2) = true) ∧
        ∀ column ∈ c.described, (c.typeName? driver column.2).isSome = true) ∧
      (∀ types, (p.columnTypes s c table).2 = .ok types →
        List.Forall₂ (fun column entry =>
          entry.1 = column.1 ∧ c.typeName? driver column.2 = some entry.2) c.described types) ∧
      ∀ e, (p.columnTypes s c table).2 = .error e → e.isConfiguration = false ∧
        (e.isFromDriver = true ↔ c.fails (s.statements.length + 1) = true ∨
          missing ≠ [] ∧ c.fails (s.statements.length + 2) = true) := by
  refine ⟨missing driver c, pairwise_lt_sorted _, fun oid => mem_missing,
    p.statements_columnTypes s c driver table hdriver hopens, ?_⟩
  rw [← foundNames_eq_none_iff, p.result_columnTypes s c driver table hdriver hopens]
  cases hfound : foundNames s.statements.length c driver with
  | none =>
    refine ⟨?_, ?_, ?_⟩
    · simp [outcome]
    · intro types htypes
      cases htypes
    · intro e he
      cases he
      simp [ProbeError.isConfiguration, ProbeError.isFromDriver]
  | some names =>
    have hname : ∀ oid ∈ c.described.map (·.2), names.name? oid = c.typeName? driver oid :=
      fun oid => name?_of_foundNames hcatalog hfound
    have hcomplete : namelessTypes names c.described = [] ↔
        ∀ column ∈ c.described, (c.typeName? driver column.2).isSome = true := by
      rw [namelessTypes_eq_nil_iff]
      refine forall₂_congr fun column hcolumn => ?_
      rw [hname column.2 (List.mem_map_of_mem hcolumn)]
    rw [← hcomplete, outcome]
    split
    next hsome =>
      refine ⟨by simp [hsome], ?_, nofun⟩
      intro types htypes
      cases htypes
      exact forall₂_columnTypes hcolumns hname hsome
    next hnone =>
      have hnameless : namelessTypes names c.described ≠ [] := hnone
      refine ⟨by simp [hnameless], nofun, ?_⟩
      intro e he
      cases he
      simp [ProbeError.isConfiguration, ProbeError.isFromDriver]

/-- Two columns of a type that only the catalog knows, beside one that the driver knows. -/
def taggedRows : Connection where
  columns := some [("id", 23), ("tags", 99001), ("labels", 99001)]
  catalog := [(99001, "citext")]

theorem columnTypes_correct_taggedRows :
    (taggedRows.described.map (·.1)).Nodup ∧
      (∀ row ∈ taggedRows.catalog, taggedRows.Lacks [(23, "int4")] row.1) ∧
      ∃ types, (columnTypes { dialect := .standard .postgres, driver := some [(23, "int4")] }
        { journal := {} } taggedRows "Users").2 = .ok types := by
  have hcolumns : (taggedRows.described.map (·.1)).Nodup := by decide
  have hcatalog : ∀ row ∈ taggedRows.catalog, taggedRows.Lacks [(23, "int4")] row.1 := by
    intro row hrow
    cases List.mem_singleton.1 hrow
    exact ⟨by decide, rfl⟩
  obtain ⟨missing, _, _, _, hanswer, _⟩ :=
    columnTypes_correct (p := { dialect := .standard .postgres, driver := some [(23, "int4")] })
      rfl rfl hcolumns (fun _ => hcatalog) { journal := {} } "Users"
  have hsucceed (number : Nat) : taggedRows.fails number = false := rfl
  refine ⟨hcolumns, hcatalog, hanswer.2 ⟨by simp [hsucceed], ?_⟩⟩
  decide

end Prober

end SqlDialects
