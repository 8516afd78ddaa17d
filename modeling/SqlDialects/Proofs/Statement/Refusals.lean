-- SUMMARY: A row statement is refused by the first of its checks that fails, and is written when none does.
import SqlDialects.Proofs.Statement.Columns

/-!
# Refused row statements

Where columns are given as names, a row statement is refused for a few reasons only, and
these are checked in a fixed order: whether conflicts are handled in a way there is, the
method, the columns that must be there, and last what is returned. The checks are made
while the statement is planned and while its parts are written, and what is made between
them cannot fail. So the checks of a call can be listed beforehand, each with its error,
and the first that fails is what the call fails with.
-/

namespace SqlDialects

/-- A check: whether it fails, and the error that it then is. -/
abbrev Check := Bool × Error

/-- The error of the first check that fails. -/
def firstFailure : List Check → Option Error
  | [] => none
  | (fails, e) :: checks => if fails then some e else firstFailure checks

/-- A step fails with the first check that fails, and gives a result if none does. -/
structure RefusedBy {α : Type} (x : Except Error α) (checks : List Check) : Prop where
  refused : ∀ e, firstFailure checks = some e → x = .error e
  accepted : firstFailure checks = none → ∃ a, x = .ok a

section

variable {α β : Type} {x : Except Error α} {f : α → Except Error β} {checks later : List Check}

theorem firstFailure_append : firstFailure (checks ++ later) =
    (firstFailure checks).or (firstFailure later) := by
  induction checks with
  | nil => rfl
  | cons check checks ih =>
    obtain ⟨fails, e⟩ := check
    rw [List.cons_append, firstFailure, firstFailure, ih]
    cases fails <;> rfl

theorem refusedBy_ok (a : α) : RefusedBy (Except.ok a) [] := ⟨nofun, fun _ => ⟨a, rfl⟩⟩

theorem refusedBy_ite (fails : Bool) (e : Error) (a : α) :
    RefusedBy (if fails then .error e else .ok a) [(fails, e)] := by
  cases fails with
  | false => exact ⟨nofun, fun _ => ⟨a, rfl⟩⟩
  | true => exact ⟨fun _ h => congrArg _ (Option.some.inj h), nofun⟩

/-- A check can stop what comes after it. -/
theorem RefusedBy.guarded {fails : Bool} {e : Error} {stopped : Except Error α}
    (hstopped : stopped = .error e) (hx : RefusedBy x later) :
    RefusedBy (if fails then stopped else x) ([(fails, e)] ++ later) := by
  cases fails with
  | false => exact ⟨hx.refused, hx.accepted⟩
  | true => exact ⟨fun _ h => hstopped.trans (congrArg _ (Option.some.inj h)), nofun⟩

/-- Checks are made one after the other. -/
theorem RefusedBy.bind (hx : RefusedBy x checks)
    (hf : ∀ a, x = .ok a → RefusedBy (f a) later) : RefusedBy (x >>= f) (checks ++ later) := by
  cases hfirst : firstFailure checks with
  | some e =>
    rw [hx.refused e hfirst]
    refine ⟨fun e' h => ?_, fun h => ?_⟩
    · rw [firstFailure_append, hfirst] at h
      cases h
      rfl
    · rw [firstFailure_append, hfirst] at h
      cases h
  | none =>
    obtain ⟨a, rfl⟩ := hx.accepted hfirst
    have hlater : firstFailure (checks ++ later) = firstFailure later := by
      rw [firstFailure_append, hfirst]
      rfl
    exact ⟨fun e h => (hf a rfl).refused e (hlater ▸ h), fun h => (hf a rfl).accepted (hlater ▸ h)⟩

theorem firstFailure_eq_none_iff :
    firstFailure checks = none ↔ ∀ check ∈ checks, check.1 = false := by
  induction checks with
  | nil => simp [firstFailure]
  | cons check checks ih =>
    obtain ⟨fails, e⟩ := check
    cases fails <;> simp [firstFailure, ih]

theorem mem_of_firstFailure {e : Error} (h : firstFailure checks = some e) :
    (true, e) ∈ checks := by
  induction checks with
  | nil => cases h
  | cons check checks ih =>
    obtain ⟨fails, e'⟩ := check
    cases fails with
    | true =>
      cases h
      exact List.mem_cons_self
    | false => exact List.mem_cons_of_mem _ (ih h)

/-- A step gives a result exactly when no check fails. -/
theorem RefusedBy.exists_iff (h : RefusedBy x checks) :
    (∃ a, x = .ok a) ↔ ∀ check ∈ checks, check.1 = false := by
  rw [← firstFailure_eq_none_iff]
  refine ⟨?_, h.accepted⟩
  rintro ⟨a, rfl⟩
  cases hfirst : firstFailure checks with
  | none => rfl
  | some e => cases h.refused e hfirst

/-- What a step fails with is the error of a check that fails. -/
theorem RefusedBy.mem_of_error {e : Error} (h : RefusedBy x checks) (he : x = .error e) :
    (true, e) ∈ checks := by
  cases hfirst : firstFailure checks with
  | none =>
    obtain ⟨a, ha⟩ := h.accepted hfirst
    rw [he] at ha
    cases ha
  | some e' =>
    rw [h.refused e' hfirst] at he
    cases he
    exact mem_of_firstFailure hfirst

/-- Items are checked one after the other. -/
theorem RefusedBy.mapM {f : α → Except Error β} {checks : α → List Check} {xs : List α}
    (h : ∀ x ∈ xs, RefusedBy (f x) (checks x)) :
    RefusedBy (xs.mapM f) (xs.flatMap checks) := by
  induction xs with
  | nil => exact refusedBy_ok []
  | cons x xs ih =>
    obtain ⟨hx, hxs⟩ := List.forall_mem_cons.1 h
    have hmore := hx.bind fun y _ => (ih hxs).bind fun ys _ => refusedBy_ok (y :: ys)
    rw [List.append_nil] at hmore
    rw [List.mapM_cons, List.flatMap_cons]
    exact hmore

end

/-! ## Calls -/

/-- Columns as they are given: names, or nothing. -/
def columnArgument : Option (List String) → Value
  | none => .null
  | some names => .list (names.map .text)

/-- No column is given. -/
def namesNone (columns : Option (List String)) : Bool := (columns.getD []).isEmpty

/-- A call of an insert, with its columns by name. -/
structure InsertCall where
  table : String
  source : String
  columns : Option (List String)
  key : Option (List String) := none
  conflict : String := "error"
  returning : Option (List String) := none
  method : Value := .null

def InsertCall.request (c : InsertCall) : InsertRequest where
  table := c.table
  source := c.source
  columns := columnArgument c.columns
  key := columnArgument c.key
  conflict := .text c.conflict
  returning := columnArgument c.returning
  method := c.method

/-- A call of an upsert, with its columns by name. -/
structure UpsertCall where
  table : String
  source : String
  key : Option (List String)
  updated : Option (List String)
  returning : Option (List String) := none
  method : Value := .null

def UpsertCall.request (c : UpsertCall) : UpsertRequest where
  table := c.table
  source := c.source
  key := columnArgument c.key
  updated := columnArgument c.updated
  returning := columnArgument c.returning
  method := c.method

/-! ## Checks -/

/-- The method that is named, or the dialect's own, if the statement can be built by it. -/
def Dialect.chosenMethod? (d : Dialect) (statement : RowStatement) : Value → Option Method
  | .scalar .null => statement.methods.find? (· == d.defaultMethod statement)
  | .scalar (.text s) => statement.methods.find? (·.text == s)
  | _ => none

/-- The statement can be built by the method, and the dialect has the syntax for it. -/
def Dialect.methodChecks (d : Dialect) (statement : RowStatement) (method : Value) : List Check :=
  [((d.chosenMethod? statement method).isNone,
    .invalidArgument "method" (.texts (statement.methods.map Method.text)) .notAllowed),
   (d.chosenMethod? statement method = some .onConflict && !d.capabilities.onConflict,
    .configuration (.nativeMethod "on_conflict" d.displayName))]

def columnsCheck (argument : String) (columns : Option (List String)) : Check :=
  (namesNone columns, .invalidArgument argument .null .noColumns)

/-- Columns are returned only by a dialect that can. -/
def Dialect.returningCheck (d : Dialect) (returning : Option (List String)) : Check :=
  (!namesNone returning && !d.capabilities.returning,
    .unsupportedArgument "returning_cols" .null (some d.displayName))

/-- The checks of an insert, in their order. -/
def InsertCall.checks (d : Dialect) (c : InsertCall) : List Check :=
  [(c.conflict ≠ "error" && c.conflict ≠ "ignore",
    .invalidArgument "conflict" (.texts ["error", "ignore"]) .notAllowed)] ++
  d.methodChecks .insert c.method ++
  [columnsCheck "insert_cols" c.columns,
   (c.conflict = "ignore" && namesNone c.key, .invalidArgument "by" .null .noColumns),
   d.returningCheck c.returning]

/-- The columns of the key that are also updated. -/
def UpsertCall.common (c : UpsertCall) : List String :=
  (c.key.getD []).filter (c.updated.getD []).contains

/-- The checks of an upsert, in their order. -/
def UpsertCall.checks (d : Dialect) (c : UpsertCall) : List Check :=
  d.methodChecks .upsert c.method ++
  [columnsCheck "by" c.key,
   columnsCheck "update_cols" c.updated,
   (!c.common.isEmpty,
    .invalidArgument "update_cols" .null (.keyUpdated (c.common.eraseDups.mergeSort (· ≤ ·)))),
   d.returningCheck c.returning]

/-! ## Steps -/

theorem ofValue_text (s : String) : ConflictAction.ofValue (.text s) =
    if s = "ignore" then .ok .ignore
    else if s = "error" then .ok .error
    else .error (.invalidArgument "conflict" (.texts ["error", "ignore"]) .notAllowed) := by
  by_cases hignore : s = "ignore" <;> by_cases herror : s = "error" <;>
    simp [ConflictAction.ofValue, ConflictAction.text, ConflictAction.all, hignore, herror]

theorem refusedBy_conflict (s : String) : RefusedBy (ConflictAction.ofValue (.text s))
    [(s ≠ "error" && s ≠ "ignore",
      .invalidArgument "conflict" (.texts ["error", "ignore"]) .notAllowed)] := by
  rw [ofValue_text]
  by_cases hignore : s = "ignore"
  · subst hignore
    exact ⟨nofun, fun _ => ⟨_, rfl⟩⟩
  · by_cases herror : s = "error"
    · subst herror
      exact ⟨nofun, fun _ => ⟨_, rfl⟩⟩
    · simp only [hignore, herror, if_false]
      exact ⟨fun e h => by simpa [firstFailure, hignore, herror] using h,
        fun h => by simp [firstFailure, hignore, herror] at h⟩

theorem resolveMethod_eq (d : Dialect) (statement : RowStatement) (method : Value) :
    d.resolveMethod statement method = match d.chosenMethod? statement method with
      | none => .error (.invalidArgument "method"
          (.texts (statement.methods.map Method.text)) .notAllowed)
      | some m =>
        if m.isNative && !d.capabilities.onConflict then
          .error (.configuration (.nativeMethod m.text d.displayName))
        else .ok m := by
  have hdefault (m : Method) :
      statement.methods.find? (·.text == m.text) = statement.methods.find? (· == m) := by
    cases statement <;> cases m <;> rfl
  cases method with
  | scalar a =>
    cases a with
    | null =>
      rw [Dialect.resolveMethod, Dialect.chosenMethod?, ← hdefault]
      rfl
    | _ => rfl
  | _ => rfl

theorem refusedBy_resolveMethod (d : Dialect) (statement : RowStatement) (method : Value) :
    RefusedBy (d.resolveMethod statement method) (d.methodChecks statement method) := by
  rw [resolveMethod_eq, Dialect.methodChecks]
  cases d.chosenMethod? statement method with
  | none => exact ⟨fun e h => congrArg _ (Option.some.inj h), nofun⟩
  | some m =>
    cases m with
    | onConflict =>
      cases hflag : d.capabilities.onConflict with
      | false => exact ⟨fun e h => congrArg _ (Option.some.inj h), nofun⟩
      | true => exact ⟨nofun, fun _ => ⟨_, rfl⟩⟩
    | whereNotExists => exact ⟨nofun, fun _ => ⟨_, rfl⟩⟩
    | cteUpdate => exact ⟨nofun, fun _ => ⟨_, rfl⟩⟩

theorem requiredColumns_columnArgument (argument : String) (columns : Option (List String)) :
    requiredColumns argument (columnArgument columns) =
      if namesNone columns then .error (.invalidArgument argument .null .noColumns)
      else .ok ((columns.getD []).map .text) := by
  cases columns with
  | none => rfl
  | some names => cases names <;> rfl

theorem isSameColumn_texts (a b : String) :
    isSameColumn (.text a) (.text b) = .ok (a == b) := rfl

theorem anyOf_texts (a : String) (names : List String) :
    anyOf (isSameColumn (.text a)) (names.map .text) = .ok (names.contains a) := by
  induction names with
  | nil => rfl
  | cons b names ih =>
    rw [List.map_cons, anyOf, isSameColumn_texts, ok_bind, ih, List.contains_cons]
    cases a == b <;> rfl

theorem filterM_texts {p : Value → Except Error Bool} {q : String → Bool}
    (h : ∀ name, p (.text name) = .ok (q name)) (names : List String) :
    (names.map .text).filterM p = .ok ((names.filter q).map .text) := by
  have hloop (found : List Value) : (names.map .text).filterAuxM p found =
      .ok (((names.filter q).map .text).reverse ++ found) := by
    induction names generalizing found with
    | nil => rfl
    | cons name names ih =>
      rw [List.map_cons, List.filterAuxM, h, ok_bind, ih]
      cases hname : q name <;> simp [hname]
  rw [List.filterM, hloop, ok_bind, List.append_nil, List.reverse_reverse]
  rfl

theorem refusedBy_requiredColumns (argument : String) (columns : Option (List String)) :
    RefusedBy (requiredColumns argument (columnArgument columns))
      [columnsCheck argument columns] := by
  rw [requiredColumns_columnArgument]
  exact refusedBy_ite _ _ _

/-- Columns that are given by name are taken as names. -/
theorem eq_of_requiredColumns {argument : String} {columns : Option (List String)}
    {listed : List Value} (h : requiredColumns argument (columnArgument columns) = .ok listed) :
    listed = (columns.getD []).map .text := by
  rw [requiredColumns_columnArgument] at h
  split at h
  · cases h
  · exact (Except.ok.inj h).symm

theorem overlap_texts (key updated : List String) :
    overlap (key.map .text) (updated.map .text) =
      .ok ((key.filter updated.contains).eraseDups.mergeSort (· ≤ ·)) := by
  have hkey (names : List String) : (names.map Value.text).all Value.isKey = true := by
    rw [List.all_map]
    exact List.all_eq_true.2 fun _ _ => rfl
  have hkeys : (key.map Value.text ++ updated.map Value.text).all Value.isKey = true := by
    rw [List.all_append, hkey, hkey]
    rfl
  rw [overlap, hkeys, filterM_texts (fun name => anyOf_texts name updated), ok_bind, names_texts]
  rfl

theorem refusedBy_returnedTexts (d : Dialect) (table : String) (returning : Option (List String)) :
    RefusedBy (returnedTexts d table (columnArgument returning)) [d.returningCheck returning] := by
  cases returning with
  | none => exact ⟨nofun, fun _ => ⟨none, rfl⟩⟩
  | some names =>
    cases names with
    | nil => exact ⟨nofun, fun _ => ⟨none, rfl⟩⟩
    | cons name names =>
      have htruthy : (columnArgument (some (name :: names))).isTruthy = true := rfl
      have hcheck : d.returningCheck (some (name :: names)) = (!d.capabilities.returning,
          .unsupportedArgument "returning_cols" .null (some d.displayName)) := rfl
      rw [hcheck]
      cases hflag : d.capabilities.returning with
      | false =>
        rw [returnedTexts_refused htruthy hflag]
        exact ⟨fun e h => congrArg _ (Option.some.inj h), nofun⟩
      | true =>
        rw [returnedTexts_texts htruthy rfl hflag]
        exact ⟨nofun, fun _ => ⟨_, rfl⟩⟩

theorem insertKey_columnArgument (c : InsertCall) (conflict : ConflictAction) :
    insertKey c.request conflict =
      if conflict = .ignore && namesNone c.key then .error (.invalidArgument "by" .null .noColumns)
      else .ok ((c.key.getD []).map .text) := by
  have hlisted : listedColumns c.request.key = .ok ((c.key.getD []).map .text) := by
    cases hkey : c.key with
    | none => simp only [InsertCall.request, hkey]; rfl
    | some names => simp only [InsertCall.request, hkey]; cases names <;> rfl
  rw [insertKey, hlisted, ok_bind, namesNone]
  cases conflict with
  | error => rfl
  | ignore => cases c.key.getD [] <;> rfl

/-! ## Statements -/

theorem refusedBy_insertPlan (d : Dialect) (c : InsertCall) :
    RefusedBy (insertPlan d c.request) (c.checks d) := by
  have hchecks : c.checks d = [(c.conflict ≠ "error" && c.conflict ≠ "ignore",
      .invalidArgument "conflict" (.texts ["error", "ignore"]) .notAllowed)] ++
      (d.methodChecks .insert c.method ++ ([columnsCheck "insert_cols" c.columns] ++
        ([(c.conflict = "ignore" && namesNone c.key, .invalidArgument "by" .null .noColumns)] ++
          ([d.returningCheck c.returning] ++ [])))) := by
    simp [InsertCall.checks]
  rw [hchecks, insertPlan]
  refine (refusedBy_conflict c.conflict).bind fun conflict hconflict => ?_
  refine (refusedBy_resolveMethod d .insert c.method).bind fun method _ => ?_
  refine (refusedBy_requiredColumns "insert_cols" c.columns).bind fun columns hcolumns => ?_
  have hignore : (conflict = .ignore) = (c.conflict = "ignore") := by
    have hvalue := (ofValue_text c.conflict).symm.trans hconflict
    split at hvalue
    next h => cases hvalue; simp [h]
    next h =>
      split at hvalue
      · cases hvalue; simp [h]
      · cases hvalue
  have hkeyed : RefusedBy (insertKey c.request conflict)
      [(c.conflict = "ignore" && namesNone c.key, .invalidArgument "by" .null .noColumns)] := by
    simp only [insertKey_columnArgument, hignore]
    exact refusedBy_ite _ _ _
  refine hkeyed.bind fun key hkey => ?_
  have hkey : key = (c.key.getD []).map .text := by
    rw [insertKey_columnArgument] at hkey
    split at hkey
    · cases hkey
    · exact (Except.ok.inj hkey).symm
  obtain rfl := eq_of_requiredColumns hcolumns
  subst hkey
  simp only [handledNames_texts, names_texts, ok_bind]
  split
  all_goals
    refine (refusedBy_returnedTexts d c.table c.returning).bind fun returning _ => ?_
    exact refusedBy_ok _

theorem refusedBy_upsertPlan (d : Dialect) (c : UpsertCall) :
    RefusedBy (upsertPlan d c.request) (c.checks d) := by
  have hchecks : c.checks d = d.methodChecks .upsert c.method ++ ([columnsCheck "by" c.key] ++
      ([columnsCheck "update_cols" c.updated] ++ ([(!c.common.isEmpty, .invalidArgument "update_cols"
        .null (.keyUpdated (c.common.eraseDups.mergeSort (· ≤ ·))))] ++
          ([d.returningCheck c.returning] ++ [])))) := by
    simp [UpsertCall.checks]
  rw [hchecks, upsertPlan]
  refine (refusedBy_resolveMethod d .upsert c.method).bind fun method _ => ?_
  refine (refusedBy_requiredColumns "by" c.key).bind fun key hkey => ?_
  refine (refusedBy_requiredColumns "update_cols" c.updated).bind fun updated hupdated => ?_
  obtain rfl := eq_of_requiredColumns hkey
  obtain rfl := eq_of_requiredColumns hupdated
  rw [overlap_texts, ok_bind]
  have hcommon : (!c.common.isEmpty) = !(c.common.eraseDups.mergeSort (· ≤ ·)).isEmpty := by
    rw [(List.mergeSort_perm c.common.eraseDups _).isEmpty_eq]
    cases c.common with
    | nil => rfl
    | cons name names => rw [List.eraseDups_cons]; rfl
  rw [hcommon]
  refine RefusedBy.guarded rfl ?_
  simp only [names_texts, ok_bind]
  split
  all_goals
    refine (refusedBy_returnedTexts d c.table c.returning).bind fun returning _ => ?_
    exact refusedBy_ok _

/-- Of a plan a statement is always written. -/
theorem refusedBy_insertStatement (d : Dialect) (c : InsertCall) :
    RefusedBy (insertStatement d c.request) (c.checks d) := by
  rw [insertStatement_eq, ← List.append_nil (c.checks d)]
  exact (refusedBy_insertPlan d c).bind fun p _ => refusedBy_ok _

theorem refusedBy_upsertStatement (d : Dialect) (c : UpsertCall) :
    RefusedBy (upsertStatement d c.request) (c.checks d) := by
  rw [upsertStatement_eq, ← List.append_nil (c.checks d)]
  exact (refusedBy_upsertPlan d c).bind fun p _ => refusedBy_ok _

/-- Where conflicts are errors, neither the method nor the key is written. -/
theorem InsertPlan.Fits.text_eq {d : Dialect} {r : InsertRequest} {key method : Value}
    {p p' : InsertPlan} (hp : p.Fits d r) (hp' : p'.Fits d { r with key, method })
    (hconflict : p.conflict = .error) (source : String) : p'.text d source = p.text d source := by
  have hconflict' : p'.conflict = .error :=
    (Except.ok.inj (hp'.conflict.symm.trans hp.conflict)).trans hconflict
  have htable : p'.table = p.table := hp'.table_eq.trans hp.table_eq.symm
  have hreturning : p'.returning = p.returning :=
    Except.ok.inj (hp'.returning.symm.trans hp.returning)
  have hcolumns : p'.columns = p.columns := by
    obtain ⟨columns, hcolumns, hnames⟩ := hp.columns
    obtain ⟨columns', hcolumns', hnames'⟩ := hp'.columns
    cases hcolumns'.symm.trans hcolumns
    exact Except.ok.inj (hnames'.symm.trans hnames)
  rw [text, text, lines, lines, conflictLines, conflictLines, hconflict, hconflict', htable,
    hreturning, hcolumns]

/-- Where conflicts are errors, an insert is the same text for all methods and keys. -/
theorem exists_text_of_error (d : Dialect) (c : InsertCall) (hconflict : c.conflict = "error") :
    ∃ text, ∀ key method, firstFailure ({ c with key, method }.checks d) = none →
      outcome (insertStatement d { c with key, method }.request) = .ok text := by
  by_cases haccepted : ∃ key method, firstFailure ({ c with key, method }.checks d) = none
  · obtain ⟨key, method, h⟩ := haccepted
    obtain ⟨p, hp⟩ := (refusedBy_insertPlan d { c with key, method }).accepted h
    have hread : ConflictAction.ofValue (.text c.conflict) = .ok p.conflict :=
      (InsertPlan.fits hp).conflict
    have herror : p.conflict = .error := by
      rw [hconflict] at hread
      exact (Except.ok.inj hread).symm
    refine ⟨p.text d c.source, fun key' method' h' => ?_⟩
    obtain ⟨p', hp'⟩ := (refusedBy_insertPlan d { c with key := key', method := method' }).accepted h'
    rw [insertStatement_eq, hp', ok_bind]
    exact congrArg Except.ok ((InsertPlan.fits hp).text_eq (InsertPlan.fits hp') herror c.source)
  · exact ⟨"", fun key method h => absurd ⟨key, method, h⟩ haccepted⟩

/-- Row statements fail exactly when they should. An insert and an upsert fail with the error
    of the first of their checks that fails, and are written if none does. Where conflicts
    are errors, an insert is the same text for all methods that are accepted and all keys. -/
theorem rowStatements_refusedBy (d : Dialect) :
    (∀ c : InsertCall, RefusedBy (insertStatement d c.request) (c.checks d)) ∧
    (∀ c : UpsertCall, RefusedBy (upsertStatement d c.request) (c.checks d)) ∧
    ∀ c : InsertCall, c.conflict = "error" →
      ∃ text, ∀ key method, firstFailure ({ c with key, method }.checks d) = none →
        outcome (insertStatement d { c with key, method }.request) = .ok text :=
  ⟨refusedBy_insertStatement d, refusedBy_upsertStatement d, exists_text_of_error d⟩

/-- Of two checks that fail the first counts, and two methods write the same text. -/
theorem rowStatements_refusedBy_items :
    let c : InsertCall := { table := "items", source := "SELECT 1", columns := some ["id"] }
    let ignoring : InsertCall := { c with conflict := "ignore", returning := some ["id"] }
    insertStatement (.standard .ansi) ignoring.request =
        .error (.invalidArgument "by" .null .noColumns) ∧
      ∃ text, outcome (insertStatement (.standard .postgres) c.request) = .ok text ∧
        outcome (insertStatement (.standard .postgres)
          { c with key := some ["id"], method := .text "where_not_exists" }.request) = .ok text := by
  intro c ignoring
  refine ⟨((rowStatements_refusedBy (.standard .ansi)).1 ignoring).refused _ rfl, ?_⟩
  obtain ⟨text, htext⟩ := (rowStatements_refusedBy (.standard .postgres)).2.2 c rfl
  exact ⟨text, htext none .null rfl, htext (some ["id"]) (.text "where_not_exists") rfl⟩

end SqlDialects
