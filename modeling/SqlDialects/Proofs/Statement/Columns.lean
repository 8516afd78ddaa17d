-- SUMMARY: Where a single column may be given as a plain text, and where the text is taken apart into its letters.
import SqlDialects.Proofs.Statement.Reading
import SqlDialects.Proofs.Statement.Source

/-!
# A single column as a text

Columns that have to be there may be given as one text, which is one column. The key
of an insert and the returned columns are gone through before that is looked at, so
a text there stands for its letters. The statement is then another one as soon as
there is more than one letter, since it has one item for every letter: the items are
counted by what stands between or inside them.
-/

namespace SqlDialects

variable {d : Dialect} {s : String}

/-- The text of a statement, or why there is none. -/
def outcome (result : Except Error (String × LogRecord)) : Except Error String :=
  result.map Prod.fst

/-! ## Arguments -/

theorem characters_ne_nil (hs : s ≠ "") : characters s ≠ [] := by
  simpa [characters] using hs

theorem length_characters (s : String) : (characters s).length = s.length := by
  rw [characters, List.length_map, String.length_toList]

/-- A letter is the text itself where there is only one. -/
theorem characters_eq_singleton_iff : characters s = [s] ↔ s.length = 1 := by
  rw [← length_characters]
  constructor
  · intro h
    rw [h, List.length_singleton]
  · intro h
    rw [characters, List.length_map] at h
    obtain ⟨c, hc⟩ := List.length_eq_one_iff.1 h
    have hletter : String.singleton c = s := by
      rw [← String.toList_inj, hc, String.toList_singleton]
    rw [characters, hc, List.map_singleton, hletter]

theorem isTruthy_text (hs : s ≠ "") : (Value.text s).isTruthy = true := by
  simpa [Value.isTruthy, Scalar.isTruthy] using hs

/-- A text that is not empty lists its letters. -/
theorem listedColumns_text (hs : s ≠ "") :
    listedColumns (.text s) = .ok ((characters s).map .text) := by
  rw [listedColumns, if_pos (isTruthy_text hs)]
  rfl

theorem names_texts (names : List String) : Value.names (names.map .text) = .ok names := by
  have hnames := mapM_map_eq_ok Value.asText_text names
  rwa [List.map_id'] at hnames

/-- The key of an insert, listed as texts. -/
theorem insertKey_texts {r : InsertRequest} {names : List String}
    (hkey : listedColumns r.key = .ok (names.map .text)) (hne : names ≠ [])
    (conflict : ConflictAction) : insertKey r conflict = .ok (names.map .text) := by
  rw [insertKey, hkey, ok_bind]
  cases conflict with
  | error => rfl
  | ignore =>
    cases names with
    | nil => exact absurd rfl hne
    | cons name names => rfl

theorem handledNames_texts (names : List String) (conflict : ConflictAction) :
    handledNames (names.map .text) conflict =
      .ok (if conflict = .ignore then names else []) := by
  cases conflict with
  | error => rfl
  | ignore => exact names_texts names

/-- The text of a returned column that is given as a text. -/
def returnedName (table name : String) : String :=
  if name = "*" then table ++ ".*" else qualifiedText table name

theorem returnedTexts_texts {columns : Value} {names : List String}
    (htruthy : columns.isTruthy = true) (hitems : columns.items = .ok (names.map .text))
    (hflag : d.capabilities.returning = true) (table : String) :
    returnedTexts d table columns =
      .ok (some (names.map (returnedName (Identifier.table table)))) := by
  have hname (name : String) : returnedText (Identifier.table table) (.text name) =
      .ok (returnedName (Identifier.table table) name) := by
    by_cases h : name = "*" <;> simp [returnedText, returnedName, h]
  rw [returnedTexts, htruthy, hflag, hitems, ok_bind, mapM_map_eq_ok hname]
  rfl

/-- A dialect without the clause refuses any columns. -/
theorem returnedTexts_refused {columns : Value} (htruthy : columns.isTruthy = true)
    (hflag : d.capabilities.returning = false) (table : String) :
    returnedTexts d table columns =
      .error (.unsupportedArgument "returning_cols" .null (some d.displayName)) := by
  rw [returnedTexts, htruthy, hflag]
  rfl

/-! ## What a plan takes from an argument -/

/-- A plan takes the names of its key from the argument, and nothing else. -/
theorem exists_insertPlan_key (d : Dialect) (r : InsertRequest) :
    ∃ steps : Except Error InsertPlan, ∀ key names,
      listedColumns key = .ok (names.map .text) → names ≠ [] →
      insertPlan d { r with key } = do
        let p ← steps
        return { p with key := if p.conflict = .ignore then names else [] } := by
  refine ⟨do
    let conflict ← ConflictAction.ofValue r.conflict
    let method ← d.resolveMethod .insert r.method
    let columns ← requiredColumns "insert_cols" r.columns
    let returning ← returnedTexts d r.table r.returning
    let columns ← Value.names columns
    return ⟨Identifier.table r.table, columns, conflict, method, [], returning⟩,
    fun key names hkey hne => ?_⟩
  -- neither step that looks at a key of texts can fail, so both can be left out
  have hinsert (conflict : ConflictAction) : insertKey { r with key } conflict =
      .ok (names.map .text) := insertKey_texts hkey hne conflict
  simp only [insertPlan, bind_assoc, pure_bind]
  refine bind_congr_ok fun conflict _ => ?_
  refine bind_congr_ok fun method _ => ?_
  refine bind_congr_ok fun columns _ => ?_
  rw [hinsert, ok_bind]
  simp only [handledNames_texts, ok_bind]
  split <;> rfl

/-- A plan takes the texts of the returned columns from the argument, and nothing else. -/
theorem exists_insertPlan_returning (d : Dialect) (r : InsertRequest) :
    ∃ steps : Except Error InsertPlan, ∀ columns texts,
      returnedTexts d r.table columns = .ok texts →
      insertPlan d { r with returning := columns } = do
        let p ← steps
        return { p with returning := texts } := by
  refine ⟨insertPlan d { r with returning := .null }, fun columns texts h => ?_⟩
  have hnull : returnedTexts d r.table .null = .ok none := rfl
  simp only [insertPlan, bind_assoc]
  refine bind_congr_ok fun conflict _ => ?_
  refine bind_congr_ok fun method _ => ?_
  refine bind_congr_ok fun listed _ => ?_
  refine bind_congr_ok fun key _ => ?_
  rw [h, hnull]
  split <;> simp only [bind_assoc, ok_bind, pure_bind]

theorem exists_upsertPlan_returning (d : Dialect) (r : UpsertRequest) :
    ∃ steps : Except Error UpsertPlan, ∀ columns texts,
      returnedTexts d r.table columns = .ok texts →
      upsertPlan d { r with returning := columns } = do
        let p ← steps
        return { p with returning := texts } := by
  refine ⟨upsertPlan d { r with returning := .null }, fun columns texts h => ?_⟩
  have hnull : returnedTexts d r.table .null = .ok none := rfl
  simp only [upsertPlan, bind_assoc]
  refine bind_congr_ok fun method _ => ?_
  refine bind_congr_ok fun key _ => ?_
  refine bind_congr_ok fun updated _ => ?_
  refine bind_congr_ok fun common _ => ?_
  rw [h, hnull]
  split
  · rfl
  · simp only [bind_assoc]
    refine bind_congr_ok fun updated' _ => ?_
    split <;> simp only [bind_assoc, ok_bind, pure_bind]

/-! ## Counting items -/

/-- The view of one mark. -/
def mark? (mark : Char) : Token → Option Char := Token.bare? fun c => [mark].contains c

theorem onlyMarks_singleton {mark : Char} (h : isMark mark = true) :
    OnlyMarks fun c => [mark].contains c := .of_all (by simpa using h)

theorem length_intercalate_nil {α β : Type} (separator : β) (xs : List α) :
    ([separator].intercalate (xs.map fun _ => [])).length = xs.length - 1 := by
  induction xs with
  | nil => rfl
  | cons x xs ih =>
    cases xs with
    | nil => rfl
    | cons y ys =>
      have hstep : [separator].intercalate ((x :: y :: ys).map fun _ => ([] : List β)) =
          separator :: [separator].intercalate ((y :: ys).map fun _ => []) :=
        List.intercalate_cons_cons
      rw [hstep, List.length_cons, ih]
      rfl

/-- Between items that show no comma there is one less than there are items. -/
theorem length_seen_commaSeparated {α : Type} {text : α → String}
    (h : ∀ x, Reads (mark? ',') (text x) []) (xs : List α) :
    (seen (mark? ',') (commaSeparated (xs.map text))).length = xs.length - 1 := by
  have hcomma : seenBare (mark? ',') ", " = [','] := by decide
  have hreads := Reads.intercalate_map h ", " (by decide) xs
  rw [commaSeparated, hreads.seen_eq, hcomma, length_intercalate_nil]

theorem length_seen_columnsText (columns : List String) :
    (seen (mark? ',') (columnsText columns)).length = columns.length - 1 :=
  length_seen_commaSeparated (fun column =>
    (onlyMarks_singleton (by decide)).reads_escaped column) columns

theorem reads_returnedName (table name : String) :
    Reads (mark? ',') (returnedName (Identifier.table table) name) [] := by
  have hmarks : OnlyMarks fun c => [','].contains c := onlyMarks_singleton (by decide)
  have htable : Reads (mark? ',') (Identifier.table table) [] := hmarks.reads_table table
  have hname : seen (mark? ',') (Identifier.escaped name) = [] := hmarks.seen_escaped name
  have hdot : seenBare (mark? ',') "." = [] := by decide
  have hstar : seenBare (mark? ',') ".*" = [] := by decide
  rw [returnedName]
  split
  · simpa [hstar] using htable.append_bare (t := ".*") (by decide)
  · simpa [hdot, hname] using htable.qualifiedText name

/-- There is one equation for every column of the key. -/
theorem length_seen_probe (table : String) {key : List String} (hkey : key ≠ []) :
    (seen (mark? '=') (blockText (probeText (Identifier.table table) key))).length =
      key.length := by
  have hmarks : OnlyMarks fun c => ['='].contains c := onlyMarks_singleton (by decide)
  have htable : Reads (mark? '=') (Identifier.table table) [] := hmarks.reads_table table
  have hname (name : String) : seen (mark? '=') (Identifier.escaped name) = [] :=
    hmarks.seen_escaped name
  have hequation : seenEquation (mark? '=') [] [] = fun _ => ['='] := by
    funext column
    simp only [seenEquation, hname]
    decide
  have hwords : seenBare (mark? '=') "SELECT 1" = [] ∧ seenBare (mark? '=') "FROM " = [] ∧
      seenBare (mark? '=') "WHERE " = [] ∧ seenBare (mark? '=') " AND " = [] ∧
      seenBare (mark? '=') "\n" = [] ∧ seenBare (mark? '=') "(\n" = [] ∧
      seenBare (mark? '=') "\n)" = [] := by decide
  have hprobe := hmarks.reads_blockText (htable.probeText key)
    (getLast?_probeText hkey _) (by decide)
  obtain ⟨hselect, hfrom, hwhere, hand, hline, hopen, hclose⟩ := hwords
  have hseen := hprobe.seen_eq
  rw [← mark?] at hseen
  rw [hseen]
  simp [hselect, hfrom, hwhere, hand, hline, hopen, hclose, hname, hequation, nil_intercalate]

/-! ## Texts that differ -/

theorem line_eq_of_intercalate_eq (before : List String) {after : List String}
    {line line' : String}
    (h : "\n".intercalate (before ++ line :: after) =
      "\n".intercalate (before ++ line' :: after)) : line = line' := by
  rw [intercalate_append_cons, intercalate_append_cons] at h
  exact String.append_right_inj _ |>.1 (String.append_left_inj _ |>.1 h)

theorem length_eq_of_columnsText_eq {columns columns' : List String} (hne : columns ≠ [])
    (hne' : columns' ≠ []) (h : columnsText columns = columnsText columns') :
    columns.length = columns'.length := by
  have hseen := congrArg (fun text => (seen (mark? ',') text).length) h
  simp only [length_seen_columnsText] at hseen
  rw [← List.length_pos_iff] at hne hne'
  omega

/-- The statement of a key tells how many columns there are in it. -/
theorem InsertPlan.length_key_eq {p : InsertPlan} {table source : String} {key key' : List String}
    (htable : p.table = Identifier.table table) (hconflict : p.conflict = .ignore)
    (hne : key ≠ []) (hne' : key' ≠ [])
    (h : { p with key }.text d source = { p with key := key' }.text d source) :
    key.length = key'.length := by
  simp only [text, lines, conflictLines, hconflict] at h
  split at h
  · have hline : targetLine key = targetLine key' :=
      line_eq_of_intercalate_eq [_, _, _] h
    have hcolumns : columnsText key = columnsText key' := by
      have hclosed := (String.append_right_inj _).1 hline
      exact (String.append_right_inj _).1 ((String.append_left_inj _).1 hclosed)
    exact length_eq_of_columnsText_eq hne hne' hcolumns
  · have hline : probeLine p.table key = probeLine p.table key' :=
      line_eq_of_intercalate_eq [_, _, _] h
    have hprobe := (String.append_right_inj _).1 hline
    have hseen := congrArg (fun text => (seen (mark? '=') text).length) hprobe
    simpa only [htable, length_seen_probe table hne, length_seen_probe table hne'] using hseen

/-- A line of returned columns tells how many there are. -/
theorem length_returned_eq {table : String} {names names' : List String} (hne : names ≠ [])
    (hne' : names' ≠ [])
    (h : returningLine (names.map (returnedName (Identifier.table table))) =
      returningLine (names'.map (returnedName (Identifier.table table)))) :
    names.length = names'.length := by
  have hitems := (String.append_right_inj _).1 h
  have hseen := congrArg (fun text => (seen (mark? ',') text).length) hitems
  simp only [length_seen_commaSeparated (reads_returnedName table)] at hseen
  rw [← List.length_pos_iff] at hne hne'
  omega

/-! ## One column -/

/-- Two ways to go on from the same steps come to the same exactly where they write the
same text, or where the steps fail. -/
theorem outcome_bind_eq_iff {π : Type} {steps : Except Error π} {f g : π → String × LogRecord} :
    outcome (do let p ← steps; return f p) = outcome (do let p ← steps; return g p) ↔
      (∃ p, steps = .ok p ∧ (f p).1 = (g p).1) ∨
        ∃ e, (do let p ← steps; return g p) = .error e := by
  cases steps with
  | error e => exact ⟨fun _ => .inr ⟨e, rfl⟩, fun _ => rfl⟩
  | ok p =>
    constructor
    · intro h
      exact .inl ⟨p, rfl, Except.ok.inj h⟩
    · rintro (⟨p', h, htext⟩ | ⟨e, h⟩)
      · cases h
        exact congrArg Except.ok htext
      · cases h

theorem insertStatement_key_iff (d : Dialect) (hs : s ≠ "") (r : InsertRequest) :
    outcome (insertStatement d { r with key := .text s }) =
        outcome (insertStatement d { r with key := .list [.text s] }) ↔
      s.length = 1 ∨ ConflictAction.ofValue r.conflict = .ok .error ∨
        ∃ e, insertStatement d { r with key := .list [.text s] } = .error e := by
  obtain ⟨steps, hsteps⟩ := exists_insertPlan_key d r
  have htext := hsteps (.text s) _ (listedColumns_text hs) (characters_ne_nil hs)
  have hlist := hsteps (.list [.text s]) [s] rfl (List.cons_ne_nil _ _)
  simp only [insertStatement_eq, htext, hlist, bind_assoc, pure_bind]
  rw [outcome_bind_eq_iff, ← or_assoc]
  refine or_congr_left' fun hrefused => ?_
  cases hp : steps with
  | error e => exact absurd ⟨e, by rw [hp]; rfl⟩ hrefused
  | ok p =>
    have hfits : InsertPlan.Fits d { r with key := .list [.text s] } _ :=
      InsertPlan.fits (hlist.trans (by rw [hp, ok_bind]; rfl))
    have hconflict : ConflictAction.ofValue r.conflict = .ok p.conflict := hfits.conflict
    have htable : p.table = Identifier.table r.table := hfits.table_eq
    simp only [Except.ok.injEq, exists_eq_left', hconflict]
    cases hcase : p.conflict with
    | error => simp
    | ignore =>
      simp only [if_true, reduceCtorEq, or_false]
      constructor
      · intro h
        have hlength := InsertPlan.length_key_eq (p := { p with conflict := .ignore }) htable
          rfl (characters_ne_nil hs) (List.cons_ne_nil s []) h
        rwa [length_characters] at hlength
      · intro h
        rw [characters_eq_singleton_iff.2 h]

/-- A statement that takes its returned columns from an argument and writes them last. -/
structure EndsInReturned (d : Dialect) (table : String)
    (statement : Value → Except Error (String × LogRecord)) : Prop where
  /-- It asks nothing of the argument but its texts. -/
  same : ∀ {columns columns'}, returnedTexts d table columns = returnedTexts d table columns' →
    statement columns = statement columns'
  accepted : ∀ {columns result}, statement columns = .ok result →
    ∃ texts, returnedTexts d table columns = .ok texts
  /-- The lines before do not depend on it. -/
  written : ∃ before : Except Error (List String × LogRecord), ∀ columns texts,
    returnedTexts d table columns = .ok (some texts) → statement columns = do
      let written ← before
      return ("\n".intercalate (written.1 ++ [returningLine texts]), written.2)

/-- There, one column may be given as a text only if it is one letter. -/
theorem EndsInReturned.outcome_iff {table : String}
    {statement : Value → Except Error (String × LogRecord)}
    (h : EndsInReturned d table statement) (hs : s ≠ "") :
    outcome (statement (.text s)) = outcome (statement (.list [.text s])) ↔
      s.length = 1 ∨ ∃ e, statement (.list [.text s]) = .error e := by
  cases hflag : d.capabilities.returning with
  | false =>
    have hletters := returnedTexts_refused (isTruthy_text hs) hflag table
    have hlist : returnedTexts d table (.list [.text s]) = _ :=
      returnedTexts_refused rfl hflag table
    refine iff_of_true (by rw [h.same (hletters.trans hlist.symm)]) (.inr ?_)
    cases hstatement : statement (.list [.text s]) with
    | error e => exact ⟨e, rfl⟩
    | ok result =>
      obtain ⟨texts, htexts⟩ := h.accepted hstatement
      cases hlist.symm.trans htexts
  | true =>
    obtain ⟨before, hwritten⟩ := h.written
    have hletters := returnedTexts_texts (isTruthy_text hs) rfl hflag table
    have hlist : returnedTexts d table (.list [.text s]) =
        .ok (some ([s].map (returnedName (Identifier.table table)))) :=
      returnedTexts_texts rfl rfl hflag table
    rw [hwritten _ _ hletters, hwritten _ _ hlist, outcome_bind_eq_iff]
    refine or_congr_left' fun hrefused => ?_
    cases hbefore : before with
    | error e => exact absurd ⟨e, by rw [hbefore]; rfl⟩ hrefused
    | ok written =>
      simp only [Except.ok.injEq, exists_eq_left']
      constructor
      · intro hline
        have hlength := length_returned_eq (characters_ne_nil hs) (List.cons_ne_nil s [])
          (line_eq_of_intercalate_eq _ hline)
        rwa [length_characters] at hlength
      · intro hlength
        rw [characters_eq_singleton_iff.2 hlength]

theorem insertStatement_endsInReturned (d : Dialect) (r : InsertRequest) :
    EndsInReturned d r.table fun columns => insertStatement d { r with returning := columns } where
  same := fun {columns columns'} h => by
    have hplan : insertPlan d { r with returning := columns } =
        insertPlan d { r with returning := columns' } := by
      simp only [insertPlan, h]
      rfl
    simp only [insertStatement_eq, hplan]
    rfl
  accepted := fun h => by
    obtain ⟨p, hp, _⟩ := exists_insertPlan h
    exact ⟨p.returning, (InsertPlan.fits hp).returning⟩
  written := by
    obtain ⟨steps, hsteps⟩ := exists_insertPlan_returning d r
    refine ⟨do
      let p ← steps
      return ([insertLine p.table p.columns, "SELECT *", sourceLine d r.source] ++
        p.conflictLines, p.record r), fun columns texts h => ?_⟩
    simp only [insertStatement_eq, hsteps columns _ h, bind_assoc, pure_bind]
    rfl

theorem upsertStatement_endsInReturned (d : Dialect) (r : UpsertRequest) :
    EndsInReturned d r.table fun columns => upsertStatement d { r with returning := columns } where
  same := fun {columns columns'} h => by
    have hplan : upsertPlan d { r with returning := columns } =
        upsertPlan d { r with returning := columns' } := by
      simp only [upsertPlan, h]
    simp only [upsertStatement_eq, hplan]
    rfl
  accepted := fun h => by
    obtain ⟨p, hp, _⟩ := exists_upsertPlan h
    exact ⟨p.returning, (UpsertPlan.fits hp).returning⟩
  written := by
    obtain ⟨steps, hsteps⟩ := exists_upsertPlan_returning d r
    refine ⟨do
      let p ← steps
      return (if p.method = .onConflict then p.nativeLines d r.source
        else p.generalLines d r.source, p.record r), fun columns texts h => ?_⟩
    simp only [upsertStatement_eq, hsteps columns _ h, bind_assoc, pure_bind]
    rfl

/-- One column may be given as a text wherever columns have to be there. For the key of an
insert and for returned columns that is so just where the text is one letter, or is not
looked at, or the list is refused as well. -/
theorem singleColumn_iff (d : Dialect) (s : String) (hs : s ≠ "") :
    (∀ r : InsertRequest,
      insertStatement d { r with columns := .text s } =
        insertStatement d { r with columns := .list [.text s] } ∧
      (outcome (insertStatement d { r with key := .text s }) =
          outcome (insertStatement d { r with key := .list [.text s] }) ↔
        s.length = 1 ∨ ConflictAction.ofValue r.conflict = .ok .error ∨
          ∃ e, insertStatement d { r with key := .list [.text s] } = .error e) ∧
      (outcome (insertStatement d { r with returning := .text s }) =
          outcome (insertStatement d { r with returning := .list [.text s] }) ↔
        s.length = 1 ∨
          ∃ e, insertStatement d { r with returning := .list [.text s] } = .error e)) ∧
    ∀ r : UpsertRequest,
      upsertStatement d { r with key := .text s } =
        upsertStatement d { r with key := .list [.text s] } ∧
      upsertStatement d { r with updated := .text s } =
        upsertStatement d { r with updated := .list [.text s] } ∧
      (outcome (upsertStatement d { r with returning := .text s }) =
          outcome (upsertStatement d { r with returning := .list [.text s] }) ↔
        s.length = 1 ∨
          ∃ e, upsertStatement d { r with returning := .list [.text s] } = .error e) := by
  constructor
  · intro r
    exact ⟨rfl, insertStatement_key_iff d hs r, (insertStatement_endsInReturned d r).outcome_iff hs⟩
  · intro r
    exact ⟨rfl, rfl, (upsertStatement_endsInReturned d r).outcome_iff hs⟩

/-- An insert that leaves known rows as they are, by whatever key. -/
def keyedInsert (key : Value) : InsertRequest where
  table := "df_x"
  source := "SELECT id, v FROM src"
  columns := .list [.text "id", .text "v"]
  key := key
  conflict := .text "ignore"

def keyedPlan (key : List String) : InsertPlan :=
  ⟨"df_x", ["id", "v"], .ignore, .onConflict, key, none⟩

theorem insertPlan_keyedInsert_text :
    insertPlan (.standard .postgres) (keyedInsert (.text "id")) = .ok (keyedPlan ["i", "d"]) := by
  cbv

theorem insertPlan_keyedInsert_list :
    insertPlan (.standard .postgres) (keyedInsert (.list [.text "id"])) =
      .ok (keyedPlan ["id"]) := by
  cbv

/-- A key of two letters is another one than its list; columns of two letters are not. -/
theorem singleColumn_iff_id :
    "id" ≠ "" ∧
    insertStatement (.standard .postgres) { keyedInsert .null with columns := .text "id" } =
      insertStatement (.standard .postgres)
        { keyedInsert .null with columns := .list [.text "id"] } ∧
    outcome (insertStatement (.standard .postgres) (keyedInsert (.text "id"))) ≠
      outcome (insertStatement (.standard .postgres) (keyedInsert (.list [.text "id"]))) := by
  have hinsert := (singleColumn_iff (.standard .postgres) "id" (by decide)).1 (keyedInsert .null)
  refine ⟨by decide, hinsert.1, fun h => ?_⟩
  rcases hinsert.2.1.1 h with hlength | hconflict | ⟨e, hrefused⟩
  · exact absurd hlength (by decide)
  · cases hconflict
  · cases hrefused.symm.trans
      (insertStatement_of_plan insertPlan_keyedInsert_list (keyedInsert .null).source)

/-- The key of an insert is taken apart, where the list is one column. -/
theorem not_singleColumn_id :
    outcome (insertStatement (.standard .postgres) (keyedInsert (.text "id"))) =
      .ok ("INSERT INTO df_x (id, v)\nSELECT *\nFROM (SELECT id, v FROM src) AS \"...y\"\n" ++
        "ON CONFLICT (i, d)\nDO NOTHING") ∧
    outcome (insertStatement (.standard .postgres) (keyedInsert (.list [.text "id"]))) =
      .ok ("INSERT INTO df_x (id, v)\nSELECT *\nFROM (SELECT id, v FROM src) AS \"...y\"\n" ++
        "ON CONFLICT (id)\nDO NOTHING") ∧
    outcome (insertStatement (.standard .postgres) (keyedInsert (.text "id"))) ≠
      outcome (insertStatement (.standard .postgres) (keyedInsert (.list [.text "id"]))) := by
  have hletters : (keyedPlan ["i", "d"]).text (.standard .postgres) "SELECT id, v FROM src" =
      "INSERT INTO df_x (id, v)\nSELECT *\nFROM (SELECT id, v FROM src) AS \"...y\"\n" ++
        "ON CONFLICT (i, d)\nDO NOTHING" := by decide +kernel
  have hcolumn : (keyedPlan ["id"]).text (.standard .postgres) "SELECT id, v FROM src" =
      "INSERT INTO df_x (id, v)\nSELECT *\nFROM (SELECT id, v FROM src) AS \"...y\"\n" ++
        "ON CONFLICT (id)\nDO NOTHING" := by decide +kernel
  rw [insertStatement_eq, insertStatement_eq, insertPlan_keyedInsert_text,
    insertPlan_keyedInsert_list]
  refine ⟨congrArg Except.ok hletters, congrArg Except.ok hcolumn, fun h => ?_⟩
  have hsame := hletters.symm.trans ((Except.ok.inj h).trans hcolumn)
  exact absurd hsame (by decide +kernel)

end SqlDialects
