-- SUMMARY: Which words a row statement writes of its own, and which capabilities they need.
import SqlDialects.Proofs.Statement.Reading
import SqlDialects.Proofs.Statement.Source

/-!
# Capabilities and row statements

The words of a statement are written in capitals, and no name has a capital outside
quotes. So the capitals that are seen of a statement, in order, tell which words it
can mention. Those of `AND` are left out, since it stands between the columns of a
key: the capitals seen are then the same whatever names are written.

`ON CONFLICT` needs a capability, and so does `RETURNING` behind a statement. The
update of a general upsert has a `RETURNING` of its own, which needs none.
-/

namespace SqlDialects

/-- The text has the word outside its quoted tokens. -/
def Mentions (word text : String) : Prop := word.toList <:+: outside text.toList

/-! ## Capitals -/

/-- The capitals but those of `AND`. -/
def isCapital (c : Char) : Bool := "BCEFGHIJKLMOPQRSTUVWXYZ".toList.contains c

theorem onlyMarks_isCapital : OnlyMarks isCapital := .of_all (by decide)

/-- The view of capitals. -/
def capital? : Token → Option Char := Token.bare? isCapital

/-- The capitals of a word. -/
def capitals (word : String) : List Char := word.toList.filter isCapital

theorem seenBare_capital? (word : String) : seenBare capital? word = capitals word := by
  rw [seenBare, capitals, ← List.filterMap_eq_filter]
  rfl

theorem capitals_bare {word : String} (h : hasNoQuote word = true) :
    Reads capital? word (capitals word) :=
  seenBare_capital? word ▸ .bare h

/-- The capitals of a word that is mentioned are seen one after the other. -/
theorem capitals_infix_of_mentions {word text : String} {out : List Char}
    (h : Reads capital? text out) (hword : Mentions word text) : capitals word <:+: out := by
  have hseen : seen capital? text = (outside text.toList).filter isCapital :=
    seen_bare? (by decide) text
  have hinfix := List.IsInfix.filter isCapital hword
  rwa [← hseen, h.seen_eq] at hinfix

theorem capitals_eq_nil {word : String} (h : word.toList.any isCapital = false) :
    capitals word = [] := by
  rw [capitals, List.filter_eq_nil_iff]
  simpa using h

theorem capitals_lineFeed : capitals "\n" = [] := capitals_eq_nil (by decide)

/-! ## Capitals of lines -/

theorem seen_capital?_escaped (name : String) : seen capital? (Identifier.escaped name) = [] :=
  onlyMarks_isCapital.seen_escaped name

theorem seenColumns_capital? (columns : List String) : seenColumns capital? columns = [] := by
  simp (disch := decide) [seenColumns, seenBare_capital?, capitals_eq_nil, seen_capital?_escaped,
    nil_intercalate]

theorem seenAssignment_capital? (column : String) : seenAssignment capital? [] column = [] := by
  simp (disch := decide) only [seenAssignment, seenBare_capital?, capitals_eq_nil,
    seen_capital?_escaped, List.append_nil]

theorem seenEquation_capital? (column : String) : seenEquation capital? [] [] column = [] := by
  simp (disch := decide) only [seenEquation, seenBare_capital?, capitals_eq_nil,
    seen_capital?_escaped, List.append_nil]

/-- Between the items of a list nothing is seen, nor in items that show nothing. -/
theorem intercalate_capital? {α : Type} (separator : String)
    (h : separator.toList.any isCapital = false) (xs : List α) :
    (seenBare capital? separator).intercalate (xs.map fun _ => []) = [] := by
  rw [seenBare_capital?, capitals_eq_nil h, nil_intercalate]
  simp

/-! ## Capitals of statements -/

variable {d : Dialect} {table target : String}

theorem capitals_blockText {s : String} {out : List Char} (hs : Reads capital? s out) {c : Char}
    (hlast : s.toList.getLast? = some c) (hc : Text.isLineEnd c = false) :
    Reads capital? (blockText s) out := by
  have hblock : Reads capital? (blockText s)
      (seenBare capital? "(\n" ++ out ++ seenBare capital? "\n)") :=
    onlyMarks_isCapital.reads_blockText hs hlast hc
  simpa (disch := decide) only [seenBare_capital?, capitals_eq_nil, List.append_nil,
    List.nil_append] using hblock

theorem capitals_insertLine (h : Reads capital? table []) (columns : List String) :
    Reads capital? (insertLine table columns) (capitals "INSERT INTO ") := by
  simpa (disch := decide) only [seenBare_capital?, seenColumns_capital?, capitals_eq_nil,
    List.append_nil] using h.insertLine columns

theorem capitals_selectLine (columns : List String) :
    Reads capital? (selectLine columns) (capitals "SELECT ") := by
  have hreads : Reads capital? (selectLine columns) _ := reads_selectLine columns
  simpa only [seenBare_capital?, seenColumns_capital?, List.append_nil] using hreads

theorem capitals_sourceLine (d : Dialect) :
    Reads capital? (sourceLine d "") (capitals "FROM " ++ capitals (aliasWord d)) := by
  have hempty : Reads capital? "" [] := .empty
  simpa (disch := decide) only [seenBare_capital?, seen_capital?_escaped, capitals_eq_nil,
    List.append_nil, List.nil_append] using hempty.sourceLine d

theorem capitals_targetLine (key : List String) :
    Reads capital? (targetLine key) (capitals "ON CONFLICT ") := by
  have hreads : Reads capital? (targetLine key) _ := reads_targetLine key
  simpa (disch := decide) only [seenBare_capital?, seenColumns_capital?, capitals_eq_nil,
    List.append_nil] using hreads

theorem capitals_setLine (h : Reads capital? target []) (columns : List String) :
    Reads capital? (setLine target columns) (capitals "SET ") := by
  have hreads := h.setLine columns
  simp only [funext seenAssignment_capital?] at hreads
  rwa [intercalate_capital? ", " (by decide), List.append_nil, seenBare_capital?] at hreads

theorem capitals_probeLine (h : Reads capital? target []) {key : List String} (hkey : key ≠ []) :
    Reads capital? (probeLine target key) (capitals "WHERE NOT EXISTS " ++
      (capitals "SELECT 1" ++ (capitals "FROM " ++ capitals "WHERE "))) := by
  have hprobe := h.probeText key
  simp only [seen_capital?_escaped, funext seenEquation_capital?] at hprobe
  rw [intercalate_capital? " AND " (by decide) key] at hprobe
  rw [seenBare_capital?, capitals_lineFeed, nil_intercalate] at hprobe
  have hblock := capitals_blockText hprobe (getLast?_probeText hkey target) (by decide)
  have hline := Reads.bare_append (s := "WHERE NOT EXISTS ") (by decide) hblock
  simp only [seenBare_capital?, List.flatten_cons, List.flatten_nil, List.append_nil] at hline
  exact hline

theorem capitals_updateLine (h : Reads capital? table []) (d : Dialect)
    (key updated : List String) :
    Reads capital? (updateLine d table "" key updated) (capitals "WITH " ++ (capitals " AS " ++
      (capitals "UPDATE " ++ (capitals "SET " ++ ((capitals "FROM " ++ capitals (aliasWord d)) ++
        (capitals "WHERE " ++ capitals "RETURNING ")))))) := by
  have hupdate := h.updateText .empty d key updated
  simp only [seen_capital?_escaped, funext seenEquation_capital?, funext seenAssignment_capital?]
    at hupdate
  rw [intercalate_capital? ", " (by decide) updated.eraseDups,
    intercalate_capital? " AND " (by decide) key] at hupdate
  rw [seenBare_capital?, capitals_lineFeed, nil_intercalate] at hupdate
  have hblock := capitals_blockText hupdate (getLast?_updateText ..) (by decide)
  have hname : Reads capital? (Identifier.escaped updatedAlias) [] :=
    onlyMarks_isCapital.reads_escaped updatedAlias
  have hline := (Reads.bare_append (s := "WITH ") (by decide) hname).between " AS " (by decide)
    hblock
  simp (disch := decide) only [seenBare_capital?, capitals_eq_nil, List.flatten_cons,
    List.flatten_nil, List.append_nil, List.nil_append] at hline
  exact hline

/-- Returned columns show nothing. -/
theorem capitals_returningLine {name : String} {columns : Value} {texts : List String}
    (h : returnedTexts d name columns = .ok (some texts)) :
    Reads capital? (returningLine texts) (capitals "RETURNING ") := by
  have htable : Reads capital? (Identifier.table name) [] := onlyMarks_isCapital.reads_table name
  have htext : ∀ text ∈ texts, Reads capital? text [] := by
    intro text htext
    rcases (mem_returnedTexts h).2 text htext with rfl | ⟨column, rfl⟩
    · simpa (disch := decide) only [seenBare_capital?, capitals_eq_nil, List.append_nil] using
        htable.append_bare (t := ".*") (by decide)
    · simpa (disch := decide) only [seenBare_capital?, seen_capital?_escaped, capitals_eq_nil,
        List.append_nil] using htable.qualifiedText column
  have hall : List.Forall₂ (Reads capital?) texts (texts.map fun _ => []) := by
    rw [List.forall₂_map_right_iff]
    exact List.forall₂_same.2 htext
  have hline := Reads.bare_append (s := "RETURNING ") (by decide)
    (Reads.intercalate ", " (by decide) hall)
  rwa [intercalate_capital? ", " (by decide), List.append_nil, seenBare_capital?] at hline

/-- The line of returned columns, if there is one. -/
theorem capitals_returningLines {name : String} {columns : Value}
    {returning : Option (List String)} (h : returnedTexts d name columns = .ok returning) :
    List.Forall₂ (Reads capital?) (returning.toList.map returningLine)
      (if returning.isSome then [capitals "RETURNING "] else []) := by
  cases returning with
  | none => exact .nil
  | some texts => exact .cons (capitals_returningLine h) .nil

/-- The capitals of lines are seen one line after the other. -/
theorem capitals_lines {lines : List String} {outs : List (List Char)}
    (h : List.Forall₂ (Reads capital?) lines outs) :
    Reads capital? ("\n".intercalate lines) outs.flatten := by
  have hlines := Reads.intercalate "\n" (by decide) h
  rwa [seenBare_capital?, capitals_eq_nil (by decide), nil_intercalate] at hlines

/-! ### Inserts -/

/-- What is seen of an insert, line by line. -/
def insertCapitals (ignores native asWord returning : Bool) : List (List Char) :=
  [capitals "INSERT INTO ", capitals "SELECT *",
    capitals "FROM " ++ capitals (if asWord then " AS " else " ")] ++
  (if ignores then
    if native then [capitals "ON CONFLICT ", capitals "DO NOTHING"]
    else [capitals "WHERE NOT EXISTS " ++
      (capitals "SELECT 1" ++ (capitals "FROM " ++ capitals "WHERE "))]
  else []) ++
  if returning then [capitals "RETURNING "] else []

theorem onConflict_infix_insertCapitals : ∀ ignores native asWord returning : Bool,
    capitals "ON CONFLICT" <:+: (insertCapitals ignores native asWord returning).flatten →
      native = true := by
  decide

theorem returning_infix_insertCapitals : ∀ ignores native asWord returning : Bool,
    capitals "RETURNING" <:+: (insertCapitals ignores native asWord returning).flatten →
      returning = true := by
  decide

theorem InsertPlan.Fits.reads_text {r : InsertRequest} {p : InsertPlan} (h : p.Fits d r) :
    Reads capital? (p.text d "") (insertCapitals (p.conflict = .ignore) (p.method = .onConflict)
      d.capabilities.tableAliasWithAs p.returning.isSome).flatten := by
  have htable : Reads capital? p.table [] := by
    rw [h.table_eq]
    exact onlyMarks_isCapital.reads_table r.table
  have hstar : Reads capital? "SELECT *" (capitals "SELECT *") := capitals_bare (by decide)
  have hnothing : Reads capital? "DO NOTHING" (capitals "DO NOTHING") := capitals_bare (by decide)
  have hfirst := List.Forall₂.cons (capitals_insertLine htable p.columns)
    (.cons hstar (.cons (capitals_sourceLine d) .nil))
  have hlast := capitals_returningLines h.returning
  rw [text, lines]
  refine capitals_lines (List.rel_append (List.rel_append hfirst ?_) hlast)
  rw [conflictLines]
  cases hconflict : p.conflict with
  | error => simp
  | ignore =>
    by_cases hmethod : p.method = .onConflict
    · simp only [hmethod, decide_true, if_true]
      exact .cons (capitals_targetLine p.key) (.cons hnothing .nil)
    · simp only [hmethod, decide_true, decide_false, if_true, if_false, Bool.false_eq_true]
      exact .cons (capitals_probeLine htable (h.key_ne hconflict)) .nil

/-! ### Upserts -/

/-- What is seen of an upsert, line by line. -/
def upsertCapitals (native asWord returning : Bool) : List (List Char) :=
  let source := capitals "FROM " ++ capitals (if asWord then " AS " else " ")
  (if native then
    [capitals "INSERT INTO ", capitals "SELECT ", source, capitals "WHERE true",
      capitals "ON CONFLICT ", capitals "DO UPDATE", capitals "SET "]
  else
    [capitals "WITH " ++ (capitals " AS " ++ (capitals "UPDATE " ++ (capitals "SET " ++
        (source ++ (capitals "WHERE " ++ capitals "RETURNING "))))),
      capitals "INSERT INTO ", capitals "SELECT ", source,
      capitals "WHERE NOT EXISTS " ++
        (capitals "SELECT 1" ++ (capitals "FROM " ++ capitals "WHERE "))]) ++
  if returning then [capitals "RETURNING "] else []

set_option maxRecDepth 1000 in
theorem onConflict_infix_upsertCapitals : ∀ asWord returning : Bool,
    ¬ capitals "ON CONFLICT" <:+: (upsertCapitals false asWord returning).flatten := by
  decide

theorem returning_infix_upsertCapitals : ∀ asWord returning : Bool,
    capitals "RETURNING" <:+: (upsertCapitals true asWord returning).flatten →
      returning = true := by
  decide

theorem UpsertPlan.Fits.reads_text {r : UpsertRequest} {p : UpsertPlan} (h : p.Fits d r) :
    Reads capital? (p.text d "") (upsertCapitals (p.method = .onConflict)
      d.capabilities.tableAliasWithAs p.returning.isSome).flatten := by
  have htable : Reads capital? p.table [] := by
    rw [h.table_eq]
    exact onlyMarks_isCapital.reads_table r.table
  have hwhere : Reads capital? "WHERE true" (capitals "WHERE true") := capitals_bare (by decide)
  have hupdate : Reads capital? "DO UPDATE" (capitals "DO UPDATE") := capitals_bare (by decide)
  have hexcluded : Reads capital? "excluded" [] := by
    have hreads : Reads capital? "excluded" _ := capitals_bare (by decide)
    simpa (disch := decide) only [capitals_eq_nil] using hreads
  have hinsert := capitals_insertLine htable p.columns
  have hselect := capitals_selectLine p.columns
  have hlast := capitals_returningLines h.returning
  rw [text, lines]
  refine capitals_lines (List.rel_append ?_ hlast)
  by_cases hmethod : p.method = .onConflict
  · simp only [hmethod, decide_true, if_true]
    exact .cons hinsert (.cons hselect (.cons (capitals_sourceLine d) (.cons hwhere
      (.cons (capitals_targetLine p.key) (.cons hupdate
        (.cons (capitals_setLine hexcluded p.updated) .nil))))))
  · simp only [hmethod, decide_false, if_false, Bool.false_eq_true]
    exact .cons (capitals_updateLine htable d p.key p.updated) (.cons hinsert (.cons hselect
      (.cons (capitals_sourceLine d)
        (.cons (capitals_probeLine (onlyMarks_isCapital.reads_escaped _) h.key_ne) .nil))))

/-! ### The update's own clause -/

/-- A word is mentioned behind any text with balanced quotes. -/
theorem mentions_append {before word : String} (h : IsBalanced before.toList)
    (hword : isGap word = true) (after : String) : Mentions word (before ++ word ++ after) := by
  have hcut : cut (before ++ word ++ after).toList =
      cut before.toList ++ (word.toList.map .bare ++ cut after.toList) := by
    rw [String.append_assoc, String.toList_append, String.toList_append,
      cut_append h (startsWithout_gap hword _), cut_bare_append (forall_mem_gap hword)]
  refine ⟨outside before.toList, outside after.toList, ?_⟩
  rw [outside, outside, outside, hcut, List.map_append, List.map_append, List.map_map,
    List.append_assoc]
  simp [Function.comp_def, Token.blanked]

/-- What is mentioned in a subquery is mentioned where it is indented. -/
theorem mentions_blockText {front before word after : String} {c : Char}
    (hfront : IsBalanced front.toList) (hbefore : IsBalanced before.toList)
    (hlast : before.toList.getLast? = some '\n') (hword : isGap word = true)
    (hplain : ∀ c ∈ word.toList, Text.isLineEnd c = false)
    (hend : (before ++ word ++ after).toList.getLast? = some c) (hc : Text.isLineEnd c = false)
    (rest : String) : Mentions word (front ++ blockText (before ++ word ++ after) ++ rest) := by
  have hmiddle : word.toList.getLast? ≠ some '\r' := fun h =>
    absurd (hplain _ (List.mem_of_getLast? h)) (by decide)
  have hindent := indent_around (by simp [hlast]) (fun h => absurd h hmiddle) hend hc
  have hhung : Text.hungText word = word := by
    rw [Text.hungText, (Text.hung_eq_self_iff _).2 hplain, String.ofList_toList]
  have hopen : IsBalanced (front ++ "(\n" ++ ("  " ++ Text.hungText before)).toList := by
    have hhead : Reads Token.quoted? (Text.hungText before)
        (seen Token.quoted? (Text.hungText before)) := by
      refine .of_balanced ?_
      rw [Text.hungText, String.toList_ofList]
      exact isBalanced_hung hbefore
    have hreads : Reads Token.quoted? front (seen Token.quoted? front) := .of_balanced hfront
    exact (hreads.between "(\n" (by decide) (.bare_append (by decide) hhead)).balanced
  have htext : front ++ blockText (before ++ word ++ after) ++ rest =
      front ++ "(\n" ++ ("  " ++ Text.hungText before) ++ word ++
        (Text.hungText after ++ "\n)" ++ rest) := by
    rw [blockText, hindent, hhung]
    simp only [String.append_assoc]
  rw [htext]
  exact mentions_append hopen hword _

/-- The last line of an update starts with its `RETURNING`. -/
theorem updateText_eq_returning {table : String} (h : IsBalanced table.toList) (d : Dialect)
    (key updated : List String) :
    ∃ before, IsBalanced before.toList ∧ before.toList.getLast? = some '\n' ∧
      updateText d table "" key updated = before ++ "RETURNING" ++ (" " ++ (table ++ ".*")) := by
  have htable : Reads Token.quoted? table (seen Token.quoted? table) := .of_balanced h
  have hrows : Reads Token.quoted? (Identifier.escaped sourceAlias) _ := reads_escaped sourceAlias
  have hlines := Reads.intercalate "\n" (by decide)
    (.cons (Reads.bare_append (s := "UPDATE ") (by decide) htable) (.cons (hrows.setLine updated)
      (.cons (Reads.empty.sourceLine d) (.cons (hrows.matchLine htable key) .nil))))
  have hword : "RETURNING " = "RETURNING" ++ " " := rfl
  refine ⟨_, (hlines.append_bare (t := "\n") (by decide)).balanced, getLast?_append_of_eq rfl _, ?_⟩
  simp only [updateText, hword, String.intercalate_cons_cons, String.intercalate_singleton,
    String.append_assoc]

/-- The update of a general upsert mentions `RETURNING`. -/
theorem mentions_returning_updateLine {table : String} (h : IsBalanced table.toList) (d : Dialect)
    (key updated : List String) (rest : String) :
    Mentions "RETURNING" (updateLine d table "" key updated ++ rest) := by
  obtain ⟨before, hbefore, hlast, htext⟩ := updateText_eq_returning h d key updated
  have hfront : Reads Token.quoted? ("WITH " ++ Identifier.escaped updatedAlias ++ " AS ") _ :=
    (Reads.bare_append (by decide) (reads_escaped updatedAlias)).append_bare (by decide)
  have hend := getLast?_updateText d table "" key updated
  rw [htext] at hend
  rw [updateLine, htext]
  exact mentions_blockText hfront.balanced hbefore hlast (by decide)
    (by simp [Text.isLineEnd]) hend (by decide) rest

theorem mentions_returning_text {r : UpsertRequest} {p : UpsertPlan} (h : p.Fits d r)
    (hmethod : p.method ≠ .onConflict) : Mentions "RETURNING" (p.text d "") := by
  have htable : IsBalanced p.table.toList := by
    rw [h.table_eq]
    exact isBalanced_table r.table
  have htext := intercalate_append_cons [] (updateLine d p.table "" p.key p.updated)
    ([insertLine p.table p.columns, selectLine p.columns, sourceLine d "",
      probeLine (Identifier.escaped updatedAlias) p.key] ++ p.returning.toList.map returningLine)
  have hline := mentions_returning_updateLine htable d p.key p.updated
  rw [UpsertPlan.text, UpsertPlan.lines, if_neg hmethod]
  refine htext ▸ hline _

/-! ## Capabilities -/

/-- The native method needs its capability. -/
theorem onConflict_of_checkMethod {backend : Backend} {capabilities : Capabilities}
    {statement : RowStatement} {named : Value}
    (h : Dialect.checkMethod backend capabilities statement named = .ok .onConflict) :
    capabilities.onConflict = true := by
  simp only [Dialect.checkMethod] at h
  split at h
  · split at h
    · cases h
    next method _ =>
      split at h
      next => cases h
      next hnative =>
        cases h
        simpa [Method.isNative] using hnative
  · cases h

theorem onConflict_of_resolveMethod {statement : RowStatement} {named : Value}
    (h : d.resolveMethod statement named = .ok .onConflict) : d.capabilities.onConflict = true :=
  onConflict_of_checkMethod h

/-- Of its own, apart from the source and outside quoted tokens, an insert writes
    `ON CONFLICT` and `RETURNING` only where the dialect has the capability. So does an upsert
    write `ON CONFLICT`, but its update by a common table expression writes `RETURNING` with
    and without the capability. -/
theorem mentions_of_capabilities (d : Dialect) :
    (∀ (r : InsertRequest) (text : String) (record : LogRecord),
      insertStatement d r = .ok (text, record) →
      ∃ outline : Outline,
        (∀ source, insertStatement d { r with source } = .ok (outline.fill source, record)) ∧
        (Mentions "ON CONFLICT" outline.ownText → d.capabilities.onConflict = true) ∧
        (Mentions "RETURNING" outline.ownText → d.capabilities.returning = true)) ∧
    (∀ (r : UpsertRequest) (text : String) (record : LogRecord),
      upsertStatement d r = .ok (text, record) →
      ∃ outline : Outline,
        (∀ source, upsertStatement d { r with source } = .ok (outline.fill source, record)) ∧
        (Mentions "ON CONFLICT" outline.ownText → d.capabilities.onConflict = true) ∧
        ((Mentions "RETURNING" outline.ownText → d.capabilities.returning = true) ↔
          d.resolveMethod .upsert r.method = .ok .onConflict ∨
            d.capabilities.returning = true)) := by
  constructor
  · intro r text record hstatement
    obtain ⟨p, hp, _, rfl⟩ := exists_insertPlan hstatement
    have hfits := InsertPlan.fits hp
    refine ⟨p.outline d, fun source => ?_, fun hmention => ?_, fun hmention => ?_⟩
    · rw [insertStatement_of_plan hp, p.text_eq]
    · rw [← Outline.fill_empty, ← p.text_eq] at hmention
      have hinfix := capitals_infix_of_mentions hfits.reads_text hmention
      have hnative := onConflict_infix_insertCapitals _ _ _ _ hinfix
      rw [decide_eq_true_eq] at hnative
      exact onConflict_of_resolveMethod (hnative ▸ hfits.method)
    · rw [← Outline.fill_empty, ← p.text_eq] at hmention
      have hinfix := capitals_infix_of_mentions hfits.reads_text hmention
      have hreturning := returning_infix_insertCapitals _ _ _ _ hinfix
      obtain ⟨texts, htexts⟩ := Option.isSome_iff_exists.1 hreturning
      exact (mem_returnedTexts (htexts ▸ hfits.returning)).1
  · intro r text record hstatement
    obtain ⟨p, hp, _, rfl⟩ := exists_upsertPlan hstatement
    have hfits := UpsertPlan.fits hp
    have hreads := hfits.reads_text
    refine ⟨p.outline d, fun source => ?_, ?_⟩
    · rw [upsertStatement_of_plan hp, p.text_eq]
    rw [← Outline.fill_empty, ← p.text_eq, hfits.method]
    by_cases hmethod : p.method = .onConflict
    · have hflag := onConflict_of_resolveMethod (hmethod ▸ hfits.method)
      refine ⟨fun _ => hflag, iff_of_true (fun hmention => ?_) (.inl (by rw [hmethod]))⟩
      rw [decide_eq_true hmethod] at hreads
      have hinfix := capitals_infix_of_mentions hreads hmention
      obtain ⟨texts, htexts⟩ :=
        Option.isSome_iff_exists.1 (returning_infix_upsertCapitals _ _ hinfix)
      exact (mem_returnedTexts (htexts ▸ hfits.returning)).1
    · rw [decide_eq_false hmethod] at hreads
      refine ⟨fun hmention => ?_, ?_⟩
      · exact absurd (capitals_infix_of_mentions hreads hmention)
          (onConflict_infix_upsertCapitals _ _)
      · have hmention := mentions_returning_text hfits hmethod
        rw [or_iff_right (by simpa using hmethod)]
        exact ⟨fun h => h hmention, fun h _ => h⟩

/-- An upsert of one column by another. -/
def plainUpsert : UpsertRequest where
  table := "df_x"
  source := "SELECT a, b FROM src"
  key := .list [.text "a"]
  updated := .list [.text "b"]

def plainPlan : UpsertPlan := ⟨"df_x", .cteUpdate, ["a"], ["b"], none⟩

theorem upsertPlan_plainUpsert : upsertPlan (.standard .ansi) plainUpsert = .ok plainPlan := by cbv

theorem text_plainUpsert : plainPlan.text (.standard .ansi) plainUpsert.source =
    "WITH updated AS (\n  UPDATE df_x\n  SET b = \"...y\".b\n" ++
      "  FROM (SELECT a, b FROM src) AS \"...y\"\n  WHERE (\"...y\".a = df_x.a)\n" ++
      "  RETURNING df_x.*\n)\nINSERT INTO df_x (a, b)\nSELECT a, b\n" ++
      "FROM (SELECT a, b FROM src) AS \"...y\"\nWHERE NOT EXISTS (\n  SELECT 1\n" ++
      "  FROM updated\n  WHERE (updated.a = \"...y\".a)\n)" := by
  decide +kernel

/-- An insert that leaves known rows as they are. -/
def ignoringInsert : InsertRequest where
  table := "df_x"
  source := "SELECT a, b FROM src"
  columns := .list [.text "a", .text "b"]
  key := .list [.text "a"]
  conflict := .text "ignore"

/-- Without either capability an insert mentions neither word; an upsert mentions one. -/
theorem mentions_of_capabilities_ansi :
    (∃ outline : Outline, ∃ record,
      insertStatement (.standard .ansi) ignoringInsert =
        .ok (outline.fill ignoringInsert.source, record) ∧
      ¬ Mentions "ON CONFLICT" outline.ownText ∧ ¬ Mentions "RETURNING" outline.ownText) ∧
    ∃ outline : Outline, ∃ record,
      upsertStatement (.standard .ansi) plainUpsert =
        .ok (outline.fill plainUpsert.source, record) ∧
      ¬ Mentions "ON CONFLICT" outline.ownText ∧ Mentions "RETURNING" outline.ownText := by
  have hnone : ¬ (Dialect.standard .ansi).capabilities.returning = true ∧
      ¬ (Dialect.standard .ansi).capabilities.onConflict = true := by decide
  constructor
  · have hplan : insertPlan (.standard .ansi) ignoringInsert =
        .ok ⟨"df_x", ["a", "b"], .ignore, .whereNotExists, ["a"], none⟩ := by cbv
    obtain ⟨outline, hfill, hconflict, hreturning⟩ :=
      (mentions_of_capabilities (.standard .ansi)).1 ignoringInsert _ _
        (insertStatement_of_plan hplan ignoringInsert.source)
    exact ⟨outline, _, hfill ignoringInsert.source, mt hconflict hnone.2,
      mt hreturning hnone.1⟩
  · obtain ⟨outline, hfill, hconflict, hreturning⟩ :=
      (mentions_of_capabilities (.standard .ansi)).2 plainUpsert _ _
        (upsertStatement_of_plan upsertPlan_plainUpsert plainUpsert.source)
    have hmethod : (Dialect.standard .ansi).resolveMethod .upsert plainUpsert.method ≠
        .ok .onConflict := by
      intro h
      cases h
    refine ⟨outline, _, hfill plainUpsert.source, mt hconflict hnone.2, ?_⟩
    by_contra hmention
    rcases hreturning.1 fun h => absurd h hmention with h | h
    · exact hmethod h
    · exact hnone.1 h

/-- The upsert of a dialect without `RETURNING` mentions it. -/
theorem not_mentions_of_capabilities_ansi :
    (Dialect.standard .ansi).capabilities.returning = false ∧
    (upsertStatement (.standard .ansi) plainUpsert).map Prod.fst =
      .ok ("WITH updated AS (\n  UPDATE df_x\n  SET b = \"...y\".b\n" ++
        "  FROM (SELECT a, b FROM src) AS \"...y\"\n  WHERE (\"...y\".a = df_x.a)\n" ++
        "  RETURNING df_x.*\n)\nINSERT INTO df_x (a, b)\nSELECT a, b\n" ++
        "FROM (SELECT a, b FROM src) AS \"...y\"\nWHERE NOT EXISTS (\n  SELECT 1\n" ++
        "  FROM updated\n  WHERE (updated.a = \"...y\".a)\n)") ∧
    ∃ outline : Outline,
      (∀ source, (upsertStatement (.standard .ansi) { plainUpsert with source }).map Prod.fst =
        .ok (outline.fill source)) ∧
      Mentions "RETURNING" outline.ownText := by
  refine ⟨rfl, ?_, plainPlan.outline (.standard .ansi), fun source => ?_, ?_⟩
  · have hstatement := upsertStatement_of_plan upsertPlan_plainUpsert plainUpsert.source
    rw [text_plainUpsert] at hstatement
    exact congrArg (Except.map Prod.fst) hstatement
  · rw [upsertStatement_of_plan upsertPlan_plainUpsert, UpsertPlan.text_eq]
    rfl
  · rw [← Outline.fill_empty, ← UpsertPlan.text_eq]
    exact mentions_returning_text (UpsertPlan.fits upsertPlan_plainUpsert) (by decide)

end SqlDialects
