-- SUMMARY: The indented subqueries of row statements keep their quoted tokens exactly when no line ends in one of them.
import SqlDialects.Proofs.Statement.Reading
import SqlDialects.Proofs.Statement.Source

/-!
# Subqueries of row statements

The general forms of an insert and an upsert hold subqueries on lines of their own,
which are indented. Indenting is meant as layout. It is that exactly as long as no
line ends inside a quoted token: in the name of a table or a column, or in a text of
the source. Otherwise the rows of the update are not those of the insert, since the
source is indented in the first and stands as it is in the second.
-/

namespace SqlDialects

/-- Indenting a text leaves its quoted tokens as they are. -/
def KeepsQuoted (s : String) : Prop :=
  quotedTokens (Text.indent s).toList = quotedTokens s.toList

/-! ## Unbroken lines -/

@[simp] theorem seenBare_quoted? (s : String) : seenBare Token.quoted? s = [] :=
  List.filterMap_eq_nil_iff.2 fun _ _ => rfl

theorem Reads.isUnbroken_iff {s : String} {out : List Token} (h : Reads Token.quoted? s out) :
    IsUnbroken s ↔ ∀ t ∈ out, t.IsUnbroken := by
  rw [IsUnbroken, ← seen_quoted?, h.seen_eq]

theorem forall_mem_seen_iff (s : String) :
    (∀ t ∈ seen Token.quoted? s, t.IsUnbroken) ↔ IsUnbroken s := by
  rw [seen_quoted?]
  rfl

theorem isUnbroken_sourceAlias : IsUnbroken (Identifier.escaped sourceAlias) :=
  (isUnbroken_escaped_iff sourceAlias).2 (.inl (by simp [sourceAlias, Text.isLineEnd]))

/-- The parts of a key match that can be broken are the two qualifiers and the columns. -/
theorem forall_mem_equations_iff {lefts rights : List Token} {key : List String} (h : key ≠ []) :
    (∀ t ∈ (key.map (seenEquation Token.quoted? lefts rights)).flatten, t.IsUnbroken) ↔
      (∀ t ∈ lefts, t.IsUnbroken) ∧ (∀ t ∈ rights, t.IsUnbroken) ∧
        ∀ c ∈ key, IsUnbroken (Identifier.escaped c) := by
  obtain ⟨first, hfirst⟩ := List.exists_mem_of_ne_nil key h
  simp only [seenEquation, seenBare_quoted?, List.nil_append, List.append_nil,
    ← List.flatMap_def, List.mem_flatMap, List.mem_append]
  constructor
  · intro hall
    refine ⟨fun t ht => hall t ⟨first, hfirst, .inl (.inl ht)⟩,
      fun t ht => hall t ⟨first, hfirst, .inr (.inl ht)⟩, fun c hc => ?_⟩
    exact (forall_mem_seen_iff _).1 fun t ht => hall t ⟨c, hc, .inl (.inr ht)⟩
  · rintro ⟨hlefts, hrights, hkey⟩ t ⟨c, hc, (ht | ht) | (ht | ht)⟩
    · exact hlefts t ht
    · exact (forall_mem_seen_iff _).2 (hkey c hc) t ht
    · exact hrights t ht
    · exact (forall_mem_seen_iff _).2 (hkey c hc) t ht

/-- The parts of assignments that can be broken are the qualifier and the columns. -/
theorem forall_mem_assignments_iff {qualifiers : List Token} {columns : List String}
    (h : columns ≠ []) :
    (∀ t ∈ (columns.map (seenAssignment Token.quoted? qualifiers)).flatten, t.IsUnbroken) ↔
      (∀ t ∈ qualifiers, t.IsUnbroken) ∧ ∀ c ∈ columns, IsUnbroken (Identifier.escaped c) := by
  obtain ⟨first, hfirst⟩ := List.exists_mem_of_ne_nil columns h
  simp only [seenAssignment, seenBare_quoted?, List.nil_append, ← List.flatMap_def,
    List.mem_flatMap, List.mem_append]
  constructor
  · intro hall
    refine ⟨fun t ht => hall t ⟨first, hfirst, .inr (.inl ht)⟩, fun c hc => ?_⟩
    exact (forall_mem_seen_iff _).1 fun t ht => hall t ⟨c, hc, .inl ht⟩
  · rintro ⟨hqualifiers, hcolumns⟩ t ⟨c, hc, ht | ht | ht⟩
    · exact (forall_mem_seen_iff _).2 (hcolumns c hc) t ht
    · exact hqualifiers t ht
    · exact (forall_mem_seen_iff _).2 (hcolumns c hc) t ht

theorem isUnbroken_probeText_iff {target : String} (htarget : IsBalanced target.toList)
    {key : List String} (h : key ≠ []) : IsUnbroken (probeText target key) ↔
      IsUnbroken target ∧ ∀ c ∈ key, IsUnbroken (Identifier.escaped c) := by
  rw [((Reads.of_balanced htarget).probeText key).isUnbroken_iff]
  simp only [seenBare_quoted?, nil_intercalate, List.nil_append, List.flatten_cons,
    List.flatten_nil, List.append_nil, List.forall_mem_append, forall_mem_equations_iff h,
    forall_mem_seen_iff]
  constructor
  · rintro ⟨htarget, _, _, hkey⟩
    exact ⟨htarget, hkey⟩
  · rintro ⟨htarget, hkey⟩
    exact ⟨htarget, htarget, isUnbroken_sourceAlias, hkey⟩

theorem isUnbroken_updateText_iff {table source : String} (htable : IsBalanced table.toList)
    (hsource : IsBalanced source.toList) (d : Dialect) {key updated : List String}
    (hkey : key ≠ []) (hupdated : updated ≠ []) :
    IsUnbroken (updateText d table source key updated) ↔
      IsUnbroken source ∧ IsUnbroken table ∧
        ∀ c ∈ key ++ updated, IsUnbroken (Identifier.escaped c) := by
  rw [((Reads.of_balanced htable).updateText (.of_balanced hsource) d key updated).isUnbroken_iff]
  simp only [seenBare_quoted?, nil_intercalate, List.nil_append, List.flatten_cons,
    List.flatten_nil, List.append_nil, List.forall_mem_append, forall_mem_equations_iff hkey,
    forall_mem_assignments_iff (eraseDups_ne_nil hupdated), List.mem_eraseDups, forall_mem_seen_iff]
  constructor
  · rintro ⟨htable, ⟨_, hupdated⟩, ⟨hsource, _⟩, ⟨_, _, hkey⟩, _⟩
    exact ⟨hsource, htable, hkey, hupdated⟩
  · rintro ⟨hsource, htable, hkey, hupdated⟩
    exact ⟨htable, ⟨isUnbroken_sourceAlias, hupdated⟩, ⟨hsource, isUnbroken_sourceAlias⟩,
      ⟨isUnbroken_sourceAlias, htable, hkey⟩, htable⟩

/-! ## Indented subqueries -/

theorem keepsQuoted_iff {s : String} {c : Char} (hlast : s.toList.getLast? = some c)
    (hc : Text.isLineEnd c = false) : KeepsQuoted s ↔ IsUnbroken s := by
  rw [KeepsQuoted, quotedTokens_indent hlast hc, quotedTokens_hung_eq_iff]

theorem keepsQuoted_probeText_iff {target : String} (htarget : IsBalanced target.toList)
    {key : List String} (h : key ≠ []) : KeepsQuoted (probeText target key) ↔
      IsUnbroken target ∧ ∀ c ∈ key, IsUnbroken (Identifier.escaped c) := by
  rw [keepsQuoted_iff (getLast?_probeText h target) (by decide), isUnbroken_probeText_iff htarget h]

theorem keepsQuoted_updateText_iff {table source : String} (htable : IsBalanced table.toList)
    (hsource : IsBalanced source.toList) (d : Dialect) {key updated : List String}
    (hkey : key ≠ []) (hupdated : updated ≠ []) :
    KeepsQuoted (updateText d table source key updated) ↔
      IsUnbroken source ∧ IsUnbroken table ∧
        ∀ c ∈ key ++ updated, IsUnbroken (Identifier.escaped c) := by
  rw [keepsQuoted_iff (getLast?_updateText ..) (by decide),
    isUnbroken_updateText_iff htable hsource d hkey hupdated]

/-! ## Statements -/

theorem isUnbroken_updatedAlias : IsUnbroken (Identifier.escaped updatedAlias) :=
  (isUnbroken_escaped_iff updatedAlias).2 (.inl (by simp [updatedAlias, Text.isLineEnd]))

/-- A general upsert has the source twice: indented in the update, and as it is. -/
theorem UpsertPlan.exists_sources {p : UpsertPlan} (h : p.method ≠ .onConflict) (d : Dialect) :
    ∃ before between after, ∀ source,
      p.text d source = before ++ Text.hungText source ++ between ++ source ++ after := by
  refine ⟨"WITH " ++ Identifier.escaped updatedAlias ++ " AS " ++ "(\n" ++ "  " ++
    Text.hungText p.updateHead, Text.hungText (p.updateTail d) ++ "\n)" ++ "\n" ++
    closed [insertLine p.table p.columns, selectLine p.columns] ++ "FROM (", sourceEnd d ++
    opened (probeLine (Identifier.escaped updatedAlias) p.key ::
      p.returning.toList.map returningLine), fun source => ?_⟩
  rw [text_eq, outline, if_neg h]
  simp only [updateOutline, Outline.around, Outline.fill, Piece.fill, List.cons_append,
    List.nil_append, List.map_cons, List.map_nil, String.join_cons, String.join_nil,
    String.append_empty, String.append_assoc]

/-- The subqueries of the general forms are written on indented lines, and these keep their
    quoted tokens exactly when no line ends in the name of a table or column that is quoted
    there, nor in a quoted token of the source. A general upsert holds the source twice, and
    its update reads other texts than its insert exactly when a line ends in one of them. -/
theorem subqueries_keepQuoted_iff (d : Dialect) :
    (∀ (r : InsertRequest) (text : String) (record : LogRecord),
      insertStatement d r = .ok (text, record) →
      d.resolveMethod .insert r.method = .ok .whereNotExists →
      ConflictAction.ofValue r.conflict = .ok .ignore →
      ∃ p, insertPlan d r = .ok p ∧
        text = "\n".intercalate ([insertLine p.table p.columns, "SELECT *", sourceLine d r.source,
          "WHERE NOT EXISTS " ++ blockText (probeText p.table p.key)] ++
          p.returning.toList.map returningLine) ∧
        (KeepsQuoted (probeText p.table p.key) ↔
          IsUnbroken p.table ∧ ∀ c ∈ p.key, IsUnbroken (Identifier.escaped c))) ∧
    (∀ (r : UpsertRequest) (text : String) (record : LogRecord),
      upsertStatement d r = .ok (text, record) →
      d.resolveMethod .upsert r.method = .ok .cteUpdate →
      IsBalanced r.source.toList →
      ∃ p, upsertPlan d r = .ok p ∧
        text = "\n".intercalate (["WITH updated AS " ++
            blockText (updateText d p.table r.source p.key p.updated),
          insertLine p.table p.columns, selectLine p.columns, sourceLine d r.source,
          "WHERE NOT EXISTS " ++ blockText (probeText "updated" p.key)] ++
          p.returning.toList.map returningLine) ∧
        (KeepsQuoted (updateText d p.table r.source p.key p.updated) ↔
          IsUnbroken r.source ∧ IsUnbroken p.table ∧
            ∀ c ∈ p.key ++ p.updated, IsUnbroken (Identifier.escaped c)) ∧
        (KeepsQuoted (probeText "updated" p.key) ↔
          ∀ c ∈ p.key, IsUnbroken (Identifier.escaped c)) ∧
        (∃ before between after, ∀ source, upsertStatement d { r with source } =
          .ok (before ++ Text.hungText source ++ between ++ source ++ after, record)) ∧
        (quotedTokens (Text.hungText r.source).toList = quotedTokens r.source.toList ↔
          IsUnbroken r.source)) := by
  have hname : Identifier.escaped updatedAlias = "updated" := by decide
  constructor
  · intro r text record hstatement hmethod hconflict
    obtain ⟨p, hp, rfl, _⟩ := exists_insertPlan hstatement
    have hfits := InsertPlan.fits hp
    have hmethod : p.method = .whereNotExists := Except.ok.inj (hfits.method.symm.trans hmethod)
    have hconflict : p.conflict = .ignore := Except.ok.inj (hfits.conflict.symm.trans hconflict)
    refine ⟨p, hp, ?_, ?_⟩
    · rw [InsertPlan.text, InsertPlan.lines, InsertPlan.conflictLines, hconflict, hmethod]
      rfl
    · refine keepsQuoted_probeText_iff ?_ (hfits.key_ne hconflict)
      rw [hfits.table_eq]
      exact isBalanced_table r.table
  · intro r text record hstatement hmethod hsource
    obtain ⟨p, hp, rfl, rfl⟩ := exists_upsertPlan hstatement
    have hfits := UpsertPlan.fits hp
    have hmethod : p.method = .cteUpdate := Except.ok.inj (hfits.method.symm.trans hmethod)
    have htable : IsBalanced p.table.toList := by
      rw [hfits.table_eq]
      exact isBalanced_table r.table
    refine ⟨p, hp, ?_, ?_, ?_, ?_, ?_⟩
    · rw [UpsertPlan.text, UpsertPlan.lines, hmethod, ← hname]
      rfl
    · exact keepsQuoted_updateText_iff htable hsource d hfits.key_ne hfits.updated_ne
    · have hprobe := keepsQuoted_probeText_iff (isBalanced_escaped updatedAlias) hfits.key_ne
      rw [← hname, hprobe, and_iff_right isUnbroken_updatedAlias]
    · obtain ⟨before, between, after, htext⟩ :=
        UpsertPlan.exists_sources (p := p) (by simp [hmethod]) d
      refine ⟨before, between, after, fun source => ?_⟩
      rw [upsertStatement_of_plan hp, htext]
    · rw [Text.hungText, String.toList_ofList, quotedTokens_hung_eq_iff]

/-- An upsert whose source holds a text over two lines. -/
def twoLineUpsert : UpsertRequest where
  table := "t"
  source := "SELECT 'a\nb' AS v"
  key := .list [.text "k"]
  updated := .list [.text "v"]
  method := .text "cte_update"

def twoLinePlan : UpsertPlan := ⟨"t", .cteUpdate, ["k"], ["v"], none⟩

theorem upsertPlan_twoLineUpsert : upsertPlan (.standard .postgres) twoLineUpsert =
    .ok twoLinePlan := by cbv

theorem text_twoLineUpsert : twoLinePlan.text (.standard .postgres) twoLineUpsert.source =
    "WITH updated AS (\n  UPDATE t\n  SET v = \"...y\".v\n" ++
      "  FROM (SELECT 'a\n  b' AS v) AS \"...y\"\n  WHERE (\"...y\".k = t.k)\n" ++
      "  RETURNING t.*\n)\nINSERT INTO t (k, v)\nSELECT k, v\n" ++
      "FROM (SELECT 'a\nb' AS v) AS \"...y\"\nWHERE NOT EXISTS (\n  SELECT 1\n" ++
      "  FROM updated\n  WHERE (updated.k = \"...y\".k)\n)" := by
  decide +kernel

theorem cut_twoLineUpsert : cut twoLineUpsert.source.toList = "SELECT ".toList.map .bare ++
    .text ['a', '\n', 'b'] :: " AS v".toList.map .bare := by cbv

theorem isBalanced_twoLineUpsert : IsBalanced twoLineUpsert.source.toList := by
  rw [IsBalanced, cut_twoLineUpsert]
  simp

theorem not_isUnbroken_twoLineUpsert : ¬ IsUnbroken twoLineUpsert.source := by
  have htext : Token.text ['a', '\n', 'b'] ∈ quotedTokens twoLineUpsert.source.toList := by
    rw [quotedTokens, cut_twoLineUpsert]
    simp [Token.isQuoted]
  intro h
  exact absurd (h _ htext '\n' (by simp [Token.content])) (by decide)

/-- An insert by key into a table whose name is quoted. -/
def quotedInsert : InsertRequest where
  table := "T"
  source := "SELECT 1 AS k"
  columns := .list [.text "k"]
  key := .list [.text "k"]
  conflict := .text "ignore"

/-- The names of the insert are kept; the text in the update's source is not. -/
theorem subqueries_keepQuoted_twoLineUpsert :
    (∃ p, insertPlan (.standard .ansi) quotedInsert = .ok p ∧
      KeepsQuoted (probeText p.table p.key)) ∧
    ∃ p, upsertPlan (.standard .postgres) twoLineUpsert = .ok p ∧
      ¬ KeepsQuoted (updateText (.standard .postgres) p.table twoLineUpsert.source p.key
        p.updated) := by
  constructor
  · have hplan : insertPlan (.standard .ansi) quotedInsert =
      .ok ⟨"\"T\"", ["k"], .ignore, .whereNotExists, ["k"], none⟩ := by cbv
    obtain ⟨p, hp, _, hkeeps⟩ := (subqueries_keepQuoted_iff (.standard .ansi)).1
      quotedInsert _ _ (insertStatement_of_plan hplan quotedInsert.source) (by cbv) (by cbv)
    cases hplan.symm.trans hp
    refine ⟨_, hplan, hkeeps.2 ⟨?_, ?_⟩⟩
    · exact (isUnbroken_escaped_iff "T").2 (.inl (by simp [Text.isLineEnd]))
    · simpa using (isUnbroken_escaped_iff "k").2 (.inl (by simp [Text.isLineEnd]))
  · have hstatement := upsertStatement_of_plan upsertPlan_twoLineUpsert twoLineUpsert.source
    obtain ⟨p, hp, _, hkeeps, _⟩ := (subqueries_keepQuoted_iff (.standard .postgres)).2
      twoLineUpsert _ _ hstatement (by cbv) isBalanced_twoLineUpsert
    exact ⟨p, hp, fun h => not_isUnbroken_twoLineUpsert (hkeeps.1 h).1⟩

/-- The update reads another text than the insert does. -/
theorem not_keepsQuoted_twoLineUpsert :
    IsBalanced twoLineUpsert.source.toList ∧
    (upsertStatement (.standard .postgres) twoLineUpsert).map Prod.fst =
      .ok ("WITH updated AS (\n  UPDATE t\n  SET v = \"...y\".v\n" ++
        "  FROM (SELECT 'a\n  b' AS v) AS \"...y\"\n  WHERE (\"...y\".k = t.k)\n" ++
        "  RETURNING t.*\n)\nINSERT INTO t (k, v)\nSELECT k, v\n" ++
        "FROM (SELECT 'a\nb' AS v) AS \"...y\"\nWHERE NOT EXISTS (\n  SELECT 1\n" ++
        "  FROM updated\n  WHERE (updated.k = \"...y\".k)\n)") ∧
    ¬ KeepsQuoted (updateText (.standard .postgres) "t" twoLineUpsert.source ["k"] ["v"]) := by
  have hstatement := upsertStatement_of_plan upsertPlan_twoLineUpsert twoLineUpsert.source
  rw [text_twoLineUpsert] at hstatement
  refine ⟨isBalanced_twoLineUpsert, congrArg (Except.map Prod.fst) hstatement, fun h => ?_⟩
  have hkeeps := keepsQuoted_updateText_iff (isBalanced_escaped "t") isBalanced_twoLineUpsert
    (.standard .postgres) (List.cons_ne_nil "k" []) (List.cons_ne_nil "v" [])
  exact not_isUnbroken_twoLineUpsert (hkeeps.1 h).1

end SqlDialects
