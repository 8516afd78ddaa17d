-- SUMMARY: The quotes of every line of a row statement are balanced, and what a view sees of it.
import SqlDialects.Proofs.Layout.Indentation
import SqlDialects.Proofs.Statement.Plan

/-!
# Reading the lines of row statements

A written name is plain or quoted, so its quotes are balanced, and every line is put
together from names and from words without quotes. The source alone may have
unbalanced quotes. What a view sees of a line are the parts it sees of the names, in
order, with what it sees of the words between them.
-/

namespace SqlDialects

variable {β : Type} {view : Token → Option β} {s q : String} {out : List β}

/-! ## Names -/

theorem isLineEnd_of_isPart {c : Char} (h : Identifier.isPart c = true) :
    Text.isLineEnd c = false := by
  rw [Text.isLineEnd, List.contains_eq_mem, decide_eq_false_iff_not]
  rcases Identifier.isPart_iff.1 h with (h | rfl) | h
  · simp only [List.mem_cons, List.not_mem_nil, or_false]
    omega
  · decide
  · simp only [List.mem_cons, List.not_mem_nil, or_false]
    omega

/-- A plain name is cut into its characters, and every other one is a single token. -/
theorem cut_escaped (name : String) :
    (Identifier.isPlain name.toList = true ∧
      cut (Identifier.escaped name).toList = name.toList.map .bare) ∨
    (¬ Identifier.EndsInLineFeed name ∧
      cut (Identifier.escaped name).toList = [.name name.toList]) := by
  rw [Identifier.escaped]
  split
  next h =>
    obtain ⟨hplain, _⟩ := Bool.and_eq_true_iff.1 h
    have hbare : ∀ c ∈ name.toList, isQuote c = false := by
      intro c hc
      rw [isQuote, Bool.or_eq_false_iff, decide_eq_false_iff_not, decide_eq_false_iff_not]
      constructor <;>
        · rintro rfl
          exact absurd (Identifier.isPart_or_eq_of_isPlain hplain _ hc) (by decide)
    have hcut := cut_bare_append hbare []
    rw [List.append_nil, cut_nil, List.append_nil] at hcut
    exact .inl ⟨hplain, hcut⟩
  next h =>
    have hread : readQuoted '"' (doubled '"' name.toList ++ ['"']) = some (name.toList, []) :=
      readQuoted_doubled .nil name.toList
    refine .inr ⟨?_, ?_⟩
    · rintro ⟨hplain, hlast⟩
      exact h (by simp [hplain, Identifier.not_isReserved_of_lineFeed hlast])
    · rw [Identifier.quoted, String.toList_ofList, List.cons_append, cut_quoted (by decide) hread,
        cut_nil]
      rfl

theorem isBalanced_escaped (name : String) : IsBalanced (Identifier.escaped name).toList := by
  rcases cut_escaped name with ⟨_, hcut⟩ | ⟨_, hcut⟩ <;> simp [IsBalanced, hcut]

theorem reads_escaped (name : String) :
    Reads view (Identifier.escaped name) (seen view (Identifier.escaped name)) :=
  .of_balanced (isBalanced_escaped name)

theorem isBalanced_table (name : String) : IsBalanced (Identifier.table name).toList := by
  rw [Identifier.table]
  split
  · exact isBalanced_escaped name
  next schema name _ =>
    have hschema : Reads Token.quoted? (Identifier.escaped (String.ofList schema)) _ :=
      reads_escaped _
    exact (hschema.between "." (by decide) (reads_escaped (String.ofList name))).balanced

/-- A line ends in the token of a name exactly when it ends in the name, unless the name
    is a plain word with one line feed behind it, which is written without quotes. -/
theorem isUnbroken_escaped_iff (name : String) : IsUnbroken (Identifier.escaped name) ↔
    (∀ c ∈ name.toList, Text.isLineEnd c = false) ∨ Identifier.EndsInLineFeed name := by
  rcases cut_escaped name with ⟨hplain, hcut⟩ | ⟨hfeed, hcut⟩
  · refine iff_of_true ?_ ?_
    · intro t ht
      rw [quotedTokens, hcut, List.mem_filter] at ht
      obtain ⟨⟨c, _, rfl⟩, hquoted⟩ := ht.imp_left List.mem_map.1
      cases hquoted
    · obtain ⟨c, ds, hc, hds, hname | hname⟩ := Identifier.word_of_isPlain hplain
      · exact .inl fun d hd =>
          isLineEnd_of_isPart (Identifier.isPart_of_mem_word hc hds (hname ▸ hd))
      · exact .inr (Identifier.endsInLineFeed_of_word hname hplain)
  · rw [or_iff_left hfeed, IsUnbroken, quotedTokens, hcut]
    simp [Token.isQuoted, Token.IsUnbroken, Token.content]

/-! ## Marks -/

/-- A character that no written name has outside quotes, and that is no layout either. -/
def isMark (c : Char) : Bool :=
  !(Identifier.isPart c || Text.isLineEnd c || c = ' ' || c = '.')

/-- Characters of which every one is a mark. -/
def OnlyMarks (p : Char → Bool) : Prop := ∀ c, p c = true → isMark c = true

namespace OnlyMarks

variable {p : Char → Bool}

theorem of_all {marks : List Char} (h : marks.all isMark = true) :
    OnlyMarks fun c => marks.contains c := by
  intro c hc
  exact List.all_eq_true.1 h c (by simpa using hc)

theorem eq_false (h : OnlyMarks p) {c : Char} (hc : isMark c = false) : p c = false := by
  cases hp : p c with
  | false => rfl
  | true =>
    rw [h c hp] at hc
    cases hc

theorem ignoresLayout (h : OnlyMarks p) : IgnoresLayout (Token.bare? p) :=
  ignoresLayout_bare? (h.eq_false (by decide)) fun c hc => h.eq_false (by simp [isMark, hc])

theorem seen_escaped (h : OnlyMarks p) (name : String) :
    seen (Token.bare? p) (Identifier.escaped name) = [] := by
  rcases cut_escaped name with ⟨hplain, hcut⟩ | ⟨_, hcut⟩
  · rw [seen, hcut, List.filterMap_map, List.filterMap_eq_nil_iff]
    intro c hc
    have hmark : isMark c = false := by
      rcases Identifier.isPart_or_eq_of_isPlain hplain c hc with hpart | rfl
      · simp [isMark, hpart]
      · decide
    simp [Token.bare?, h.eq_false hmark]
  · rw [seen, hcut]
    rfl

theorem reads_escaped (h : OnlyMarks p) (name : String) :
    Reads (Token.bare? p) (Identifier.escaped name) [] :=
  ⟨isBalanced_escaped name, h.seen_escaped name⟩

theorem reads_table (h : OnlyMarks p) (name : String) :
    Reads (Token.bare? p) (Identifier.table name) [] := by
  rw [Identifier.table]
  split
  · exact h.reads_escaped name
  · have hdot : seenBare (Token.bare? p) "." = [] := by
      simp [seenBare, Token.bare?, h.eq_false (c := '.') (by decide)]
    simpa [hdot] using (h.reads_escaped _).between "." (by decide) (h.reads_escaped _)

end OnlyMarks

/-! ## Lines -/

variable {table source : String} {tables sources : List β}

/-- What is seen of names in a list. -/
def seenColumns (view : Token → Option β) (columns : List String) : List β :=
  (seenBare view ", ").intercalate (columns.map fun c => seen view (Identifier.escaped c))

theorem Reads.intercalate_map {α : Type} {text : α → String} {out : α → List β}
    (h : ∀ x, Reads view (text x) (out x)) (separator : String)
    (hsep : isGap separator = true) (xs : List α) :
    Reads view (separator.intercalate (xs.map text))
      ((seenBare view separator).intercalate (xs.map out)) := by
  refine .intercalate separator hsep ?_
  rw [List.forall₂_map_left_iff, List.forall₂_map_right_iff]
  exact List.forall₂_same.2 fun x _ => h x

theorem Reads.parenthesised (h : Reads view s out) :
    Reads view (parenthesised s) (seenBare view "(" ++ out ++ seenBare view ")") :=
  (bare_append (by decide) h).append_bare (by decide)

theorem Reads.qualifiedText (h : Reads view q out) (column : String) :
    Reads view (qualifiedText q column)
      (out ++ (seenBare view "." ++ seen view (Identifier.escaped column))) :=
  h.between "." (by decide) (reads_escaped column)

theorem reads_columnsText (columns : List String) :
    Reads view (columnsText columns) (seenColumns view columns) :=
  .intercalate_map reads_escaped ", " (by decide) columns

theorem Reads.insertLine (h : Reads view table tables) (columns : List String) :
    Reads view (insertLine table columns) (seenBare view "INSERT INTO " ++ tables ++
      (seenBare view " " ++
        (seenBare view "(" ++ seenColumns view columns ++ seenBare view ")"))) :=
  (bare_append (by decide) h).between " " (by decide) (reads_columnsText columns).parenthesised

theorem reads_selectLine (columns : List String) :
    Reads view (selectLine columns) (seenBare view "SELECT " ++ seenColumns view columns) :=
  .bare_append (by decide) (reads_columnsText columns)

/-- The word between a subquery and its name. -/
def aliasWord (d : Dialect) : String :=
  if d.capabilities.tableAliasWithAs then " AS " else " "

theorem Reads.sourceLine (h : Reads view source sources) (d : Dialect) :
    Reads view (sourceLine d source) (seenBare view "FROM " ++
      (seenBare view "(" ++ sources ++ seenBare view ")" ++
        (seenBare view (aliasWord d) ++ seen view (Identifier.escaped sourceAlias)))) := by
  refine bare_append (by decide) (h.parenthesised.between (aliasWord d) ?_ (reads_escaped _))
  rw [aliasWord]
  split <;> decide

theorem reads_targetLine (key : List String) :
    Reads view (targetLine key) (seenBare view "ON CONFLICT " ++
      (seenBare view "(" ++ seenColumns view key ++ seenBare view ")")) :=
  .bare_append (by decide) (reads_columnsText key).parenthesised

/-- What is seen of an assignment, given what is seen of its qualifier. -/
def seenAssignment (view : Token → Option β) (qualifiers : List β) (column : String) : List β :=
  seen view (Identifier.escaped column) ++ (seenBare view " = " ++
    (qualifiers ++ (seenBare view "." ++ seen view (Identifier.escaped column))))

theorem Reads.setLine {qualifiers : List β} (h : Reads view q qualifiers) (columns : List String) :
    Reads view (setLine q columns) (seenBare view "SET " ++
      (seenBare view ", ").intercalate (columns.eraseDups.map (seenAssignment view qualifiers))) :=
  bare_append (by decide) (.intercalate_map
    (fun column => (reads_escaped column).between " = " (by decide) (h.qualifiedText column))
    ", " (by decide) columns.eraseDups)

/-- What is seen of an equation, given what is seen of its sides' qualifiers. -/
def seenEquation (view : Token → Option β) (lefts rights : List β) (column : String) : List β :=
  seenBare view "(" ++ (lefts ++ (seenBare view "." ++ seen view (Identifier.escaped column)) ++
    (seenBare view " = " ++
      (rights ++ (seenBare view "." ++ seen view (Identifier.escaped column))))) ++
    seenBare view ")"

theorem Reads.matchLine {left right : String} {lefts rights : List β} (h : Reads view left lefts)
    (h' : Reads view right rights) (key : List String) :
    Reads view (matchLine left right key) (seenBare view "WHERE " ++
      (seenBare view " AND ").intercalate (key.map (seenEquation view lefts rights))) := by
  have hequation (column : String) : Reads view (equationText left right column)
      (seenEquation view lefts rights column) :=
    ((h.qualifiedText column).between " = " (by decide) (h'.qualifiedText column)).parenthesised
  exact bare_append (by decide) (.intercalate_map hequation " AND " (by decide) key)

theorem Reads.probeText {target : String} {targets : List β} (h : Reads view target targets)
    (key : List String) :
    Reads view (probeText target key) ((seenBare view "\n").intercalate
      [seenBare view "SELECT 1", seenBare view "FROM " ++ targets,
        seenBare view "WHERE " ++ (seenBare view " AND ").intercalate
          (key.map (seenEquation view targets (seen view (Identifier.escaped sourceAlias))))]) :=
  .intercalate "\n" (by decide) (.cons (.bare (by decide)) (.cons (bare_append (by decide) h)
    (.cons (h.matchLine (reads_escaped sourceAlias) key) .nil)))

theorem Reads.updateText (h : Reads view table tables) (h' : Reads view source sources)
    (d : Dialect) (key updated : List String) :
    Reads view (updateText d table source key updated) ((seenBare view "\n").intercalate
      [seenBare view "UPDATE " ++ tables,
        seenBare view "SET " ++ (seenBare view ", ").intercalate (updated.eraseDups.map
          (seenAssignment view (seen view (Identifier.escaped sourceAlias)))),
        seenBare view "FROM " ++ (seenBare view "(" ++ sources ++ seenBare view ")" ++
          (seenBare view (aliasWord d) ++ seen view (Identifier.escaped sourceAlias))),
        seenBare view "WHERE " ++ (seenBare view " AND ").intercalate
          (key.map (seenEquation view (seen view (Identifier.escaped sourceAlias)) tables)),
        seenBare view "RETURNING " ++ tables ++ seenBare view ".*"]) := by
  have hupdate := bare_append (s := "UPDATE ") (by decide) h
  have hreturning := (bare_append (s := "RETURNING ") (by decide) h).append_bare (t := ".*")
    (by decide)
  have hsource : Reads view (Identifier.escaped sourceAlias) _ := reads_escaped sourceAlias
  have hset := hsource.setLine updated
  have hmatch := hsource.matchLine h key
  exact .intercalate "\n" (by decide) (.cons hupdate (.cons hset (.cons (h'.sourceLine d)
    (.cons hmatch (.cons hreturning .nil)))))

/-- What is seen of an indented subquery, where only marks are looked at. -/
theorem OnlyMarks.reads_blockText {p : Char → Bool} (h : OnlyMarks p) {s : String}
    {out : List Char} (hs : Reads (Token.bare? p) s out) {c : Char}
    (hlast : s.toList.getLast? = some c) (hc : Text.isLineEnd c = false) :
    Reads (Token.bare? p) (blockText s)
      (seenBare (Token.bare? p) "(\n" ++ out ++ seenBare (Token.bare? p) "\n)") := by
  have hview : (fun t : Token => Token.bare? p t.hung) = Token.bare? p := by
    funext t
    cases t with
    | _ => rfl
  have hindent := Reads.indent h.ignoresLayout (hview.symm ▸ hs) hlast hc
  exact (Reads.bare_append (by decide) hindent).append_bare (by decide)

end SqlDialects
