-- SUMMARY: A written name is read back, and so is a path of names with dots between them.
import SqlDialects.Proofs.Layout.OneLine
import SqlDialects.Proofs.Readers.Basic

/-!
# Reading names

A name is read as an identifier that is no reserved word. Written names that are one
line each are read back wherever they are not lengthened by what follows, and so are
the names of a path: a column behind a qualifier, or a table behind its schema.
-/

namespace SqlDialects

namespace Identifier

variable {rest : List Char}

/-- The names of a path, with dots between them. -/
def pathText (names : List String) : String := ".".intercalate (names.map escaped)

/-- The schema of a table name, if there is one, and the table. -/
def tablePath (name : String) : List String :=
  match splitTable name with
  | (_, none) => [name]
  | (schema, some table) => [String.ofList schema, String.ofList table]

theorem table_eq_pathText (name : String) : table name = pathText (tablePath name) := by
  rw [table, tablePath]
  rcases splitTable name with ⟨schema, _ | table⟩
  · rfl
  · simp [pathText]

/-- Names that are one line each, and at least one. -/
structure AreReadable (names : List String) : Prop where
  ne_nil : names ≠ []
  isOneLine : ∀ s ∈ names, Text.IsOneLine s

theorem AreReadable.append {names more : List String} (h : AreReadable names)
    (h' : ∀ s ∈ more, Text.IsOneLine s) : AreReadable (names ++ more) :=
  ⟨List.append_ne_nil_of_left_ne_nil h.ne_nil more, List.forall_mem_append.2 ⟨h.isOneLine, h'⟩⟩

theorem areReadable_singleton {name : String} (h : Text.IsOneLine name) : AreReadable [name] :=
  ⟨List.cons_ne_nil _ _, by simpa using h⟩

theorem AreReadable.concat {names : List String} {name : String} (h : AreReadable names)
    (hname : Text.IsOneLine name) : AreReadable (names ++ [name]) :=
  h.append (areReadable_singleton hname).isOneLine

theorem AreReadable.isOneLine_pathText {names : List String} (h : AreReadable names) :
    Text.IsOneLine (pathText names) :=
  .intercalate (by decide) (List.forall_mem_map.2 fun s hs => isOneLine_escaped (h.isOneLine s hs))

/-- The schema and the table are parts of the name. -/
theorem areReadable_tablePath {name : String} (h : Text.IsOneLine name) :
    AreReadable (tablePath name) := by
  have hpart {cs : List Char} (hcs : cs ⊆ name.toList) : Text.IsOneLine (String.ofList cs) := by
    intro c hc
    rw [String.toList_ofList] at hc
    exact h c (hcs hc)
  have hdrop := (List.dropWhile_suffix (l := name.toList) (· ≠ '.')).subset
  rw [tablePath, splitTable]
  revert hdrop
  cases name.toList.dropWhile (· ≠ '.') with
  | nil => exact fun _ => areReadable_singleton h
  | cons dot table =>
    intro hdrop
    have htable : Text.IsOneLine (String.ofList table) := hpart (List.subset_of_cons_subset hdrop)
    exact (areReadable_singleton (hpart (List.takeWhile_prefix _).subset)).concat htable

/-- A column behind a path. -/
theorem pathText_concat {names : List String} (hne : names ≠ []) (column : String) :
    pathText (names ++ [column]) = pathText names ++ "." ++ escaped column := by
  rw [pathText, List.map_append, List.map_singleton, String.intercalate_append_of_ne_nil
    (by simpa using hne) (List.cons_ne_nil _ _), String.intercalate_singleton]
  rfl

/-- A character that would go on with a name that stands before it. -/
def lengthens (c : Char) : Bool := continuesWord c || c = '"'

theorem read_escaped {name : String} (h : ¬ EndsInLineFeed name)
    (hrest : StartsWithout lengthens rest) :
    ∃ t, read ((escaped name).toList ++ rest) = some (t, rest) ∧ t.isReserved = false ∧
      t.name = name := by
  obtain ⟨hword, hquote⟩ := Reader.startsWithout_or hrest
  rw [escaped]
  split
  next hplain =>
    obtain ⟨hplain, hreserved⟩ := Bool.and_eq_true_iff.1 hplain
    obtain ⟨c, ds, hc, hds, hname | hname⟩ := word_of_isPlain hplain
    · have hback : String.ofList (c :: ds) = name := by rw [← hname, String.ofList_toList]
      refine ⟨.unquoted (c :: ds), ?_, ?_, hback⟩
      · rw [hname]
        exact read_word hc hds hword
      · rw [Spelling.isReserved, map_toLower_word hc hds, hback]
        simpa using hreserved
    · exact absurd (endsInLineFeed_of_word hname hplain) h
  next => exact ⟨.quoted name.toList, read_quoted name hquote, rfl, String.ofList_toList⟩

end Identifier

namespace Reader

variable {s : String} {names : List String} {rest : List Char}

/-- An identifier that is no reserved word. -/
def name : Reader String := do
  let t ← Identifier.read
  given (if t.isReserved then none else some t.name)

def path : Reader (List String) := separated "." name

theorem takes_name (h : Text.IsOneLine s) (hrest : StartsWithout Identifier.lengthens rest) :
    name.Takes (Identifier.escaped s).toList s rest := by
  obtain ⟨t, hread, hreserved, hname⟩ :=
    Identifier.read_escaped (Identifier.not_endsInLineFeed_of_isOneLine h) hrest
  have ht : Takes Identifier.read (Identifier.escaped s).toList t rest := hread
  exact ht.bind_given (by rw [hreserved, hname]; rfl)

/-- The names of a list are read one by one. -/
theorem takes_names {word : String} (h : Identifier.AreReadable names)
    (hword : word.toList.head?.map Identifier.lengthens = some false)
    (hrest : StartsWithout Identifier.lengthens rest)
    (hstop : (do expect word; name : Reader String).run rest = none) :
    (separated word name).Takes (word.intercalate (names.map Identifier.escaped)).toList names
      rest := by
  have hnames : (separated word name).Takes (word.intercalate (names.map Identifier.escaped)).toList
      (names.map id) rest :=
    takes_separated h.ne_nil (fun s hs _ => takes_name (h.isOneLine s hs)) hword hrest hstop
  rwa [List.map_id] at hnames

/-- A path ends where neither a name nor a dot goes on with it. -/
theorem takes_path (h : Identifier.AreReadable names)
    (hrest : StartsWithout (fun c => Identifier.lengthens c || c == '.') rest) :
    path.Takes (Identifier.pathText names).toList names rest :=
  takes_names h (by decide) (startsWithout_or hrest).1
    (expect_bind_eq_none rfl (startsWithout_or hrest).2 _)

/-- The dot before a star does not go on with a path. -/
theorem takes_path_star (h : Identifier.AreReadable names) :
    path.Takes (Identifier.pathText names).toList names (".*".toList ++ rest) :=
  takes_names h (by decide) (.append (by decide) rest) rfl

end Reader

end SqlDialects
