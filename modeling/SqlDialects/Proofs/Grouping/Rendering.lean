-- SUMMARY: The text of an operation is read back as the operation exactly when it keeps its grouping.
import SqlDialects.Proofs.Grouping.Lexer
import SqlDialects.Proofs.Grouping.Unique
import SqlDialects.Proofs.Lexing.Rendering

/-!
# Reading rendered operations

The text of an operation has the lexemes of its layout, but for names that are not
read back as they are. So it is read back as a tree of the operation exactly when
every name is and the layout is grouped.
-/

namespace SqlDialects.Grouping

open SqlDialects.Grouping.Tree (yieldRest)

/-! ## Texts and layouts -/

/-- The lexemes of a tree as they are read back. -/
def Tree.written (x : Tree) : List Lexeme := x.yield.map Lexeme.asWritten

namespace Tree

@[simp] theorem written_neg (x : Tree) : (neg x).written = .op .sub :: x.written := rfl

@[simp] theorem written_not (x : Tree) : (not x).written = .not :: x.written := rfl

@[simp] theorem written_paren (x : Tree) :
    (paren x).written = .opening :: (x.written ++ [.closing]) := by
  simp [written, yield, Lexeme.asWritten]

@[simp] theorem written_binary (op : Operator) (left right : Tree) :
    (binary op left right).written = left.written ++ .op op :: right.written := by
  simp [written, yield, Lexeme.asWritten]

@[simp] theorem written_isNull (x : Tree) : (isNull x).written = x.written ++ [.is, .null] := by
  simp [written, yield, Lexeme.asWritten]

@[simp] theorem written_among (x first : Tree) (rest : List Tree) :
    (among x first rest).written = x.written ++ .among :: .opening ::
      (first.written ++ (yieldRest rest).map Lexeme.asWritten ++ [.closing]) := by
  simp [written, yield, Lexeme.asWritten]

end Tree

namespace Operation

theorem isBinary_expr (o : Operation) : o.expr.isBinary = o.isTwoSided := by
  cases o <;> rfl

theorem isOtherBinary_expr (o : Operation) (op : Operator) :
    o.expr.isOtherBinary op.text = o.isOther op := by
  cases o with
  | binary inner left right =>
    by_cases h : inner = op
    · simp [expr, Expr.isOtherBinary, isOther, h]
    · have htext : inner.text ≠ op.text := fun heq => h (text_injective heq)
      simp [expr, Expr.isOtherBinary, isOther, h, htext]
  | among x first rest =>
    simp [expr, Expr.isOtherBinary, isOther, (text_ne_in op).symm]
  | _ => rfl

theorem isOtherBinary_in_expr (o : Operation) : o.expr.isOtherBinary "IN" = o.isBinary := by
  cases o with
  | binary op left right => simp [expr, Expr.isOtherBinary, isBinary, text_ne_in op]
  | _ => rfl

theorem expr_ne_paren (o : Operation) (e : Expr) : o.expr ≠ .paren e := by
  cases o <;> simp [expr]

end Operation

theorem Lexes.wrapIf {s : String} {x : Tree} (h : Lexes s x.written) (condition : Bool) :
    Lexes (wrapIf condition s) (x.wrapIf condition).written := by
  cases condition with
  | false => exact h
  | true =>
    rw [Tree.wrapIf, if_pos rfl, Tree.written_paren]
    exact h.parenthesised

/-- Reading back keeps a minus in front, and adds none. -/
theorem head?_written (x : Tree) :
    x.written.head? = some (.op .sub) ↔ x.startsMinus = true := by
  have hminus (l : Lexeme) : l.asWritten = .op .sub ↔ l = .op .sub := by
    cases l with
    | name s =>
      have hname : nameLexeme s ≠ .op .sub := by
        rw [nameLexeme]
        split
        · exact wordLexeme_ne_sub _
        · simp
      simp [Lexeme.asWritten, hname]
    | _ => rfl
  obtain ⟨l, w, hyield⟩ := List.exists_cons_of_ne_nil x.yield_ne_nil
  simp [Tree.written, Tree.startsMinus, hyield, hminus]

/-- A sign in front of what starts with a minus has parentheses between them. -/
theorem Lexes.signed {s : String} {x : Tree} (h : Lexes s x.written) (wrapped : Bool) :
    Lexes (unaryText "-" (SqlDialects.wrapIf wrapped s))
      (.op .sub :: (x.wrapIf (wrapped || x.startsMinus)).written) := by
  have hoperand := h.wrapIf wrapped
  have hsign : ((SqlDialects.wrapIf wrapped s).toList.head? == some '-') =
      (x.wrapIf wrapped).startsMinus := by
    rw [Bool.eq_iff_iff, beq_iff_eq]
    exact hoperand.startsMinus_iff.trans (head?_written _)
  have htree : (x.wrapIf wrapped).wrapIf (x.wrapIf wrapped).startsMinus =
      x.wrapIf (wrapped || x.startsMinus) := by
    cases wrapped <;> rfl
  have hall := hoperand.wrapIf (x.wrapIf wrapped).startsMinus
  have hstart : ((x.wrapIf wrapped).wrapIf (x.wrapIf wrapped).startsMinus).startsMinus = false := by
    cases hminus : (x.wrapIf wrapped).startsMinus with
    | true => rfl
    | false => exact hminus
  rw [unaryText, if_neg (by decide), hsign, ← htree]
  refine hall.neg fun hminus => ?_
  rw [(head?_written _).1 (hall.startsMinus_iff.1 hminus)] at hstart
  cases hstart

/-- The items of a list lex one by one. -/
theorem Lexes.items {first : Operation} {s : String} {rest : List Operation} {ss : List String}
    (h : Lexes s first.layout.written)
    (hrest : List.Forall₂ (fun o s => Lexes s (Operation.layout o).written) rest ss) :
    Lexes (commaSeparated (s :: ss)) (first.layout.written ++
      (yieldRest (Operation.layoutAll rest)).map Lexeme.asWritten) := by
  induction hrest generalizing first s with
  | nil => simpa [commaSeparated, Operation.layoutAll, yieldRest] using h
  | @cons o t rest ss ht _ ih =>
    have hitems := h.append (.comma rfl (ih ht).lexes)
    simpa [commaSeparated, String.intercalate_cons_cons, String.append_assoc,
      Operation.layoutAll, yieldRest, Tree.written, Lexeme.asWritten] using hitems

mutual

/-- The expression of an operation is vetted when its numbers are. -/
theorem vetted_expr {P : Int → Prop} {o : Operation} (h : ∀ n ∈ o.wholes, P n) :
    o.expr.Vetted P := by
  cases o with
  | column name table => exact .ident name table
  | whole n => exact .whole (h n List.mem_cons_self)
  | truth b => exact .bool b
  | neg x => exact .unary (by decide) (vetted_expr (o := x) h)
  | not x => exact .unary (by decide) (.paren (vetted_expr (o := x) h))
  | binary op left right =>
    obtain ⟨hleft, hright⟩ := List.forall_mem_append.1 h
    have hop : op.text ∈ Vocabulary.binaryOperators := by cases op <;> decide
    exact .binary hop (vetted_expr hleft) (vetted_expr hright)
  | isNull x => exact .suffixed (by decide) (vetted_expr (o := x) h)
  | among x first rest =>
    obtain ⟨hx, hitems⟩ := List.forall_mem_append.1 h
    obtain ⟨hfirst, hrest⟩ := List.forall_mem_append.1 hitems
    have hall : ∀ e ∈ first.expr :: Operation.exprAll rest, e.Vetted P :=
      List.forall_mem_cons.2 ⟨vetted_expr hfirst, vetted_exprAll hrest⟩
    exact .binary (by decide) (vetted_expr hx) (.group hall)

theorem vetted_exprAll {P : Int → Prop} {os : List Operation}
    (h : ∀ n ∈ Operation.wholesAll os, P n) :
    ∀ e ∈ Operation.exprAll os, e.Vetted P := by
  cases os with
  | nil => exact List.forall_mem_nil _
  | cons o os =>
    obtain ⟨ho, hos⟩ := List.forall_mem_append.1 h
    exact List.forall_mem_cons.2 ⟨vetted_expr ho, vetted_exprAll hos⟩

end

mutual

/-- The text of an operation lexes as its layout is read back. -/
theorem lexes_render {d : Dialect} {o : Operation} {s : String} (hnames : "" ∉ o.names)
    (h : o.expr.render d = .ok s) : Lexes s o.layout.written := by
  cases o with
  | column name table =>
    cases h
    cases table with
    | none => exact .escaped name
    | some table =>
      have htable : table ≠ "" := by
        rintro rfl
        exact hnames List.mem_cons_self
      rw [qualifiedName, if_neg htable]
      exact .qualified table name
  | whole n =>
    rw [Operation.expr, Expr.render, Backend.literal, Backend.scalarLiteral,
      Backend.numberLiteral, wholeText_eq_ok_iff] at h
    obtain ⟨_, rfl⟩ := h
    have hwritten : (Operation.layout (.whole n)).written = wholeLexemes n := by cases n <;> rfl
    rw [hwritten]
    exact .whole n
  | truth b =>
    cases h
    exact .truth b
  | neg x =>
    simp only [Operation.expr, Expr.render, bind_eq_ok_iff, pure_eq_ok_iff] at h
    obtain ⟨t, ht, rfl⟩ := h
    have hx := (lexes_render (o := x) hnames ht).signed x.isTwoSided
    rw [Operation.isBinary_expr, Operation.layout, Tree.written_neg]
    exact hx
  | not x =>
    rw [Operation.expr, Expr.render, render_paren_of_ne x.expr_ne_paren] at h
    simp only [bind_eq_ok_iff, pure_eq_ok_iff] at h
    obtain ⟨_, ⟨t, ht, rfl⟩, rfl⟩ := h
    have hall := (lexes_render (o := x) hnames ht).parenthesised.not
    have htext : unaryText "NOT" (wrapIf (Expr.paren x.expr).isBinary (parenthesised t)) =
        "NOT" ++ " " ++ parenthesised t := rfl
    rw [htext, Operation.layout, Tree.written_not, Tree.written_paren]
    exact hall
  | binary op left right =>
    simp only [Operation.expr, Expr.render, bind_eq_ok_iff, pure_eq_ok_iff] at h
    obtain ⟨l, hl, r, hr, rfl⟩ := h
    obtain ⟨hleft, hright⟩ := not_or.1 fun hmem => hnames (List.mem_append.2 hmem)
    have hall := ((lexes_render hleft hl).wrapIf (left.isOther op)).binary op
      ((lexes_render hright hr).wrapIf right.isTwoSided)
    rw [Operation.isOtherBinary_expr, Operation.isBinary_expr, Operation.layout,
      Tree.written_binary]
    exact hall
  | isNull x =>
    simp only [Operation.expr, Expr.render, bind_eq_ok_iff, pure_eq_ok_iff] at h
    obtain ⟨t, ht, rfl⟩ := h
    have hall := ((lexes_render (o := x) hnames ht).wrapIf x.isTwoSided).isNull
    rw [Operation.isBinary_expr, Operation.layout, Tree.written_isNull]
    exact hall
  | among x first rest =>
    simp only [Operation.expr, Expr.render, bind_eq_ok_iff, pure_eq_ok_iff,
      renderAll_eq_ok_iff] at h
    obtain ⟨l, hl, _, ⟨texts, htexts, rfl⟩, rfl⟩ := h
    cases htexts with
    | cons hs hss =>
      obtain ⟨hx, hitems⟩ := not_or.1 fun hmem => hnames (List.mem_append.2 hmem)
      obtain ⟨hfirst, hrest⟩ := not_or.1 fun hmem => hitems (List.mem_append.2 hmem)
      have hlist := ((lexes_render hfirst hs).items (lexes_renderAll hrest hss)).parenthesised
      have hall := ((lexes_render hx hl).wrapIf x.isBinary).among hlist
      have hgroup (s : String) :
          wrapIf (Expr.group (first.expr :: Operation.exprAll rest)).isBinary s = s := rfl
      rw [Operation.isOtherBinary_in_expr, hgroup, Operation.layout, Tree.written_among]
      exact hall

theorem lexes_renderAll {d : Dialect} {os : List Operation} {ss : List String}
    (hnames : "" ∉ Operation.namesAll os)
    (h : List.Forall₂ (fun e s => e.render d = .ok s) (Operation.exprAll os) ss) :
    List.Forall₂ (fun o s => Lexes s (Operation.layout o).written) os ss := by
  cases os with
  | nil =>
    cases h
    exact .nil
  | cons o os =>
    cases h with
    | cons hs hss =>
      obtain ⟨ho, hos⟩ := not_or.1 fun hmem => hnames (List.mem_append.2 hmem)
      exact .cons (lexes_render ho hs) (lexes_renderAll hos hss)

end

/-! ## Names -/

/-- The name of a column or a table among the lexemes. -/
def Lexeme.name? : Lexeme → Option String
  | .name s => some s
  | _ => none

theorem Lexeme.name?_eq_some_iff {l : Lexeme} {s : String} : l.name? = some s ↔ l = .name s := by
  cases l <;> simp [name?]

mutual

theorem names_yield (x : Tree) : x.yield.filterMap Lexeme.name? = x.strip.names := by
  cases x with
  | column name table => cases table <;> rfl
  | whole n => cases n <;> rfl
  | truth b => rfl
  | paren x =>
    simp [Tree.yield, Tree.strip, List.filterMap_cons, Lexeme.name?, names_yield x]
  | neg x =>
    rw [Tree.yield, List.filterMap_cons_none rfl, names_yield x]
    rfl
  | not x =>
    rw [Tree.yield, List.filterMap_cons_none rfl, names_yield x]
    rfl
  | binary op left right =>
    simp [Tree.yield, Tree.strip, Operation.names, List.filterMap_cons, Lexeme.name?,
      names_yield left, names_yield right]
  | isNull x =>
    simp [Tree.yield, Tree.strip, Operation.names, List.filterMap_cons, Lexeme.name?,
      names_yield x]
  | among x first rest =>
    simp [Tree.yield, Tree.strip, Operation.names, List.filterMap_cons, Lexeme.name?,
      names_yield x, names_yield first, names_yieldRest rest]

theorem names_yieldRest (xs : List Tree) :
    (yieldRest xs).filterMap Lexeme.name? = Operation.namesAll (Tree.stripAll xs) := by
  cases xs with
  | nil => rfl
  | cons x xs =>
    simp [yieldRest, Tree.stripAll, Operation.namesAll, List.filterMap_cons, Lexeme.name?,
      names_yield x, names_yieldRest xs]

end

/-- A name that is read back as itself: it has no line feed at the end of a plain
    word, and it is not the one keyword that is not reserved. -/
def isReadable (name : String) : Bool := name ≠ "is" && !decide (Identifier.EndsInLineFeed name)

/-- A word is a name unless it is a keyword. -/
theorem wordLexeme_eq_name_iff {letters : List Char} {name : String} :
    wordLexeme letters = .name name ↔
      letters.map Char.toLower ∉ keywords.map Prod.fst ∧ String.ofList letters = name := by
  have hkeywords : ∀ keyword ∈ keywords, keyword.2.name? = none := by decide
  rw [wordLexeme]
  cases hlookup : keywords.lookup (letters.map Char.toLower) with
  | none =>
    have hmem : letters.map Char.toLower ∉ keywords.map Prod.fst := by
      intro hmem
      obtain ⟨keyword, hkeyword, hletters⟩ := List.mem_map.1 hmem
      have hne := List.lookup_eq_none_iff.1 hlookup keyword hkeyword
      simp [hletters] at hne
    simp [hmem]
  | some l =>
    have hmem := mem_of_lookup hlookup
    have hl : l ≠ .name name := by
      rintro rfl
      cases hkeywords _ hmem
    have hkey : letters.map Char.toLower ∈ keywords.map Prod.fst :=
      List.mem_map.2 ⟨_, hmem, rfl⟩
    simp [hl, hkey]

/-- `is` is the one keyword that is no reserved word. -/
theorem mem_keywords_iff {name : String} (h : Identifier.isReserved name = false) :
    name.toList ∈ keywords.map Prod.fst ↔ name = "is" := by
  have hkeys : ∀ letters ∈ keywords.map Prod.fst,
    String.ofList letters = "is" ∨ Identifier.isReserved (String.ofList letters) = true := by decide
  constructor
  · intro hmem
    have hkey := hkeys _ hmem
    rw [String.ofList_toList, h] at hkey
    exact hkey.resolve_right Bool.false_ne_true
  · rintro rfl
    decide

theorem nameLexeme_eq_iff (name : String) :
    nameLexeme name = .name name ↔ isReadable name = true := by
  by_cases hplain : (Identifier.isPlain name.toList && !Identifier.isReserved name) = true
  · rw [nameLexeme, if_pos hplain]
    obtain ⟨hplain, hreserved⟩ := Bool.and_eq_true_iff.1 hplain
    obtain ⟨c, ds, hc, hds, hname⟩ := Identifier.word_of_isPlain hplain
    rw [filter_word hc hds hname, wordLexeme_eq_name_iff, Identifier.map_toLower_word hc hds]
    rcases hname with hname | hname
    · have hends := Identifier.not_endsInLineFeed_of_word hname hc hds
      rw [← hname, mem_keywords_iff (by simpa using hreserved), String.ofList_toList]
      simp [isReadable, hends]
    · have hends := Identifier.endsInLineFeed_of_word hname hplain
      have hne : String.ofList (c :: ds) ≠ name := by
        intro heq
        have hletters := congrArg (fun s : String => s.toList.length) heq
        simp [hname] at hletters
      exact iff_of_false (fun h => hne h.2) (by simp [isReadable, hends])
  · have his : name ≠ "is" := by
      rintro rfl
      exact hplain (by decide)
    have hends : ¬ Identifier.EndsInLineFeed name := by
      rintro ⟨hletters, hlast⟩
      rw [hletters, Identifier.not_isReserved_of_lineFeed hlast] at hplain
      exact hplain rfl
    rw [nameLexeme, if_neg hplain]
    simp [isReadable, his, hends]

/-- Reading back adds no names. -/
theorem length_names_le (w : List Lexeme) :
    ((w.map Lexeme.asWritten).filterMap Lexeme.name?).length ≤
      (w.filterMap Lexeme.name?).length := by
  induction w with
  | nil => exact Nat.le_refl 0
  | cons l w ih =>
    cases l with
    | name s =>
      simp only [List.map_cons, List.filterMap_cons, Lexeme.name?, List.length_cons]
      split
      · exact Nat.le_succ_of_le ih
      · exact Nat.succ_le_succ ih
    | _ => exact ih

/-- The same names are read back only when all lexemes are read back as they are. -/
theorem asWritten_of_names_eq {w : List Lexeme}
    (h : (w.map Lexeme.asWritten).filterMap Lexeme.name? = w.filterMap Lexeme.name?) :
    w.map Lexeme.asWritten = w := by
  induction w with
  | nil => rfl
  | cons l w ih =>
    cases l with
    | name s =>
      rw [List.map_cons, Lexeme.asWritten] at h ⊢
      cases hname : (nameLexeme s).name? with
      | none =>
        -- a name that is read as a keyword is missing, and none takes its place
        have hlength := length_names_le w
        rw [List.filterMap_cons_none hname] at h
        rw [h] at hlength
        exact absurd hlength (Nat.not_succ_le_self _)
      | some t =>
        rw [List.filterMap_cons_some hname] at h
        obtain ⟨rfl, hrest⟩ := List.cons.inj h
        rw [Lexeme.name?_eq_some_iff.1 hname, ih hrest]
    | _ => exact congrArg _ (ih h)

/-- Every name of the operation is read back as itself. -/
def Operation.isReadable (o : Operation) : Bool := o.names.all Grouping.isReadable

theorem map_asWritten_eq_iff (w : List Lexeme) :
    w.map Lexeme.asWritten = w ↔ (w.filterMap Lexeme.name?).all Grouping.isReadable = true := by
  induction w with
  | nil => simp
  | cons l w ih =>
    cases l with
    | name s =>
      simp [Lexeme.asWritten, Lexeme.name?, nameLexeme_eq_iff, ih]
    | _ => simpa [Lexeme.asWritten, Lexeme.name?] using ih

theorem written_layout_eq_iff (o : Operation) :
    o.layout.written = o.layout.yield ↔ o.isReadable = true := by
  rw [Tree.written, map_asWritten_eq_iff, names_yield, Tree.strip_layout]
  rfl

/-! ## Reading back -/

/-- The text of an operation is read back as a tree of the operation exactly when all
    its names are read back and it keeps its grouping. -/
theorem exists_read_iff {d : Dialect} {o : Operation} {s : String} (hnames : "" ∉ o.names)
    (h : o.expr.render d = .ok s) :
    (∃ x, read s = some x ∧ x.expr.bare = o.expr.bare) ↔
      o.isReadable = true ∧ o.keepsGrouping = true := by
  have hread : read s = parse o.layout.written := by
    rw [read, (lexes_render hnames h).lexes.lex_eq]
    rfl
  rw [hread, ← written_layout_eq_iff, ← o.isGrouped_layout]
  simp only [Tree.bare_eq_iff, parse_eq_some_iff]
  constructor
  · rintro ⟨x, ⟨hgrouped, hyield⟩, hstrip⟩
    -- A tree of the operation has its names; what is read has the names as they are read
    -- back. So these are the same, and the tree is the layout, which has its lexemes.
    have hsame : x.strip = o.layout.strip := hstrip.trans (Tree.strip_layout o).symm
    have hwritten : o.layout.written = o.layout.yield := by
      refine asWritten_of_names_eq ?_
      rw [names_yield, ← hsame, ← names_yield, hyield]
      rfl
    rw [hwritten] at hyield
    rw [Tree.eq_of_strip_eq hsame hyield] at hgrouped
    exact ⟨hwritten, hgrouped⟩
  · rintro ⟨hwritten, hgrouped⟩
    exact ⟨o.layout, ⟨hgrouped, hwritten.symm⟩, Tree.strip_layout o⟩

end SqlDialects.Grouping
