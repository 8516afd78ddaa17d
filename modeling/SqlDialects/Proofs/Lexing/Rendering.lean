-- SUMMARY: Rendering is free of injection: a rendered expression is cut into its own tokens, whatever names and texts are in it.
import SqlDialects.Proofs.Lexing.Pieces
import SqlDialects.Proofs.Rendering

/-!
# Scanning rendered expressions

An expression is *vetted* when its operators, functions, types and keywords are
words of the vocabulary and its literals are nulls, truth values, whole numbers
and texts that have no NUL character. Names and the contents of texts are
arbitrary. The text of a vetted expression is cut into bare characters and closed
quoted tokens, and its quoted texts are those of the literals, in the order of
the tree.
-/

namespace SqlDialects

/-! ## Vetted expressions -/

mutual

/-- The texts of the literals of an expression, in the order of its tree. -/
def Expr.texts : Expr → List String
  | .literal (.scalar (.text s)) => [s]
  | .call _ args _ => textsOfAll args
  | .binary _ left right => left.texts ++ right.texts
  | .unary _ operand => operand.texts
  | .suffixed operand _ => operand.texts
  | .cast e _ => e.texts
  | .paren e => e.texts
  | .caseWhen whens none => textsOfWhens whens
  | .caseWhen whens (some otherwise) => textsOfWhens whens ++ otherwise.texts
  | .group items => textsOfAll items
  | .ordered e _ => e.texts
  | .withinGroup call orderBy => call.texts ++ textsOfAll orderBy
  | .over e w => e.texts ++ w.texts
  | _ => []

def textsOfAll : List Expr → List String
  | [] => []
  | e :: es => e.texts ++ textsOfAll es

def textsOfWhens : List (Expr × Expr) → List String
  | [] => []
  | (condition, result) :: rest => condition.texts ++ result.texts ++ textsOfWhens rest

def Window.texts : Window → List String
  | ⟨partitionBy, orderBy, _, _⟩ => textsOfAll partitionBy ++ textsOfAll orderBy

end

theorem textsOfAll_eq (es : List Expr) : textsOfAll es = (es.map Expr.texts).flatten := by
  induction es with
  | nil => rfl
  | cons e es ih => rw [textsOfAll, ih, List.map_cons, List.flatten_cons]

theorem textsOfWhens_eq (whens : List (Expr × Expr)) :
    textsOfWhens whens = (whens.map fun when => when.1.texts ++ when.2.texts).flatten := by
  induction whens with
  | nil => rfl
  | cons when whens ih => rw [textsOfWhens, ih, List.map_cons, List.flatten_cons]

/-- An end of a frame: unbounded, or a whole number of rows. -/
inductive IsOffset (whole : Int → Prop) : Value → Prop
  | unbounded : IsOffset whole .null
  | rows {n : Int} (hn : whole n) : IsOffset whole (.whole n)

/-- No frame, or one with two ends. -/
inductive IsFrame (whole : Int → Prop) : Option (List Value) → Prop
  | none : IsFrame whole none
  | rows {start stop : Value} (hstart : IsOffset whole start) (hstop : IsOffset whole stop) :
      IsFrame whole (some [start, stop])

/-- An expression of the vocabulary's words over nulls, truth values, whole numbers
    as asked, and texts without a NUL character. Its windows have no names. -/
inductive Expr.Vetted (whole : Int → Prop) : Expr → Prop
  | null : Vetted whole (.literal .null)
  | bool (b : Bool) : Vetted whole (.literal (.bool b))
  | whole {n : Int} (hn : whole n) : Vetted whole (.literal (.whole n))
  | text {s : String} (hs : Char.ofNat 0 ∉ s.toList) : Vetted whole (.literal (.text s))
  | ident (name : String) (table : Option String) : Vetted whole (.ident name table)
  | keyword {word : String} (hword : word ∈ Vocabulary.keywords) : Vetted whole (.keyword word)
  | star (table : Option String) : Vetted whole (.star table)
  | call {name : String} {args : List Expr} (hname : name ∈ Vocabulary.functions)
      (hargs : ∀ e ∈ args, Vetted whole e) (distinct : Bool) :
      Vetted whole (.call name args distinct)
  | binary {op : String} {left right : Expr} (hop : op ∈ Vocabulary.binaryOperators)
      (hleft : Vetted whole left) (hright : Vetted whole right) :
      Vetted whole (.binary op left right)
  | unary {op : String} {operand : Expr} (hop : op ∈ Vocabulary.unaryOperators)
      (hoperand : Vetted whole operand) : Vetted whole (.unary op operand)
  | suffixed {operand : Expr} {op : String} (hop : op ∈ Vocabulary.suffixOperators)
      (hoperand : Vetted whole operand) : Vetted whole (.suffixed operand op)
  | cast {e : Expr} {typeName : String} (htype : typeName ∈ Vocabulary.castTypes)
      (he : Vetted whole e) : Vetted whole (.cast e typeName)
  | paren {e : Expr} (he : Vetted whole e) : Vetted whole (.paren e)
  | caseWhen {whens : List (Expr × Expr)} {otherwise : Option Expr}
      (hconditions : ∀ when ∈ whens, Vetted whole when.1)
      (hresults : ∀ when ∈ whens, Vetted whole when.2)
      (hotherwise : ∀ e ∈ otherwise, Vetted whole e) : Vetted whole (.caseWhen whens otherwise)
  | group {items : List Expr} (hitems : ∀ e ∈ items, Vetted whole e) : Vetted whole (.group items)
  | ordered {e : Expr} (he : Vetted whole e) (descending : Bool) :
      Vetted whole (.ordered e descending)
  | withinGroup {name : String} {args orderBy : List Expr} (hname : name ∈ Vocabulary.functions)
      (hargs : ∀ e ∈ args, Vetted whole e) (distinct : Bool)
      (horder : ∀ e ∈ orderBy, Vetted whole e) :
      Vetted whole (.withinGroup (.call name args distinct) orderBy)
  | windowed {e : Expr} {partitionBy orderBy : List Expr} {frame : Option (List Value)}
      (he : Vetted whole e) (hpartition : ∀ e ∈ partitionBy, Vetted whole e)
      (horder : ∀ e ∈ orderBy, Vetted whole e) (hframe : IsFrame whole frame) :
      Vetted whole (.over e ⟨partitionBy, orderBy, frame, none⟩)

/-! ## Rendering lists and frames -/

section

variable {d : Dialect} {whole : Int → Prop}

theorem scans_renderAll {es : List Expr} {ss : List String}
    (ih : ∀ e ∈ es, ∀ s, e.render d = .ok s → Scans s e.texts)
    (h : List.Forall₂ (fun e s => e.render d = .ok s) es ss) :
    List.Forall₂ Scans ss (es.map Expr.texts) := by
  induction h with
  | nil => exact .nil
  | cons hs _ ihs =>
    exact .cons (ih _ List.mem_cons_self _ hs)
      (ihs fun e he => ih e (List.mem_cons_of_mem _ he))

theorem scans_renderWhens {whens : List (Expr × Expr)} {branches : List String}
    (ihc : ∀ when ∈ whens, ∀ s, when.1.render d = .ok s → Scans s when.1.texts)
    (ihr : ∀ when ∈ whens, ∀ s, when.2.render d = .ok s → Scans s when.2.texts)
    (h : List.Forall₂ (IsBranch d) whens branches) :
    List.Forall₂ Scans branches (whens.map fun when => when.1.texts ++ when.2.texts) := by
  induction h with
  | nil => exact .nil
  | cons hbranch _ ihs =>
    refine .cons ?_ (ihs (fun when hwhen => ihc when (List.mem_cons_of_mem _ hwhen))
      fun when hwhen => ihr when (List.mem_cons_of_mem _ hwhen))
    obtain ⟨c, r, hc, hr, rfl⟩ := hbranch
    have hcondition := Scans.bare_append (s := "WHEN ") (by decide) (ihc _ List.mem_cons_self c hc)
    exact hcondition.between _ (by decide) (ihr _ List.mem_cons_self r hr)

theorem scans_boundText {isStart : Bool} {v : Value} {s : String} (hv : IsOffset whole v)
    (h : boundText isStart v = .ok s) : Scans s [] := by
  cases hv with
  | unbounded =>
    cases h
    cases isStart <;> exact .bare (by decide)
  | @rows n hn =>
    rw [boundText_whole] at h
    split at h
    · cases h
      exact .bare (by decide)
    · split at h
      all_goals
        obtain ⟨count, hcount, hs⟩ := bind_eq_ok_iff.1 h
        obtain ⟨_, rfl⟩ := wholeText_eq_ok_iff.1 hcount
        cases hs
        exact (Scans.bare (isBare_toString _)).append_bare (by decide)

theorem exists_boundText (isStart : Bool) {v : Value} (hv : IsOffset IsWritable v) :
    ∃ s, boundText isStart v = .ok s := by
  cases hv with
  | unbounded => exact ⟨_, rfl⟩
  | @rows n hn =>
    have hopposite : IsWritable (-n) := by
      rw [IsWritable, Int.natAbs_neg]
      exact hn
    rw [boundText_whole]
    split
    · exact ⟨_, rfl⟩
    · split
      · exact ⟨_, bind_eq_ok_iff.2 ⟨_, wholeText_eq_ok_iff.2 ⟨hopposite, rfl⟩, rfl⟩⟩
      · exact ⟨_, bind_eq_ok_iff.2 ⟨_, wholeText_eq_ok_iff.2 ⟨hn, rfl⟩, rfl⟩⟩

theorem scans_frame {frame : Option (List Value)} {s? : Option String}
    (hframe : IsFrame whole frame) (h : frame.mapM frameText = .ok s?) :
    ∀ s ∈ s?, Scans s [] := by
  cases hframe with
  | none =>
    cases h
    intro s hs
    cases hs
  | @rows start stop hstart hstop =>
    simp only [Option.mapM_some, frameText, map_eq_pure_bind, bind_eq_ok_iff, pure_eq_ok_iff] at h
    obtain ⟨_, ⟨first, hfirst, last, hlast, rfl⟩, rfl⟩ := h
    intro s hs
    cases hs
    exact ((Scans.bare_append (by decide) (scans_boundText hstart hfirst)).between _ (by decide)
      (scans_boundText hstop hlast))

theorem exists_frame {frame : Option (List Value)} (hframe : IsFrame IsWritable frame) :
    ∃ s?, frame.mapM frameText = .ok s? := by
  cases hframe with
  | none => exact ⟨none, rfl⟩
  | rows hstart hstop =>
    obtain ⟨first, hfirst⟩ := exists_boundText true hstart
    obtain ⟨last, hlast⟩ := exists_boundText false hstop
    simp only [Option.mapM_some, frameText, map_eq_pure_bind, bind_eq_ok_iff, pure_eq_ok_iff]
    exact ⟨_, _, ⟨first, hfirst, last, hlast, rfl⟩, rfl⟩

/-! ## Rendering trees -/

theorem isBare_bool (b : Bool) : isBare (if b then "TRUE" else "FALSE").toList = true := by
  cases b <;> decide

/-- The text of a vetted expression scans on its own, into the texts of its literals. -/
theorem Expr.Vetted.scans {e : Expr} (h : e.Vetted whole) :
    ∀ s, e.render d = .ok s → Scans s e.texts := by
  -- Texts are put together in three ways only: bare text in front, a separator between
  -- two texts, and a minus in front of a text that starts with none.
  induction h with
  | null =>
    intro s hs
    cases hs
    exact .bare (by decide)
  | bool b =>
    intro s hs
    cases hs
    exact .bare (isBare_bool b)
  | @whole n hn =>
    intro s hs
    rw [Expr.render, Backend.literal, Backend.scalarLiteral, Backend.numberLiteral,
      wholeText_eq_ok_iff] at hs
    obtain ⟨_, rfl⟩ := hs
    exact .bare (isBare_toString n)
  | @text content hcontent =>
    intro s hs
    simp only [Expr.render, Backend.literal, Backend.scalarLiteral, Backend.textLiteral,
      List.contains_eq_mem, hcontent, decide_false, Bool.false_eq_true, if_false,
      Except.ok.injEq] at hs
    subst hs
    exact .text content
  | ident name table =>
    intro s hs
    cases hs
    exact scans_qualifiedName table (scans_escaped name)
  | keyword hword =>
    intro s hs
    cases hs
    exact .bare (isBare_of_mem_keywords _ hword)
  | star table =>
    intro s hs
    cases hs
    exact scans_qualifiedName table (.bare (by decide))
  | call hname _ distinct ih =>
    intro s hs
    simp only [Expr.render, bind_eq_ok_iff, pure_eq_ok_iff, renderAll_eq_ok_iff] at hs
    obtain ⟨args, hargs, rfl⟩ := hs
    rw [Expr.texts, textsOfAll_eq]
    exact scans_callText hname (scans_renderAll ih hargs) distinct
  | @binary op left right hop _ _ ihleft ihright =>
    intro s hs
    simp only [Expr.render, bind_eq_ok_iff, pure_eq_ok_iff] at hs
    obtain ⟨l, hl, r, hr, rfl⟩ := hs
    have hbetween := (scans_wrapIf (left.isOtherBinary op) (ihleft l hl)).between _
      (isSeparator_of_mem_binaryOperators op hop) (scans_wrapIf right.isBinary (ihright r hr))
    rw [Expr.texts]
    simpa [String.append_assoc] using hbetween
  | @unary op operand hop _ ih =>
    intro s hs
    simp only [Expr.render, bind_eq_ok_iff, pure_eq_ok_iff] at hs
    obtain ⟨t, ht, rfl⟩ := hs
    exact scans_unaryText hop (scans_wrapIf operand.isBinary (ih t ht))
  | @suffixed operand op hop _ ih =>
    intro s hs
    simp only [Expr.render, bind_eq_ok_iff, pure_eq_ok_iff] at hs
    obtain ⟨t, ht, rfl⟩ := hs
    rw [String.append_assoc]
    exact (scans_wrapIf operand.isBinary (ih t ht)).append_bare
      (isSeparator_of_mem_suffixOperators op hop)
  | cast htype _ ih =>
    intro s hs
    simp only [Expr.render, bind_eq_ok_iff, pure_eq_ok_iff] at hs
    obtain ⟨t, ht, rfl⟩ := hs
    exact scans_castText htype (ih t ht)
  | @paren e he ih =>
    intro s hs
    -- the text of parentheses in parentheses is that of the inner ones
    by_cases hinner : ∃ inner, e = .paren inner
    · obtain ⟨inner, rfl⟩ := hinner
      exact ih s hs
    · rw [render_paren_of_ne fun inner h => hinner ⟨inner, h⟩] at hs
      simp only [bind_eq_ok_iff, pure_eq_ok_iff] at hs
      obtain ⟨t, ht, rfl⟩ := hs
      exact scans_parenthesised (ih t ht)
  | @caseWhen whens otherwise _ _ _ ihc ihr iho =>
    intro s hs
    cases otherwise with
    | none =>
      simp only [Expr.render, bind_eq_ok_iff, pure_eq_ok_iff, renderWhens_eq_ok_iff] at hs
      obtain ⟨branches, hbranches, rfl⟩ := hs
      have hpieces := List.rel_append (scans_renderWhens ihc ihr hbranches)
        (.cons (Scans.bare (s := "END") (by decide)) .nil)
      have hall := Scans.intercalate " " (by decide)
        (.cons (Scans.bare (s := "CASE") (by decide)) hpieces)
      simpa [Expr.texts, textsOfWhens_eq] using hall
    | some last =>
      simp only [Expr.render, bind_eq_ok_iff, pure_eq_ok_iff, renderWhens_eq_ok_iff] at hs
      obtain ⟨branches, hbranches, t, ht, rfl⟩ := hs
      have hlast := Scans.bare_append (s := "ELSE ") (by decide) (iho last rfl t ht)
      have hpieces := List.rel_append (scans_renderWhens ihc ihr hbranches)
        (.cons hlast (.cons (Scans.bare (s := "END") (by decide)) .nil))
      have hall := Scans.intercalate " " (by decide)
        (.cons (Scans.bare (s := "CASE") (by decide)) hpieces)
      simpa [Expr.texts, textsOfWhens_eq] using hall
  | group _ ih =>
    intro s hs
    simp only [Expr.render, bind_eq_ok_iff, pure_eq_ok_iff, renderAll_eq_ok_iff] at hs
    obtain ⟨items, hitems, rfl⟩ := hs
    rw [Expr.texts, textsOfAll_eq]
    exact scans_parenthesised (scans_commaSeparated (scans_renderAll ih hitems))
  | ordered _ descending ih =>
    intro s hs
    simp only [Expr.render, bind_eq_ok_iff, pure_eq_ok_iff] at hs
    obtain ⟨t, ht, rfl⟩ := hs
    cases descending with
    | false => exact ih t ht
    | true => exact (ih t ht).append_bare (by decide)
  | @withinGroup name args orderBy hname _ distinct _ ihargs ihorder =>
    intro s hs
    simp only [Expr.render, Expr.renderAggregate, bind_eq_ok_iff, pure_eq_ok_iff,
      renderAll_eq_ok_iff] at hs
    obtain ⟨order, horder, call, ⟨texts, htexts, rfl⟩, rfl⟩ := hs
    have hcall := scans_callText hname (scans_renderAll ihargs htexts) distinct
    have horder := (scans_commaSeparated (scans_renderAll ihorder horder)).append_bare (t := ")")
      (by decide)
    have hall := hcall.between " WITHIN GROUP (ORDER BY " (by decide) horder
    simpa [Expr.texts, textsOfAll_eq, String.append_assoc] using hall
  | @windowed e partitionBy orderBy frame _ _ _ hframe ihe ihpartition ihorder =>
    intro s hs
    simp only [Expr.render, Window.renderUse, Option.any_none, Bool.and_false, Bool.false_eq_true,
      if_false, bind_eq_ok_iff, pure_eq_ok_iff, renderAll_eq_ok_iff] at hs
    obtain ⟨t, ht, window, ⟨partition, hpartition, order, horder, s?, hs?, rfl⟩, rfl⟩ := hs
    have hwindow := scans_windowText (scans_renderAll ihpartition hpartition)
      (scans_renderAll ihorder horder) (scans_frame hframe hs?)
    have hall := (ihe t ht).between " OVER " (by decide) hwindow
    simpa [Expr.texts, Window.texts, textsOfAll_eq] using hall

/-- Only a whole number that is too long to be written keeps an expression from
    having a text. -/
theorem Expr.Vetted.exists_render {e : Expr} (h : e.Vetted IsWritable) :
    ∃ s, e.render d = .ok s := by
  induction h with
  | null => exact ⟨_, rfl⟩
  | bool b => exact ⟨_, rfl⟩
  | whole hn =>
    simp only [Expr.render, Backend.literal, Backend.scalarLiteral, Backend.numberLiteral,
      wholeText_eq_ok_iff]
    exact ⟨_, hn, rfl⟩
  | text hcontent =>
    simp only [Expr.render, Backend.literal, Backend.scalarLiteral, Backend.textLiteral,
      List.contains_eq_mem, hcontent, decide_false, Bool.false_eq_true, if_false]
    exact ⟨_, rfl⟩
  | ident name table => exact ⟨_, rfl⟩
  | keyword hword => exact ⟨_, rfl⟩
  | star table => exact ⟨_, rfl⟩
  | call _ _ distinct ih =>
    obtain ⟨args, hargs⟩ := exists_renderAll ih
    simp only [Expr.render, hargs, ok_bind]
    exact ⟨_, rfl⟩
  | binary _ _ _ ihleft ihright =>
    obtain ⟨l, hl⟩ := ihleft
    obtain ⟨r, hr⟩ := ihright
    simp only [Expr.render, hl, hr, ok_bind]
    exact ⟨_, rfl⟩
  | unary _ _ ih =>
    obtain ⟨t, ht⟩ := ih
    simp only [Expr.render, ht, ok_bind]
    exact ⟨_, rfl⟩
  | suffixed _ _ ih =>
    obtain ⟨t, ht⟩ := ih
    simp only [Expr.render, ht, ok_bind]
    exact ⟨_, rfl⟩
  | cast _ _ ih =>
    obtain ⟨t, ht⟩ := ih
    simp only [Expr.render, ht, ok_bind]
    exact ⟨_, rfl⟩
  | @paren e _ ih =>
    by_cases hinner : ∃ inner, e = .paren inner
    · obtain ⟨inner, rfl⟩ := hinner
      exact ih
    · obtain ⟨t, ht⟩ := ih
      rw [render_paren_of_ne fun inner h => hinner ⟨inner, h⟩, ht, ok_bind]
      exact ⟨_, rfl⟩
  | @caseWhen whens otherwise _ _ _ ihc ihr iho =>
    obtain ⟨branches, hbranches⟩ := exists_renderWhens ihc ihr
    cases otherwise with
    | none =>
      simp only [Expr.render, hbranches, ok_bind]
      exact ⟨_, rfl⟩
    | some last =>
      obtain ⟨t, ht⟩ := iho last rfl
      simp only [Expr.render, hbranches, ht, ok_bind]
      exact ⟨_, rfl⟩
  | group _ ih =>
    obtain ⟨items, hitems⟩ := exists_renderAll ih
    simp only [Expr.render, hitems, ok_bind]
    exact ⟨_, rfl⟩
  | ordered _ descending ih =>
    obtain ⟨t, ht⟩ := ih
    simp only [Expr.render, ht, ok_bind]
    exact ⟨_, rfl⟩
  | withinGroup _ _ distinct _ ihargs ihorder =>
    obtain ⟨args, hargs⟩ := exists_renderAll ihargs
    obtain ⟨order, horder⟩ := exists_renderAll ihorder
    simp only [Expr.render, Expr.renderAggregate, hargs, horder, ok_bind]
    exact ⟨_, rfl⟩
  | windowed _ _ _ hframe ihe ihpartition ihorder =>
    obtain ⟨t, ht⟩ := ihe
    obtain ⟨partition, hpartition⟩ := exists_renderAll ihpartition
    obtain ⟨order, horder⟩ := exists_renderAll ihorder
    obtain ⟨s?, hs?⟩ := exists_frame hframe
    simp only [Expr.render, Window.renderUse, Option.any_none, Bool.and_false, Bool.false_eq_true,
      if_false, ht, hpartition, horder, hs?, ok_bind]
    exact ⟨_, rfl⟩

end

/-- A vetted expression has a text when its whole numbers can be written. Its text
    has no comment and no unclosed token in it, and its quoted texts are those of
    the literals, in the order of the tree. -/
theorem scan_render (d : Dialect) {e : Expr} (h : e.Vetted fun _ => True) :
    (e.Vetted IsWritable → ∃ s, e.render d = .ok s) ∧
      ∀ s, e.render d = .ok s →
        (∀ t ∈ scan s.toList, t.isSafe = true) ∧
          (scan s.toList).filterMap Token.text? = e.texts := by
  refine ⟨Expr.Vetted.exists_render, ?_⟩
  intro s hs
  have hscans := h.scans s hs
  exact ⟨hscans.safe, hscans.texts_eq⟩

/-- A negative number behind a minus, compared with a text of quotes and dashes. -/
def signedComparison : Expr :=
  .binary "=" (.unary "-" (.literal (.whole (-1)))) (.literal (.text "' -- "))

theorem signedComparison_vetted {whole : Int → Prop} (h : whole (-1)) :
    signedComparison.Vetted whole :=
  .binary (by decide) (.unary (by decide) (.whole h)) (.text (by decide))

theorem scan_render_signedComparison :
    (signedComparison.Vetted fun _ => True) ∧
      ∃ s, signedComparison.render (.standard .postgres) = .ok s ∧
        (∀ t ∈ scan s.toList, t.isSafe = true) ∧
          (scan s.toList).filterMap Token.text? = ["' -- "] := by
  have hvetted : signedComparison.Vetted fun _ => True := signedComparison_vetted trivial
  have hwritable : IsWritable (-1) := isWritable_of_lt_ten (by decide)
  obtain ⟨htotal, hscan⟩ := scan_render (.standard .postgres) hvetted
  obtain ⟨s, hs⟩ := htotal (signedComparison_vetted hwritable)
  exact ⟨hvetted, s, hs, hscan s hs⟩

end SqlDialects
