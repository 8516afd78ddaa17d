-- SUMMARY: Matching fixed text at the start or the end of a text is exact: the pattern of LIKE, the position and the last characters all tell the same.
import SqlDialects.Proofs.Fixed.Misplaced
import SqlDialects.Proofs.Lexing.Quoted
import SqlDialects.Proofs.Matching.Meaning
import SqlDialects.Proofs.Writing.Slots

/-!
# Prefixes and suffixes

Fixed text that is known when translating is sought at an end of a text by `LIKE`, and
fixed text that is computed by its position or by the last characters. The literal that
is written reads back as a pattern that matches exactly the texts with the fixed text at
the place, so both ways give the same answer, and a negated match gives its negation.
-/

namespace SqlDialects

/-! ## Calls -/

/-- The argument by which an answer is negated. -/
def negation (negated : Bool) : List (String × Value) :=
  if negated then [("negate", .bool true)] else []

def likeOperator (negated : Bool) : String := if negated then "NOT LIKE" else "LIKE"

namespace Postgres

variable {function : String} {place : PatternPlace}

theorem resolve_matcher (h : (function, place) ∈ matchers) (c : Context) :
    Backend.postgres.variant.resolve function c =
      .ok { Rule.patternMatch place with name := function } := by
  simp only [matchers, List.mem_cons, Prod.mk.injEq, List.not_mem_nil, or_false] at h
  rcases h with ⟨rfl, rfl⟩ | ⟨rfl, rfl⟩ | ⟨rfl, rfl⟩ <;> cases c <;> rfl

/-- A text is sought at its start or at its end, unless it is sought anywhere. -/
theorem ends_of_matcher (h : (function, place) ∈ matchers) (hplace : place ≠ .anywhere) :
    place = .start ∨ place = .stop := by
  simp only [matchers, List.mem_cons, Prod.mk.injEq, List.not_mem_nil, or_false] at h
  rcases h with ⟨_, rfl⟩ | ⟨_, rfl⟩ | ⟨_, rfl⟩
  · exact absurd rfl hplace
  · exact .inl rfl
  · exact .inr rfl

theorem build_matcher (place : PatternPlace) (function : String) (s : Setting)
    (string pattern : Value) (negated : Bool) :
    Rule.build { Rule.patternMatch place with name := function } s [string, pattern]
      (negation negated) = matchPattern place string pattern negated := by
  let rule : Rule := { Rule.patternMatch place with name := function }
  let bound : Arguments :=
    [("string", .one string), ("pattern", .one pattern), ("negate", .one (.bool negated))]
  have hbind : rule.signature.bind [string, pattern] (negation negated) = .ok bound := by
    cases negated <;> rfl
  have hvalidate : validate s.backend rule.validators bound = .ok bound := by
    cases negated <;> rfl
  have happly : rule.template.apply s bound =
      do return .sql (← matchPattern place string pattern negated) :=
    Rule.expand_patternMatch_eq place s bound
  unfold Rule.build
  rw [hbind]
  dsimp only
  rw [hvalidate, ok_bind, happly]
  cases matchPattern place string pattern negated with
  | error => rfl
  | ok => rfl

end Postgres

namespace Translator

variable {t : Translator} {c : Context} {w : Window}

/-- A match of two arguments is translated to a match of what they are translated to. -/
theorem translate_matcher (hbackend : t.dialect.backend = .postgres) {function : String}
    {place : PatternPlace} (hmatcher : (function, place) ∈ Postgres.matchers)
    {string pattern string' pattern' : Value}
    (hstring : (t.argument c w string).outcome = .ok string')
    (hpattern : (t.argument c w pattern).outcome = .ok pattern') (negated : Bool) :
    (t.translate (.ok c) w (.call function [string, pattern] (negation negated))).outcome =
      matchPattern place string' pattern' negated := by
  have hargs : (t.arguments c w [string, pattern]).outcome = .ok [string', pattern'] := by
    simp only [arguments, Traced.outcome_bind_eq_ok_iff]
    exact ⟨_, hstring, _, ⟨_, hpattern, _, rfl, rfl⟩, rfl⟩
  have hnamed : (t.namedArguments c w (NameTable.ofList (negation negated))).outcome =
      .ok (negation negated) := by
    cases negated <;> rfl
  have hresolve := Postgres.resolve_matcher hmatcher c
  rw [← hbackend] at hresolve
  rw [outcome_translate_call hresolve hargs hnamed, Postgres.build_matcher]

end Translator

/-! ## Meaning -/

/-- Whether a text has the text of a datum at a place; unknown for NULL. -/
def Datum.foundIn (place : PatternPlace) (s : List Char) (d : Datum) : Datum :=
  match d.text? with
  | some p => .truth (place.Has p s)
  | none => .null

/-- An answer, or its negation. -/
def Datum.negatedIf (negated : Bool) : Datum → Datum
  | .truth b => .truth (b != negated)
  | d => d

namespace Expr

variable {i : Interpretation} {l r : Expr} {a b : Datum}

theorem meaning_likeOperator (hl : l.meaning i = some a) (hr : r.meaning i = some b)
    (negated : Bool) :
    (binary (likeOperator negated) l r).meaning i =
      some ((a.like b).negatedIf negated) := by
  have hanswer : a.like b = .null ∨ ∃ answer, a.like b = .truth answer := by
    unfold Datum.like Datum.ofTexts
    split <;> simp
  cases negated with
  | false =>
    have hkeep : (a.like b).negatedIf false = a.like b := by
      rcases hanswer with h | ⟨answer, h⟩ <;> simp [h, Datum.negatedIf]
    rw [hkeep]
    exact meaning_like hl hr
  | true =>
    have hnot : (a.like b).not? = some ((a.like b).negatedIf true) := by
      rcases hanswer with h | ⟨answer, h⟩ <;> simp [h, Datum.negatedIf, Datum.not?]
    exact (meaning_notLike hl hr).trans hnot

/-- A comparison whose answer is known to be one. -/
theorem meaning_comparison (hl : l.meaning i = some a) (hr : r.meaning i = some b) {d : Datum}
    (hequals : a.equals? b = some d) (hanswer : d.not? = some (d.negatedIf true))
    (negated : Bool) : (binary (if negated then "!=" else "=") l r).meaning i =
      some (d.negatedIf negated) := by
  cases negated with
  | false =>
    have hkeep : d.negatedIf false = d := by cases d <;> simp [Datum.negatedIf]
    rw [hkeep]
    exact (meaning_eq hl hr).trans hequals
  | true =>
    have hne := meaning_ne hl hr
    rw [hequals, Option.bind_some, hanswer] at hne
    exact hne

end Expr

section

variable {i : Interpretation} {place : PatternPlace} {string pattern : Value} {negated : Bool}
  {e : Expr} {s : List Char}

theorem Datum.not?_foundIn (d : Datum) :
    (d.foundIn place s).not? = some ((d.foundIn place s).negatedIf true) := by
  unfold foundIn
  split <;> simp [not?, negatedIf]

/-- A pattern that is known is sought by its bare text. -/
theorem meaning_matchFixed_of_isStatic (hplace : place ≠ .anywhere)
    (hstring : string.toExpr.meaning i = some (.text s))
    (hstatic : pattern.unmarked.isStatic = true)
    (he : matchFixed place string pattern negated = .ok e) : e.meaning i =
      some (((Datum.text pattern.unmarked.staticValue.bareText.toList).foundIn place s).negatedIf
        negated) := by
  have hlike : (Datum.text s).like
        (.text (likePattern place pattern.unmarked.staticValue.bareText).toList) =
      (Datum.text pattern.unmarked.staticValue.bareText.toList).foundIn place s := by
    have hmatch := PatternPlace.likeMatches_likePattern place
      pattern.unmarked.staticValue.bareText (s := s)
    rw [Datum.like, Datum.ofTexts_of_text? (Datum.text?_text _) (Datum.text?_text _)]
    exact congrArg Datum.truth (Bool.eq_iff_iff.2 (hmatch.trans (decide_eq_true_iff).symm))
  simp only [matchFixed, hplace, hstatic, if_true, if_false] at he
  obtain ⟨text, htext, he⟩ := bind_eq_ok_iff.1 he
  cases he
  rw [← hlike, ← Value.eq_bareText_of_asBareText htext]
  exact Expr.meaning_likeOperator hstring rfl negated

/-- A pattern that is computed is not written. -/
theorem exists_matchFixed_of_not_isStatic (place : PatternPlace) (string : Value)
    (hstatic : pattern.unmarked.isStatic = false) (negated : Bool) :
    ∃ e, matchFixed place string pattern negated = .ok e := by
  simp only [matchFixed, hstatic, Bool.false_eq_true, if_false]
  split
  · exact ⟨_, rfl⟩
  · split
    · exact ⟨_, rfl⟩
    · exact ⟨_, rfl⟩

/-- A pattern that is computed is sought by the text of what it denotes. -/
theorem meaning_matchFixed_of_not_isStatic (hplace : place ≠ .anywhere)
    (hstring : string.toExpr.meaning i = some (.text s))
    (hstatic : pattern.unmarked.isStatic = false)
    {d : Datum} (hpattern : pattern.unmarked.toExpr.meaning i = some d)
    (he : matchFixed place string pattern negated = .ok e) :
    e.meaning i = some ((d.foundIn place s).negatedIf negated) := by
  have hlocates (p : List Char) : place.Locates p s ↔ place.Has p s := place.locates_iff_has
  unfold PatternPlace.Locates at hlocates
  simp only [matchFixed, hplace, hstatic, Bool.false_eq_true, if_false] at he
  split at he
  next hstart =>
    cases he
    rw [hstart] at hlocates ⊢
    simp only [if_true] at hlocates
    have hposition : (Expr.callOf "STRPOS" [.sql string.toExpr, pattern.unmarked]).meaning i =
        some ((Datum.text s).position d) := Expr.meaning_strpos hstring hpattern
    refine Expr.meaning_comparison (b := .whole 1) hposition rfl ?_ d.not?_foundIn negated
    rcases d.eq_null_or_text? with rfl | ⟨p, hp⟩
    · rfl
    · rw [Datum.position, Datum.ofTexts_of_text? (Datum.text?_text s) hp, Datum.foundIn, hp]
      simp [Datum.equals?, ← hlocates]
  next hstart =>
    cases he
    simp only [hstart, if_false] at hlocates
    have hlast : (Expr.callOf "RIGHT"
        [.sql string.toExpr, .sql (.callOf "LENGTH" [pattern.unmarked])]).meaning i =
          (Datum.text s).right? d.length :=
      Expr.meaning_right hstring (Expr.meaning_length hpattern)
    rcases d.eq_null_or_text? with rfl | ⟨p, hp⟩
    · exact Expr.meaning_comparison (d := .foundIn place s .null) hlast hpattern rfl
        (Datum.not?_foundIn .null) negated
    · have hright : (Datum.text s).right? d.length = some (.text (lastChars p.length s)) := by
        rw [Datum.length, hp]
        rfl
      refine Expr.meaning_comparison (hlast.trans hright) hpattern ?_ d.not?_foundIn negated
      rw [Datum.equals?_text hp, Datum.foundIn, hp]
      simp [← hlocates]

end

/-! ## Texts -/

/-- A match of fixed text that is known compares with the pattern of `LIKE`. -/
theorem matchFixed_text {place : PatternPlace} (hplace : place ≠ .anywhere) (string : Value)
    (p : String) (negated : Bool) : matchFixed place string (.fixed (.text p)) negated =
      .ok (.binary (likeOperator negated) string.toExpr (.literal (.text (likePattern place p)))) :=
  if_neg hplace

/-- The text of a match of fixed text that is known: an operand, and a literal that reads back
    as the pattern. -/
theorem exists_render_likePattern {d : Dialect} {left : Expr} {operand : String}
    (hoperand : left.render d = .ok operand) (place : PatternPlace) {p : String}
    (hp : NulFree p.toList) (negated : Bool) :
    ∃ token, (Expr.binary (likeOperator negated) left
        (.literal (.text (likePattern place p)))).render d =
        .ok (wrapIf (left.isOtherBinary (likeOperator negated)) operand ++ " " ++
          likeOperator negated ++ " '" ++ token) ∧
      readQuoted '\'' token.toList = some ((likePattern place p).toList, []) := by
  let pattern := likePattern place p
  let quoted := doubled '\'' pattern.toList ++ ['\'']
  have hpattern : d.backend.textLiteral pattern = .ok (String.ofList ('\'' :: quoted)) := by
    rw [Backend.textLiteral, List.contains_eq_mem, decide_eq_false (nulFree_likePattern place hp)]
    rfl
  have hquote : " " ++ String.ofList ('\'' :: quoted) = " '" ++ String.ofList quoted :=
    String.toList_inj.1 (by simp)
  refine ⟨String.ofList quoted, ?_, ?_⟩
  · rw [Expr.render]
    refine bind_eq_ok_iff.2 ⟨_, hoperand, bind_eq_ok_iff.2 ⟨_, hpattern, ?_⟩⟩
    have hliteral : wrapIf (Expr.literal (.text pattern)).isBinary (.ofList ('\'' :: quoted)) =
        .ofList ('\'' :: quoted) := rfl
    rw [pure_eq_ok_iff, hliteral]
    simp only [String.append_assoc, hquote]
  · rw [String.toList_ofList]
    exact readQuoted_doubled .nil _

namespace Translator

variable {t : Translator} {c : Context} {w : Window}

/-- Fixed text is matched at the start or the end of a text exactly: by the pattern that is
    written, by position and by the last characters alike, whether the text is known when
    translating or computed, and a negated match gives the negation. -/
theorem matchesExactly_fixed (hbackend : t.dialect.backend = .postgres) {function : String}
    {place : PatternPlace} (hmatcher : (function, place) ∈ Postgres.matchers)
    (hplace : place ≠ .anywhere) {string string' : Value}
    (hstring : (t.argument c w string).outcome = .ok string') {operand : String}
    (hoperand : string'.toExpr.render t.dialect = .ok operand) {p : String}
    (hp : NulFree p.toList) (negated : Bool) :
    (∃ token pattern,
      t.toSql (.ok c) w (.call function [string, .fixed (.text p)] (negation negated)) =
        .ok (wrapIf (string'.toExpr.isOtherBinary (likeOperator negated)) operand ++ " " ++
          likeOperator negated ++ " '" ++ token) ∧
      readQuoted '\'' token.toList = some (pattern, []) ∧
      ∀ s, [likeMatches pattern s = true, place.Has p.toList s, place.Locates p.toList s].TFAE) ∧
    ∀ (pattern : Value) (e : Expr), (t.argument c w pattern).outcome = .ok (.sql e) →
      (Value.sql e).isStatic = false → ∃ literal computed,
        (t.translate (.ok c) w
          (.call function [string, .fixed (.text p)] (negation negated))).outcome = .ok literal ∧
        (t.translate (.ok c) w
          (.call function [string, .fixed pattern] (negation negated))).outcome = .ok computed ∧
        ∀ i s, string'.toExpr.meaning i = some (.text s) → e.meaning i = some (.text p.toList) →
          literal.meaning i = some (.truth (decide (place.Has p.toList s) != negated)) ∧
          computed.meaning i = literal.meaning i := by
  have hknown := matchFixed_text hplace string' p negated
  have hliteral := (translate_matcher hbackend hmatcher hstring
    (rfl : (t.argument c w (.fixed (.text p))).outcome = .ok (.fixed (.text p))) negated).trans
      hknown
  refine ⟨?_, fun pattern e hpattern hstatic => ?_⟩
  · obtain ⟨token, hrender, hread⟩ := exists_render_likePattern hoperand place hp negated
    refine ⟨token, _, ?_, hread, fun s => ?_⟩
    · exact bind_eq_ok_iff.2 ⟨_, hliteral, hrender⟩
    · tfae_have 1 ↔ 2 := PatternPlace.likeMatches_likePattern place p
      tfae_have 3 ↔ 2 := place.locates_iff_has
      tfae_finish
  · have hmarked : (t.argument c w (.fixed pattern)).outcome = .ok (.fixed (.sql e)) :=
      Traced.outcome_bind_eq_ok_iff.2 ⟨_, hpattern, rfl⟩
    have hcomputed : (Value.fixed (.sql e)).unmarked.isStatic = false := hstatic
    obtain ⟨computed, hmatch⟩ := exists_matchFixed_of_not_isStatic place string' hcomputed negated
    have htranslate := (translate_matcher hbackend hmatcher hstring hmarked negated).trans hmatch
    refine ⟨_, computed, hliteral, htranslate, fun i s hs he => ?_⟩
    have hfirst := meaning_matchFixed_of_isStatic hplace hs rfl hknown
    have hsecond := meaning_matchFixed_of_not_isStatic hplace hs hcomputed he hmatch
    exact ⟨hfirst, hsecond.trans hfirst.symm⟩

/-- Two columns that hold texts. -/
def twoColumns (x y : List Char) : Interpretation where
  regex _ _ := true
  other
    | .ident "x" none => some (.text x)
    | .ident "y" none => some (.text y)
    | _ => none

/-- Wildcards, quotes and backslashes in fixed text stand for themselves, and a column with
    the same text is sought alike. -/
theorem matchesExactly_fixed_wildcards :
    (∃ token pattern,
      toSql ⟨.standard .postgres, {}⟩ (.ok .window) {}
          (.call "str_ends" [.column "x" none, .fixed (.text "50%_\\'")] [("negate", .bool true)]) =
        .ok ("x NOT LIKE '" ++ token) ∧
      readQuoted '\'' token.toList = some (pattern, []) ∧
      ∀ s, [likeMatches pattern s = true, PatternPlace.stop.Has "50%_\\'".toList s,
        PatternPlace.stop.Locates "50%_\\'".toList s].TFAE) ∧
    ∃ literal computed,
      (translate ⟨.standard .postgres, {}⟩ (.ok .window) {} (.call "str_ends"
        [.column "x" none, .fixed (.text "50%_\\'")] [("negate", .bool true)])).outcome =
          .ok literal ∧
      (translate ⟨.standard .postgres, {}⟩ (.ok .window) {} (.call "str_ends"
        [.column "x" none, .fixed (.column "y" none)] [("negate", .bool true)])).outcome =
          .ok computed ∧
      ∀ s, ∃ i : Interpretation, i.other (.ident "x" none) = some (.text s) ∧
        i.other (.ident "y" none) = some (.text "50%_\\'".toList) ∧
        computed.meaning i = literal.meaning i := by
  have hmatcher : ("str_ends", PatternPlace.stop) ∈ Postgres.matchers := by decide
  have hcolumn : (argument ⟨.standard .postgres, {}⟩ .window {} (.column "x" none)).outcome =
      .ok (.sql (.ident "x" none)) := rfl
  have hoperand : (Expr.ident "x" none).render (.standard .postgres) = .ok "x" := rfl
  obtain ⟨⟨token, pattern, htext, hread, hmatch⟩, hcomputed⟩ :=
    matchesExactly_fixed rfl hmatcher (by decide) hcolumn hoperand (p := "50%_\\'") (by decide) true
  obtain ⟨literal, computed, hliteral, htranslate, hmeaning⟩ :=
    hcomputed (.column "y" none) (.ident "y" none) rfl rfl
  refine ⟨⟨token, pattern, htext, hread, hmatch⟩, literal, computed, hliteral, htranslate, ?_⟩
  intro s
  exact ⟨twoColumns s "50%_\\'".toList, rfl, rfl, (hmeaning (twoColumns s _) s rfl rfl).2⟩

end Translator

end SqlDialects
