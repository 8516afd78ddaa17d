-- SUMMARY: A pattern that is known when translating is matched as the same pattern computed in SQL exactly when its bare text is the text of what its literal denotes.
import SqlDialects.Proofs.Matching.Affixes
import SqlDialects.Proofs.Matching.Constants

/-!
# Folding known patterns

A pattern that is known when translating is folded into the text that is matched, by its
bare text, and any other pattern is joined to that text in SQL. The two agree exactly when
the bare text of the pattern is the text of what its literal denotes. That is not so for
null, which denotes no text, for truth values, which SQL writes in lower case, and for
doubles that are not finite, have an exponent or are a negative zero. A whole number with
too many digits to be written is not folded at all.
-/

namespace SqlDialects

/-! ## Plain values -/

/-- The bare text of a value is the text of what its literal denotes. -/
def Scalar.keepsText : Scalar → Bool
  | .null => false
  | .bool _ => false
  | .number (.double x) => x.isPlain
  | _ => true

/-- Only a whole number can be too long to be written. -/
theorem Scalar.keepsText_of_not_isShowable {v : Scalar}
    (h : (Value.scalar v).isShowable = false) : v.keepsText = true := by
  cases v with
  | number n =>
    cases n with
    | whole => rfl
    | double => cases h
    | decimal => rfl
  | null => cases h
  | bool => cases h
  | _ => rfl

theorem Scalar.text?_eq_bareText_iff {v : Scalar} {d : Datum} (hd : v.datum? = some d) :
    d.text? = some v.bareText.toList ↔ v.keepsText = true := by
  cases v with
  | null =>
    cases hd
    decide
  | bool b =>
    cases hd
    cases b <;> decide
  | number n =>
    cases n with
    | whole n =>
      cases hd
      exact iff_of_true rfl rfl
    | double x =>
      cases hd
      exact Option.some_inj.trans Binary64.sqlText_eq_iff
    | decimal => cases hd
  | text s =>
    cases hd
    exact iff_of_true rfl rfl
  | date d =>
    cases hd
    refine iff_of_true (congrArg some ?_) rfl
    exact (String.toList_ofList (l := d.isoList)).symm
  | bytes => cases hd
  | time => cases hd
  | moment => cases hd
  | omitted => cases hd

/-! ## Regular expressions -/

theorem PatternPlace.ne_anywhere_of_ends {place : PatternPlace}
    (hends : place = .start ∨ place = .stop) : place ≠ .anywhere := by
  rcases hends with rfl | rfl <;> decide

/-- What stands around a pattern that is anchored at a place. -/
def PatternPlace.around (place : PatternPlace) : String × String :=
  if place = .start then ("^(?:", ")") else ("(?:", ")$")

/-- A datum joined to the texts around it. -/
def Datum.anchored (place : PatternPlace) (d : Datum) : Datum :=
  ((Datum.text place.around.1.toList).concat d).concat (.text place.around.2.toList)

theorem Datum.anchored_of_text? (place : PatternPlace) {d : Datum} {p : List Char}
    (h : d.text? = some p) :
    d.anchored place = .text (place.around.1.toList ++ p ++ place.around.2.toList) := by
  rw [anchored, concat, ofTexts_of_text? (text?_text _) h]
  rfl

theorem Datum.anchored_null (place : PatternPlace) : null.anchored place = .null := by
  rw [anchored, concat, ofTexts_null]
  rfl

/-- Whether a text matches a datum that is anchored at a place. -/
def Datum.matchedBy (i : Interpretation) (place : PatternPlace) (s : List Char) (d : Datum) :
    Datum :=
  .ofTexts (fun s pattern => .truth (i.regex pattern s)) (.text s) (d.anchored place)

section

variable {i : Interpretation} {place : PatternPlace} {string pattern : Value} {negated : Bool}
  {e e' : Expr} {s : List Char}

theorem Datum.not?_matchedBy (d : Datum) :
    (d.matchedBy i place s).not? = some ((d.matchedBy i place s).negatedIf true) := by
  unfold matchedBy ofTexts
  split <;> simp [not?, negatedIf]

theorem anchoredAt_of_ends (hends : place = .start ∨ place = .stop) (e : Expr) :
    anchoredAt place e = anchored place.around.1 e place.around.2 := by
  rcases hends with rfl | rfl <;> rfl

theorem meaning_anchored_literal {v : Value}
    (h : anchored place.around.1 (.literal v) place.around.2 = .ok e) :
    e.meaning i = some ((Datum.text v.bareText.toList).anchored place) := by
  obtain ⟨text, htext, h⟩ := bind_eq_ok_iff.1 h
  cases h
  rw [Datum.anchored_of_text? place (Datum.text?_text _), ← Value.eq_bareText_of_asBareText htext]
  simp [Value.datum?, Scalar.datum?]

theorem meaning_anchored_paren {d : Datum} (he : e.meaning i = some d)
    (h : anchored place.around.1 (.paren e) place.around.2 = .ok e') :
    e'.meaning i = some (d.anchored place) := by
  cases h
  exact Expr.meaning_concat (Expr.meaning_concat rfl he) rfl

theorem meaning_matchRegex (hends : place = .start ∨ place = .stop)
    (hstring : string.toExpr.meaning i = some (.text s)) {d : Datum}
    (hpattern : ∀ anchored', anchored place.around.1 pattern.toExpr place.around.2 = .ok anchored' →
      anchored'.meaning i = some (d.anchored place))
    (h : matchRegex place "~" string pattern negated = .ok e) :
    e.meaning i = some ((d.matchedBy i place s).negatedIf negated) := by
  obtain ⟨pattern', hanchored, h⟩ := bind_eq_ok_iff.1 h
  cases h
  rw [anchoredAt_of_ends hends] at hanchored
  have hoperation : (Expr.binary "~" string.toExpr pattern').meaning i =
      some (d.matchedBy i place s) := Expr.meaning_regex hstring (hpattern _ hanchored)
  cases negated with
  | false =>
    have hkeep : (d.matchedBy i place s).negatedIf false = d.matchedBy i place s := by
      cases d.matchedBy i place s <;> simp [Datum.negatedIf]
    rw [hkeep]
    exact hoperation
  | true => exact (Expr.meaning_not hoperation).trans (Datum.not?_matchedBy d)

end

/-! ## Folding -/

/-- What is matched, by regular expression or as fixed text. -/
def Datum.soughtIn (i : Interpretation) (place : PatternPlace) (isFixed : Bool) (s : List Char)
    (d : Datum) : Datum :=
  if isFixed then d.foundIn place s else d.matchedBy i place s

/-- Only the text of a datum counts. -/
theorem Datum.soughtIn_of_text? {i : Interpretation} {place : PatternPlace} {isFixed : Bool}
    {s p : List Char} {d : Datum} (h : d.text? = some p) :
    d.soughtIn i place isFixed s = (text p).soughtIn i place isFixed s := by
  unfold soughtIn foundIn matchedBy
  rw [anchored_of_text? place h, anchored_of_text? place (text?_text p), h, text?_text]

theorem Datum.negatedIf_injective (negated : Bool) : Function.Injective (negatedIf negated) := by
  intro a b h
  cases a <;> cases b <;> simp_all [negatedIf]

/-- Data that are sought alike in every text have the same text. -/
theorem Datum.text?_eq_of_soughtIn {place : PatternPlace} {isFixed negated : Bool} {p : List Char}
    {d : Datum} (h : ∀ i s, ((text p).soughtIn i place isFixed s).negatedIf negated =
      (d.soughtIn i place isFixed s).negatedIf negated) : d.text? = some p := by
  replace h (i : Interpretation) (s : List Char) := negatedIf_injective negated (h i s)
  unfold soughtIn at h
  cases isFixed with
  | true =>
    rcases d.eq_null_or_text? with rfl | ⟨q, hq⟩
    · cases h ⟨fun _ _ => true, fun _ => none⟩ []
    · have hhas (s : List Char) : place.Has p s ↔ place.Has q s := by
        have hfound := h ⟨fun _ _ => true, fun _ => none⟩ s
        simp only [foundIn, hq, text?_text, if_true, Datum.truth.injEq] at hfound
        exact decide_eq_decide.1 hfound
      rw [hq, PatternPlace.eq_of_has_iff hhas]
  | false =>
    -- a matching that tells the anchored pattern from all others
    let around (q : List Char) := place.around.1.toList ++ q ++ place.around.2.toList
    let i : Interpretation := ⟨fun pattern _ => pattern == around p, fun _ => none⟩
    have hmatched : (text p).matchedBy i place [] = d.matchedBy i place [] := h i []
    have hfirst : (text p).anchored place = .text (around p) :=
      anchored_of_text? place (text?_text p)
    rw [matchedBy, matchedBy, hfirst, ofTexts_of_text? (text?_text _) (text?_text _)] at hmatched
    rcases d.eq_null_or_text? with rfl | ⟨q, hq⟩
    · rw [anchored_null, ofTexts_null] at hmatched
      cases hmatched
    · have hsecond : d.anchored place = .text (around q) := anchored_of_text? place hq
      rw [hsecond, ofTexts_of_text? (text?_text _) (text?_text _)] at hmatched
      have hsame : (around q == around p) = true :=
        (Datum.truth.inj hmatched).symm.trans (beq_self_eq_true _)
      rw [hq, List.append_cancel_left (List.append_cancel_right (beq_iff_eq.1 hsame))]

/-- A pattern, marked as fixed or not. -/
def Value.markedIf (marked : Bool) (v : Value) : Value := if marked then .fixed v else v

/-- A value as a pattern that is computed in SQL: its literal between parentheses, marked where
    the value itself is matched as fixed text. -/
def Value.computed (marked : Bool) (v : Value) : Value :=
  .markedIf (Value.markedIf marked v).isFixedPattern (.sql (.paren (.literal v)))

section

variable {i : Interpretation} {place : PatternPlace} {string : Value} {marked negated : Bool}
  {e : Expr} {s : List Char} {v : Scalar}

theorem Value.unmarked_markedIf (marked : Bool) {v : Value} (h : v.unmarked = v) :
    (markedIf marked v).unmarked = v := by
  cases marked with
  | true => rfl
  | false => exact h

theorem Value.isFixedPattern_computed (marked : Bool) (v : Value) :
    (computed marked v).isFixedPattern = (markedIf marked v).isFixedPattern := by
  unfold computed
  cases (markedIf marked v).isFixedPattern <;> rfl

theorem Value.unmarked_computed (marked : Bool) (v : Value) :
    (computed marked v).unmarked = .sql (.paren (.literal v)) := unmarked_markedIf _ rfl

theorem Value.computed_of_not_isFixedPattern {v : Value}
    (h : ¬(markedIf marked v).isFixedPattern = true) :
    computed marked v = .sql (.paren (.literal v)) := by
  rw [computed, Bool.eq_false_iff.2 h]
  rfl

/-- A known pattern is written into what matches it. -/
theorem exists_matchPattern_scalar (hends : place = .start ∨ place = .stop) (string : Value)
    (v : Scalar) (marked negated : Bool) : ∃ write : String → Expr,
      matchPattern place string (.markedIf marked (.scalar v)) negated = do
        return write (← (Value.scalar v).asBareText) := by
  have hplace := PatternPlace.ne_anywhere_of_ends hends
  have hunmarked : (Value.markedIf marked (.scalar v)).unmarked = .scalar v :=
    Value.unmarked_markedIf marked rfl
  unfold matchPattern
  split
  next =>
    simp only [matchFixed, hplace, hunmarked, if_false]
    exact ⟨_, rfl⟩
  next hfixed =>
    cases marked with
    | true => exact absurd rfl hfixed
    | false =>
      have hanchored : anchoredAt place (Value.scalar v).toExpr = do
          return .literal (.text (place.around.1 ++ (← (Value.scalar v).asBareText) ++
            place.around.2)) := anchoredAt_of_ends hends _
      simp only [Value.markedIf, Bool.false_eq_true, if_false, matchRegex, hanchored, bind_assoc,
        pure_bind]
      exact ⟨_, rfl⟩

/-- A known pattern is sought by its bare text. -/
theorem meaning_matchPattern_scalar (hends : place = .start ∨ place = .stop)
    (hstring : string.toExpr.meaning i = some (.text s))
    (he : matchPattern place string (.markedIf marked (.scalar v)) negated = .ok e) :
    e.meaning i = some (((Datum.text v.bareText.toList).soughtIn i place
      (Value.markedIf marked (.scalar v)).isFixedPattern s).negatedIf negated) := by
  have hplace := PatternPlace.ne_anywhere_of_ends hends
  have hunmarked : (Value.markedIf marked (.scalar v)).unmarked = .scalar v :=
    Value.unmarked_markedIf marked rfl
  unfold matchPattern at he
  unfold Datum.soughtIn
  split at he
  next hfixed =>
    have hstatic : (Value.markedIf marked (.scalar v)).unmarked.isStatic = true := by
      rw [hunmarked]
      rfl
    have hmeaning := meaning_matchFixed_of_isStatic hplace hstring hstatic he
    rw [hunmarked] at hmeaning
    rw [if_pos hfixed]
    exact hmeaning
  next hfixed =>
    rw [if_neg hfixed]
    cases marked with
    | true => exact absurd rfl hfixed
    | false => exact meaning_matchRegex hends hstring (fun _ => meaning_anchored_literal) he

/-- A pattern that is computed in SQL is always matched. -/
theorem exists_matchPattern_computed (hends : place = .start ∨ place = .stop) (string v : Value)
    (marked negated : Bool) :
    ∃ e, matchPattern place string (.computed marked v) negated = .ok e := by
  unfold matchPattern
  rw [Value.isFixedPattern_computed]
  split
  next =>
    exact exists_matchFixed_of_not_isStatic place string
      (by rw [Value.unmarked_computed]; rfl) negated
  next hfixed =>
    rw [Value.computed_of_not_isFixedPattern hfixed]
    rcases hends with rfl | rfl
    · exact ⟨_, rfl⟩
    · exact ⟨_, rfl⟩

/-- A pattern that is computed in SQL is sought by the text of what its literal denotes. -/
theorem meaning_matchPattern_computed (hends : place = .start ∨ place = .stop)
    (hstring : string.toExpr.meaning i = some (.text s)) {d : Datum} (hd : v.datum? = some d)
    (he : matchPattern place string (.computed marked (.scalar v)) negated = .ok e) :
    e.meaning i = some ((d.soughtIn i place
      (Value.markedIf marked (.scalar v)).isFixedPattern s).negatedIf negated) := by
  have hplace := PatternPlace.ne_anywhere_of_ends hends
  have hunmarked := Value.unmarked_computed marked (.scalar v)
  have hliteral : (Expr.literal (.scalar v)).meaning i = some d := hd
  unfold matchPattern at he
  unfold Datum.soughtIn
  rw [Value.isFixedPattern_computed] at he
  split at he
  next hfixed =>
    rw [if_pos hfixed]
    exact meaning_matchFixed_of_not_isStatic hplace hstring (by rw [hunmarked]; rfl)
      (by rw [hunmarked]; exact hliteral) he
  next hfixed =>
    rw [if_neg hfixed]
    rw [Value.computed_of_not_isFixedPattern hfixed] at he
    exact meaning_matchRegex hends hstring (fun _ => meaning_anchored_paren hliteral) he

end

namespace Translator

variable {t : Translator} {c : Context} {w : Window}

theorem argument_markedIf (marked : Bool) {v : Value} (h : (t.argument c w v).outcome = .ok v) :
    (t.argument c w (.markedIf marked v)).outcome = .ok (.markedIf marked v) := by
  cases marked with
  | true => exact Traced.outcome_bind_eq_ok_iff.2 ⟨v, h, rfl⟩
  | false => exact h

/-- A known pattern is matched as the pattern computed in SQL, whatever text is looked at, or is
    refused where it is too long to be written. -/
def FoldsAlike (t : Translator) (c : Context) (w : Window) (function : String)
    (marked negated : Bool) (v : Value) : Prop :=
  ∀ string string', (t.argument c w string).outcome = .ok string' → ∃ e',
    (t.translate (.ok c) w
      (.call function [string, .computed marked v] (negation negated))).outcome = .ok e' ∧
    if v.isShowable then ∃ e,
      (t.translate (.ok c) w
        (.call function [string, .markedIf marked v] (negation negated))).outcome = .ok e ∧
      ∀ i s, string'.toExpr.meaning i = some (.text s) → e.meaning i = e'.meaning i
    else
      (t.translate (.ok c) w
        (.call function [string, .markedIf marked v] (negation negated))).outcome =
          .error (.lapse .tooManyDigits)

/-- A known pattern is matched as the pattern computed in SQL exactly when its bare text is the
    text of what its literal denotes. -/
theorem foldsAlike_iff (hbackend : t.dialect.backend = .postgres) {function : String}
    {place : PatternPlace} (hmatcher : (function, place) ∈ Postgres.matchers)
    (hplace : place ≠ .anywhere) {v : Scalar} {d : Datum} (hd : v.datum? = some d)
    (marked negated : Bool) :
    t.FoldsAlike c w function marked negated (.scalar v) ↔ v.keepsText = true := by
  have hends := Postgres.ends_of_matcher hmatcher hplace
  have hknown : (t.argument c w (.markedIf marked (.scalar v))).outcome =
      .ok (.markedIf marked (.scalar v)) := argument_markedIf marked rfl
  have hcomputed : (t.argument c w (.computed marked (.scalar v))).outcome =
      .ok (.computed marked (.scalar v)) := argument_markedIf _ rfl
  rw [← Scalar.text?_eq_bareText_iff hd]
  constructor
  · intro h
    obtain ⟨e', he', h⟩ := h (.column "" none) (.sql (.ident "" none)) rfl
    cases hshowable : (Value.scalar v).isShowable with
    | false =>
      exact (Scalar.text?_eq_bareText_iff hd).2 (Scalar.keepsText_of_not_isShowable hshowable)
    | true =>
      rw [if_pos hshowable] at h
      obtain ⟨e, he, hmeaning⟩ := h
      rw [translate_matcher hbackend hmatcher rfl hknown] at he
      rw [translate_matcher hbackend hmatcher rfl hcomputed] at he'
      have hsought (i : Interpretation) (s : List Char) :
          ((Datum.text v.bareText.toList).soughtIn i place
            (Value.markedIf marked (.scalar v)).isFixedPattern s).negatedIf negated =
          (d.soughtIn i place
            (Value.markedIf marked (.scalar v)).isFixedPattern s).negatedIf negated := by
        -- a column may be any text
        have hs : (Value.sql (.ident "" none)).toExpr.meaning ⟨i.regex, fun _ => some (.text s)⟩ =
          some (.text s) := rfl
        have heq := hmeaning _ s hs
        rw [meaning_matchPattern_scalar hends hs he,
          meaning_matchPattern_computed hends hs hd he'] at heq
        exact Option.some_inj.1 heq
      exact Datum.text?_eq_of_soughtIn hsought
  · intro h string string' hstring
    obtain ⟨e', he'⟩ := exists_matchPattern_computed hends string' (.scalar v) marked negated
    obtain ⟨write, hwrite⟩ := exists_matchPattern_scalar hends string' v marked negated
    refine ⟨e', (translate_matcher hbackend hmatcher hstring hcomputed negated).trans he', ?_⟩
    rw [translate_matcher hbackend hmatcher hstring hknown, hwrite]
    split
    next hshowable =>
      rw [Value.asBareText_of_isShowable hshowable] at hwrite ⊢
      refine ⟨_, rfl, fun i s hs => ?_⟩
      rw [meaning_matchPattern_scalar hends hs hwrite,
        meaning_matchPattern_computed hends hs hd he', Datum.soughtIn_of_text? h]
    next hshowable =>
      rw [Value.asBareText_of_not_isShowable (Bool.eq_false_iff.2 hshowable)]
      rfl

/-- A whole number is folded as SQL writes it, and a truth value is not. -/
theorem foldsAlike_iff_whole :
    FoldsAlike ⟨.standard .postgres, {}⟩ .scalar {} "str_ends" false true (.whole (-5)) ∧
      ¬FoldsAlike ⟨.standard .postgres, {}⟩ .window {} "str_starts" true false (.bool true) := by
  have hends : ("str_ends", PatternPlace.stop) ∈ Postgres.matchers := by decide
  have hstarts : ("str_starts", PatternPlace.start) ∈ Postgres.matchers := by decide
  refine ⟨(foldsAlike_iff rfl hends (by decide) rfl false true).2 rfl, fun h => ?_⟩
  have hkeeps : (Scalar.bool true).keepsText = true :=
    (foldsAlike_iff rfl hstarts (by decide) rfl true false).1 h
  cases hkeeps

/-- Null is folded into a text that can be matched; in SQL the pattern would be NULL. -/
theorem not_foldsAlike_null :
    toSql ⟨.standard .postgres, {}⟩ (.ok .scalar) {}
        (.call "str_starts" [.column "x" none, .null] []) = .ok "x ~ '^(?:None)'" ∧
      ¬FoldsAlike ⟨.standard .postgres, {}⟩ .scalar {} "str_starts" false false .null := by
  refine ⟨rfl, fun h => ?_⟩
  obtain ⟨e', he', e, he, hmeaning⟩ := h (.column "x" none) (.sql (.ident "x" none)) rfl
  cases he
  cases he'
  cases hmeaning ⟨fun _ _ => true, fun _ => some (.text [])⟩ [] rfl

end Translator

end SqlDialects
