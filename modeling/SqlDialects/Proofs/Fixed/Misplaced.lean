-- SUMMARY: A fixed pattern that is misplaced is never written, but for two kinds of places at which an argument is not looked at.
import SqlDialects.Proofs.Fixed.Places

/-!
# Misplaced fixed patterns

A pattern may be marked as fixed where it is the pattern of a function that matches
patterns, and nowhere else. A mark anywhere else shows in what the tree is translated
to, which then has no text. At two kinds of places the mark is not seen: what is
looked for in an empty table is not written at all, and a pattern sought at the start
or the end of a text that is known when translating is written as its bare text.
-/

namespace SqlDialects

/-! ## Trees -/

mutual

/-- No call names an argument twice. -/
def Value.hasDistinctNames : Value → Bool
  | .list items => allHaveDistinctNames items
  | .tuple items => allHaveDistinctNames items
  | .fixed pattern => pattern.hasDistinctNames
  | .call _ args named =>
    decide (named.map (·.1)).Nodup && allHaveDistinctNames args && allNamedHaveDistinctNames named
  | _ => true

def allHaveDistinctNames : List Value → Bool
  | [] => true
  | v :: vs => v.hasDistinctNames && allHaveDistinctNames vs

def allNamedHaveDistinctNames : List (String × Value) → Bool
  | [] => true
  | (_, v) :: rest => v.hasDistinctNames && allNamedHaveDistinctNames rest

end

mutual

/-- A pattern is marked as fixed elsewhere than directly as the pattern of a function that
    matches patterns. The places at which a mark is not seen are overlooked or not. -/
def Value.misplacesFixed (overlook : Bool) : ArgumentPlace → Value → Bool
  | .plain, .fixed _ => true
  | .pattern, .fixed pattern => pattern.misplacesFixed overlook .plain
  | .affix, .fixed pattern =>
    !(overlook && pattern.isKnown) && pattern.misplacesFixed overlook .plain
  | .unused, .fixed _ => false
  | place, .list items =>
    place.sees overlook true && anyMisplaceFixed overlook (fun _ => .plain) items
  | place, .tuple items =>
    place.sees overlook true && anyMisplaceFixed overlook (fun _ => .plain) items
  | place, .call name args named =>
    place.sees overlook (Value.call name args named).isKnown &&
      (anyMisplaceFixed overlook
          (ArgumentPlace.ofPosition name (overlook && hasEmptyTable args named)) args ||
        anyNamedMisplaceFixed overlook
          (ArgumentPlace.ofParameter name (overlook && hasEmptyTable args named)) named)
  | _, _ => false

def anyMisplaceFixed (overlook : Bool) : (Nat → ArgumentPlace) → List Value → Bool
  | _, [] => false
  | places, v :: vs =>
    v.misplacesFixed overlook (places 0) || anyMisplaceFixed overlook (fun i => places (i + 1)) vs

def anyNamedMisplaceFixed (overlook : Bool) :
    (String → ArgumentPlace) → List (String × Value) → Bool
  | _, [] => false
  | places, (name, v) :: rest =>
    v.misplacesFixed overlook (places name) || anyNamedMisplaceFixed overlook places rest

end

theorem allHaveDistinctNames_iff {vs : List Value} :
    allHaveDistinctNames vs = true ↔ ∀ v ∈ vs, v.hasDistinctNames = true := by
  induction vs with
  | nil => simp [allHaveDistinctNames]
  | cons v vs ih => simp [allHaveDistinctNames, ih]

theorem allNamedHaveDistinctNames_iff {named : List (String × Value)} :
    allNamedHaveDistinctNames named = true ↔ ∀ n ∈ named, n.2.hasDistinctNames = true := by
  induction named with
  | nil => simp [allNamedHaveDistinctNames]
  | cons n rest ih => simp [allNamedHaveDistinctNames, ih]

theorem anyMisplaceFixed_iff {overlook : Bool} {places : Nat → ArgumentPlace} {vs : List Value} :
    anyMisplaceFixed overlook places vs = true ↔
      ∃ (i : Nat) (v : Value), vs[i]? = some v ∧ v.misplacesFixed overlook (places i) = true := by
  induction vs generalizing places with
  | nil => simp [anyMisplaceFixed]
  | cons v vs ih =>
    rw [anyMisplaceFixed, Bool.or_eq_true, ih]
    constructor
    · rintro (hv | ⟨i, u, hu, hmisplaces⟩)
      · exact ⟨0, v, rfl, hv⟩
      · exact ⟨i + 1, u, hu, hmisplaces⟩
    · rintro ⟨i, u, hu, hmisplaces⟩
      cases i with
      | zero =>
        cases hu
        exact .inl hmisplaces
      | succ i => exact .inr ⟨i, u, hu, hmisplaces⟩

theorem anyNamedMisplaceFixed_iff {overlook : Bool} {places : String → ArgumentPlace}
    {named : List (String × Value)} :
    anyNamedMisplaceFixed overlook places named = true ↔
      ∃ n ∈ named, n.2.misplacesFixed overlook (places n.1) = true := by
  induction named with
  | nil => simp [anyNamedMisplaceFixed]
  | cons n rest ih => simp [anyNamedMisplaceFixed, ih]

/-! ## Calls -/

/-- Every argument of the other functions is a plain one. -/
theorem ShowsAmong.of_exposesAmong {name : String} (hname : name ∉ Rule.unlikeOthers)
    {unused : Bool} {args args' : List Value} {named named' : List (String × Value)}
    (h : ExposesAmong (.ofPosition name unused) (.ofParameter name unused) args args' named named') :
    ShowsAmong args' named' := by
  have plain (parameter : String) : ArgumentPlace.ofParameter name unused parameter = .plain := by
    simp only [Rule.unlikeOthers, List.mem_cons, List.not_mem_nil, or_false, not_or] at hname
    simp [ArgumentPlace.ofParameter, hname]
  rcases h with ⟨i, v, v', _, hv', hexposes⟩ | ⟨name', v, v', _, hv', hexposes⟩
  · rw [ArgumentPlace.ofPosition, plain] at hexposes
    exact .inl ⟨v', List.mem_of_getElem? hv', hexposes.1⟩
  · rw [plain] at hexposes
    exact .inr ⟨_, hv', hexposes.1⟩

namespace Backend

variable {backend : Backend} {c : Context}

/-- Only one backend has functions that match patterns. -/
theorem eq_of_resolve_matcher {function : String} {place : PatternPlace} {rule : Rule}
    (hfunction : (function, place) ∈ Postgres.matchers)
    (h : backend.variant.resolve function c = .ok rule) :
    rule = { Rule.patternMatch place with name := function } := by
  simp only [Postgres.matchers, List.mem_cons, Prod.mk.injEq, List.not_mem_nil, or_false]
    at hfunction
  rcases hfunction with ⟨rfl, rfl⟩ | ⟨rfl, rfl⟩ | ⟨rfl, rfl⟩
  all_goals
    cases backend with
    | ansi => cases c <;> cases h
    | postgres => cases c <;> cases h <;> rfl

end Backend

namespace Translator

variable {t : Translator} {c : Context} {w : Window}

/-- A function writes an argument that exposes at its place. -/
theorem showsFixed_of_build {name : String} {args args' : List Value}
    {named named' : List (String × Value)} {rule : Rule} {s : Setting} {e : Expr}
    (hrule : t.dialect.backend.variant.resolve name c = .ok rule)
    (hargs : (t.arguments c w args).outcome = .ok args')
    (hnamed : (t.namedArguments c w named).outcome = .ok named')
    (hdistinct : (named.map (·.1)).Nodup)
    (hexposes : ExposesAmong (.ofPosition name (hasEmptyTable args named))
      (.ofParameter name (hasEmptyTable args named)) args args' named named')
    (h : rule.build s args' named' = .ok e) :
    e.showsFixed = true ∧
      ((Value.sql e).isStatic = true → (Value.call name args named).isKnown = true) := by
  have hdistinct' : (named'.map (·.1)).Nodup := by rwa [names_namedArguments hnamed]
  -- no other function builds a literal
  have never (h : e.showsFixed = true ∧ (Value.sql e).isStatic = false) : e.showsFixed = true ∧
      ((Value.sql e).isStatic = true → (Value.call name args named).isKnown = true) := by
    refine ⟨h.1, fun hstatic => ?_⟩
    rw [h.2] at hstatic
    cases hstatic
  by_cases hname : name ∈ Rule.unlikeOthers
  · simp only [Rule.unlikeOthers, List.mem_cons, List.not_mem_nil, or_false] at hname
    rcases hname with rfl | rfl | hname
    · rw [Backend.resolve_plus] at hrule
      cases hrule
      exact showsFixed_of_plus hargs hnamed hdistinct hexposes h
    · rw [Backend.resolve_isIn] at hrule
      cases hrule
      exact never (showsFixed_of_isIn hargs hnamed hdistinct' hexposes h)
    · have hmatcher : ∃ place, (name, place) ∈ Postgres.matchers := by
        rcases hname with rfl | rfl | rfl
        · exact ⟨_, List.mem_cons_self⟩
        · exact ⟨_, List.mem_cons_of_mem _ List.mem_cons_self⟩
        · exact ⟨_, List.mem_cons_of_mem _ (List.mem_cons_of_mem _ List.mem_cons_self)⟩
      obtain ⟨place, hplace⟩ := hmatcher
      obtain rfl := Backend.eq_of_resolve_matcher hplace hrule
      exact never (Postgres.showsFixed_of_matcher hplace hdistinct' hexposes h)
  · exact never (Backend.showsArguments_of_resolve hname hrule _ _ _ _ hdistinct'
      (.of_exposesAmong hname hexposes) h)

/-! ## Translation -/

/-- A misplaced mark that is seen comes to what its place exposes. -/
theorem exposes_argument {v v' : Value} {place : ArgumentPlace}
    (hdistinct : v.hasDistinctNames = true) (hmisplaces : v.misplacesFixed true place = true)
    (h : (t.argument c w v).outcome = .ok v') : place.Exposes v v' := by
  induction v using Value.tree_induction generalizing v' place with
  | call name args named ihargs ihnamed =>
    simp only [Value.hasDistinctNames, Bool.and_eq_true, decide_eq_true_eq,
      allHaveDistinctNames_iff, allNamedHaveDistinctNames_iff] at hdistinct
    obtain ⟨⟨hnames, hargsDistinct⟩, hnamedDistinct⟩ := hdistinct
    simp only [Value.misplacesFixed, Bool.and_eq_true, Bool.or_eq_true, Bool.true_and,
      anyMisplaceFixed_iff, anyNamedMisplaceFixed_iff] at hmisplaces
    obtain ⟨hsees, hmisplaces⟩ := hmisplaces
    simp only [argument_call, Traced.outcome_bind_eq_ok_iff, outcome_resolve,
      NameTable.ofList_of_nodup hnames] at h
    obtain ⟨rule, hrule, args', hargs, named', hnamed, e, he, h⟩ := h
    cases h
    have hexposes : ExposesAmong (.ofPosition name (hasEmptyTable args named))
        (.ofParameter name (hasEmptyTable args named)) args args' named named' := by
      rcases hmisplaces with ⟨i, v, hv, hmisplaced⟩ | ⟨⟨parameter, v⟩, hv, hmisplaced⟩
      · obtain ⟨v', hv', hargument⟩ := exists_argument_of_getElem? hargs hv
        have hmem := List.mem_of_getElem? hv
        exact .inl ⟨i, v, v', hv, hv', ihargs v hmem (hargsDistinct v hmem) hmisplaced hargument⟩
      · obtain ⟨v', hv', hargument⟩ := exists_argument_of_mem hnamed hv
        exact .inr ⟨parameter, v, v', hv, hv',
          ihnamed _ hv (hnamedDistinct _ hv) hmisplaced hargument⟩
    obtain ⟨hshows, hknown⟩ := showsFixed_of_build hrule hargs hnamed hnames hexposes he
    exact ArgumentPlace.exposes_of_sees rfl hshows hknown hsees
  | fixed pattern ih =>
    rw [Value.hasDistinctNames] at hdistinct
    obtain ⟨pattern', hpattern, h⟩ := Traced.outcome_bind_eq_ok_iff.1 h
    cases h
    cases place with
    | plain => exact ⟨rfl, fun _ => rfl⟩
    | pattern => exact (ih hdistinct hmisplaces hpattern).1
    | affix =>
      simp only [Value.misplacesFixed, Bool.and_eq_true, Bool.true_and] at hmisplaces
      obtain ⟨hshows, hknown⟩ := ih hdistinct hmisplaces.2 hpattern
      refine ⟨hshows, Bool.eq_false_iff.2 fun hstatic => ?_⟩
      rw [hknown hstatic] at hmisplaces
      cases hmisplaces.1
    | unused => cases hmisplaces
  | list items ih | tuple items ih =>
    simp only [Value.misplacesFixed, Bool.and_eq_true, anyMisplaceFixed_iff] at hmisplaces
    obtain ⟨hsees, i, v, hv, hmisplaced⟩ := hmisplaces
    obtain ⟨items', hitems, h⟩ := Traced.outcome_bind_eq_ok_iff.1 h
    cases h
    obtain ⟨v', hv', hargument⟩ := exists_argument_of_getElem? hitems hv
    have hmem := List.mem_of_getElem? hv
    have hexposes := ih v hmem (allHaveDistinctNames_iff.1 hdistinct v hmem) hmisplaced hargument
    exact ArgumentPlace.exposes_of_sees rfl
      (anyShowFixed_iff.2 ⟨v', List.mem_of_getElem? hv', hexposes.1⟩) (fun _ => rfl) hsees
  | scalar => cases place <;> cases hmisplaces
  | column => cases place <;> cases hmisplaces
  | sql => cases place <;> cases hmisplaces
  | window => cases place <;> cases hmisplaces

/-- A misplaced mark that is seen shows in what has a text. -/
theorem showsFixed_of_translate {c : Except Error Context} {v : Value} {e : Expr} {s : String}
    (hdistinct : v.hasDistinctNames = true) (hmisplaces : v.misplacesFixed true .plain = true)
    (h : (t.translate c w v).outcome = .ok e) (htext : e.render t.dialect = .ok s) :
    e.showsFixed = true := by
  cases v with
  | call name args named =>
    cases c with
    | error => cases h
    | ok c =>
      rw [translate_call_eq_ok_iff] at h
      exact (exposes_argument hdistinct hmisplaces h).1
  | fixed => cases h
  | list =>
    -- a sequence that stands alone is a literal as it is, and has no text
    cases h
    cases htext
  | tuple =>
    cases h
    cases htext
  | scalar => cases hmisplaces
  | column => cases hmisplaces
  | sql => cases hmisplaces
  | window => cases hmisplaces

/-- With every dialect, in every context and over every window, there is no text of a tree
    in which a pattern is marked as fixed anywhere else than directly as the pattern of a
    function that matches patterns, unless every such mark is in what is looked for in an
    empty table, or in a pattern that is sought at the start or the end of a text and is
    known when translating. -/
theorem exists_error_of_misplacesFixed (t : Translator) (c : Except Error Context) (w : Window)
    {v : Value} (hdistinct : v.hasDistinctNames = true)
    (hmisplaces : v.misplacesFixed true .plain = true) : ∃ e, t.toSql c w v = .error e := by
  cases h : t.toSql c w v with
  | error e => exact ⟨e, rfl⟩
  | ok s =>
    obtain ⟨e, he, htext⟩ := bind_eq_ok_iff.1 h
    have hshows := showsFixed_of_translate hdistinct hmisplaces he htext
    rw [Expr.showsFixed_of_render htext] at hshows
    cases hshows

/-- The pattern may be marked, and the mark in a list in it may not. -/
theorem exists_error_of_misplacesFixed_detect :
    ∃ e, toSql ⟨.standard .postgres, {}⟩ (.ok .aggregate) {}
      (.call "str_detect" [.column "x" none, .fixed (.list [.fixed (.text "a")])]
        [("negate", .bool true)]) = .error e :=
  exists_error_of_misplacesFixed _ _ _ rfl rfl

/-- A mark in a mark that is known when translating is not seen: it is written out as
    part of the text that is sought. -/
theorem toSql_starts_misplacedFixed :
    (Value.call "str_starts" [.column "x" none, .fixed (.fixed (.text "a"))] []).misplacesFixed
        false .plain = true ∧
      toSql ⟨.standard .postgres, {}⟩ (.ok .scalar) {}
        (.call "str_starts" [.column "x" none, .fixed (.fixed (.text "a"))] []) =
      .ok "x LIKE 'FixedPattern(pattern=''a'')%'" :=
  ⟨rfl, rfl⟩

/-- Nor is a mark seen in what is looked for in an empty table. -/
example : toSql ⟨.standard .ansi, {}⟩ (.ok .scalar) {}
    (.call "%in%" [.fixed (.text "a"), .list []] []) = .ok "FALSE" := rfl

end Translator

end SqlDialects
