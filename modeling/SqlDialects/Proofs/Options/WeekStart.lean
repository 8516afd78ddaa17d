-- SUMMARY: A configured first day of the week counts like a named one exactly when it is a whole number.
import SqlDialects.Proofs.Options.Rules
import SqlDialects.Proofs.Passing.Rules

/-!
# The first day of a week

A call for the day of a week names the first day of a week, or leaves it to the options.
The options accept every number from one to seven, and also a column or a call; a call
accepts whole numbers, makes one of a double that has no fraction, and refuses all else.
So the options count like a name exactly when they hold a whole number.
-/

namespace SqlDialects

namespace Options

theorem relates_of_checkWeekStart {v w : Value} (h : checkWeekStart v = .ok w) :
    (Number.whole 1).isAtMost v = .ok true ∧ (Number.whole 7).isAtLeast v = .ok true ∧ w = v := by
  unfold checkWeekStart at h
  split at h
  · exact absurd h refuseWeekStart_ne_ok
  next =>
    obtain ⟨low, hlow, h⟩ := bind_eq_ok_iff.1 h
    cases low with
    | false => exact absurd h refuseWeekStart_ne_ok
    | true =>
      obtain ⟨high, hhigh, h⟩ := bind_eq_ok_iff.1 h
      cases high with
      | false => exact absurd h refuseWeekStart_ne_ok
      | true => exact ⟨hlow, hhigh, (Except.ok.inj h).symm⟩

/-- What options hold has been accepted. -/
theorem checkWeekStart_of_ofSettings {settings : List (String × Value)} {o : Options}
    (h : ofSettings settings = .ok o) : checkWeekStart o.weekStart = .ok o.weekStart := by
  unfold ofSettings at h
  dsimp only at h
  split at h
  · cases h
  · obtain ⟨week, hweek, h⟩ := bind_eq_ok_iff.1 h
    obtain ⟨slow, _, h⟩ := bind_eq_ok_iff.1 h
    cases h
    obtain ⟨_, _, rfl⟩ := relates_of_checkWeekStart hweek
    exact hweek

theorem between_of_checkWeekStart {n : Int} {w : Value} (h : checkWeekStart (.whole n) = .ok w) :
    1 ≤ n ∧ n ≤ 7 := by
  obtain ⟨hlow, hhigh, _⟩ := relates_of_checkWeekStart h
  rw [Number.isAtMost, Number.relates_number (compare?_whole 1 n)] at hlow
  rw [Number.isAtLeast, Number.relates_number (compare?_whole 7 n)] at hhigh
  constructor
  · by_contra hn
    simp [show ¬1 < n by omega, show ¬1 = n by omega] at hlow
  · by_contra hn
    simp [show 7 < n by omega] at hhigh

end Options

namespace Postgres

/-! ## Building -/

/-- What is asked of a first day that is named. -/
def weekStartValidator : Validator := .wholeNumber true (some (.whole 1)) (some (.whole 7))

theorem resolve_wday (c : Context) : Backend.postgres.variant.resolve "wday" c = .ok wday := by
  cases c <;> rfl

variable {s : Setting} {x v : Value}

/-- What an argument and a first day are bound to, beside the defaults. -/
def weekArguments (x v : Value) : Arguments :=
  [("x", .one x), ("label", .one (.bool false)), ("abbr", .one (.bool true)),
    ("week_start", .one v)]

/-- A first day that is let pass, or the error that reports it. -/
def passWeekStart (backend : Backend) (v : Value) : Except Error Value :=
  (weekStartValidator.apply v).mapError (weekStartValidator.report backend "week_start")

theorem validate_weekArguments (backend : Backend) :
    validate backend wday.validators (weekArguments x v) = do
      let u ← passWeekStart backend v
      return weekArguments x u := by
  have hrun : validate backend wday.validators (weekArguments x v) = do
      let b ← runValidators backend "week_start" [weekStartValidator] (.one v)
      return [("x", .one x), ("label", .one (.bool false)), ("abbr", .one (.bool true)),
        ("week_start", b)] := rfl
  rw [hrun, runValidators, Validator.applyBound, passWeekStart]
  cases weekStartValidator.apply v <;> rfl

theorem apply_weekArguments : wday.template.apply s (weekArguments x v) = do
    let shift ← weekShift s.options v
    return .sql (weekday x shift) := rfl

theorem build_weekArguments {named : List (String × Value)}
    (hbind : wday.signature.bind [x] named = .ok (weekArguments x v)) :
    wday.build s [x] named = do
      let u ← passWeekStart s.backend v
      let shift ← weekShift s.options u
      return weekday x shift := by
  rw [Rule.build, hbind]
  dsimp only
  rw [validate_weekArguments, bind_assoc]
  refine bind_congr_ok fun u _ => ?_
  rw [pure_bind, apply_weekArguments]
  cases weekShift s.options u <;> rfl

theorem build_wday : wday.build s [x] [] = do
    let shift ← daysShort s.options.weekStart
    return weekday x shift :=
  build_weekArguments (v := .null) rfl

theorem build_wday_named : wday.build s [x] [("week_start", v)] = do
    let u ← passWeekStart s.backend v
    let shift ← weekShift s.options u
    return weekday x shift :=
  build_weekArguments rfl

/-- A day of the week is let pass. -/
theorem passWeekStart_whole (backend : Backend) {n : Int} (hlow : 1 ≤ n) (hhigh : n ≤ 7) :
    passWeekStart backend (.whole n) = .ok (.whole n) := by
  have happly : weekStartValidator.apply (.whole n) = .ok (.whole n) := by
    interval_cases n <;> rfl
  rw [passWeekStart, happly]
  rfl

/-- A number is let pass when it is whole, and a double as the whole number it stands for. -/
theorem cases_of_passWeekStart {backend : Backend} {n : Number} {u : Value}
    (h : passWeekStart backend (.number n) = .ok u) :
    (∃ m, n = .whole m) ∨ (∃ x, n = .double x) ∧ ∃ m : Int, u = .whole m := by
  have happly : weekStartValidator.apply (.number n) = .ok u := by
    rw [passWeekStart] at h
    cases happly : weekStartValidator.apply (.number n) with
    | error e =>
      rw [happly] at h
      cases h
    | ok =>
      rw [happly] at h
      cases h
      rfl
  cases n with
  | whole m => exact .inl ⟨m, rfl⟩
  | double x =>
    obtain ⟨m, _, hm⟩ := bind_eq_ok_iff.1 (show Validator.checkWhole _ _ _ _ = _ from happly)
    obtain ⟨_, _, hm⟩ := bind_eq_ok_iff.1 hm
    exact .inr ⟨⟨x, rfl⟩, m, (Except.ok.inj hm).symm⟩
  | decimal d => cases happly

/-! ## Texts -/

theorem render_whole (d : Dialect) (n : Int) : (Value.whole n).toExpr.render d = wholeText n := by
  rw [Value.toExpr, Expr.render, Backend.literal, Backend.scalarLiteral, Backend.numberLiteral]
  exact nofun

theorem render_double (d : Dialect) (x : Binary64) :
    (Value.double x).toExpr.render d = d.backend.doubleLiteral x := by
  rw [Value.toExpr, Expr.render, Backend.literal, Backend.scalarLiteral, Backend.numberLiteral]
  exact nofun

theorem render_digit (d : Dialect) {n : Int} (h : n.natAbs < 10) :
    (Value.whole n).toExpr.render d = .ok (toString n) := by
  rw [render_whole]
  exact wholeText_eq_ok_iff.2 ⟨isWritable_of_lt_ten h, rfl⟩

theorem render_weekday {d : Dialect} {date : String} (hx : x.toExpr.render d = .ok date)
    {shift : Value} (hshift : shift.toExpr.isBinary = false) :
    (weekday x shift).render d = do
      let s ← shift.toExpr.render d
      return "EXTRACT(dow FROM (DATE(" ++ date ++ ") + " ++ s ++ ")) + 1" := by
  have hone : (Value.whole 1).toExpr.render d = .ok "1" := render_digit d (by decide)
  have hplain : (Value.whole 1).toExpr.isBinary = false := rfl
  have hbinary : (Expr.binary "+" (.call "DATE" [x.toExpr] false) shift.toExpr).isBinary = true :=
    rfl
  cases hs : shift.toExpr.render d with
  | error e =>
    simp [weekday, Expr.binaryOf, Expr.extract, Expr.callOf, Expr.render, renderAll, hx, hs, hone,
      ok_bind]
    rfl
  | ok s =>
    simp [weekday, Expr.binaryOf, Expr.extract, Expr.callOf, Expr.render, renderAll, hx, hs, hone,
      hshift, hplain, hbinary, ok_bind, wrapIf, Expr.isOtherBinary, callText, commaSeparated,
      parenthesised, ← String.toList_inj]

/-- A character that only the literal of a double has, but the literal of a whole number not. -/
def marksDouble (c : Char) : Bool := c = '.' || c = 'e' || c = ':'

theorem point_mem_positional (digits : String) (point : Int) :
    '.' ∈ (Binary64.positional digits point).toList := by
  unfold Binary64.positional
  split <;> simp

theorem exponent_mem_scientific (l : Binary64.Layout) (digits : String) (point : Int) :
    'e' ∈ (Binary64.scientific l digits point).toList := by
  have hsign : 'e' ∈ (if point - 1 < 0 then "e-" else "e+" : String).toList := by
    split <;> simp
  unfold Binary64.scientific
  dsimp only
  rw [String.toList_append, String.toList_append]
  exact List.mem_append_left _ (List.mem_append_right _ hsign)

theorem marksDouble_of_layout (l : Binary64.Layout) (d : ShortDecimal) :
    ∃ c ∈ (if l.firstPoint ≤ d.point ∧ d.point ≤ l.lastPoint then
      Binary64.positional d.digits d.point
      else Binary64.scientific l d.digits d.point).toList, marksDouble c = true := by
  split
  · exact ⟨'.', point_mem_positional _ _, rfl⟩
  · exact ⟨'e', exponent_mem_scientific _ _ _, rfl⟩

theorem marksDouble_of_doubleLiteral {x : Binary64} {text : String}
    (h : Backend.postgres.doubleLiteral x = .ok text) :
    ∃ c ∈ text.toList, marksDouble c = true := by
  cases x with
  | nan =>
    cases h
    exact ⟨':', by decide, rfl⟩
  | infinite negative =>
    cases h
    cases negative <;> exact ⟨':', by decide, rfl⟩
  | finite negative place =>
    cases h
    obtain ⟨c, hc, hmark⟩ := marksDouble_of_layout Binary64.layout
      (if place.val = 0 then ⟨0, 0⟩ else Binary64.shortest place)
    rw [Binary64.text, Binary64.textIn, String.toList_append]
    exact ⟨c, List.mem_append_right _ hc, hmark⟩

theorem not_marksDouble_toString (n : Int) : ∀ c ∈ (toString n).toList, marksDouble c = false := by
  have hdigit {c : Char} (h : c.isDigit = true) : marksDouble c = false := by
    cases hmark : marksDouble c with
    | false => rfl
    | true =>
      simp only [marksDouble, Bool.or_eq_true, decide_eq_true_eq] at hmark
      rcases hmark with (rfl | rfl) | rfl <;> exact absurd h (by decide)
  intro c hc
  rw [Int.toString_eq_repr, Int.repr_eq_if] at hc
  split at hc
  · exact hdigit (isDigit_of_mem_repr hc)
  · rw [String.toList_append] at hc
    rcases List.mem_append.1 hc with hc | hc
    · obtain rfl : c = '-' := by simpa using hc
      rfl
    · exact hdigit (isDigit_of_mem_repr hc)

/-- A whole number and a double are written differently. -/
theorem render_double_ne {d : Dialect} (hbackend : d.backend = .postgres) {n : Int}
    {text : String} (h : (Value.whole n).toExpr.render d = .ok text) (x : Binary64) :
    (Value.double x).toExpr.render d ≠ .ok text := by
  intro hdouble
  rw [render_whole, wholeText_eq_ok_iff] at h
  rw [render_double, hbackend] at hdouble
  obtain ⟨mark, hmark, htrue⟩ := marksDouble_of_doubleLiteral hdouble
  rw [← h.2] at hmark
  rw [not_marksDouble_toString n mark hmark] at htrue
  cases htrue

end Postgres

/-! ## Calls -/

namespace Translator

variable {t : Translator} {c : Context} {w : Window} {x : Value}

/-- A day of the week is built of its translated argument. -/
theorem toSql_wday (hbackend : t.dialect.backend = .postgres) (x : Value)
    {named named' : List (String × Value)}
    (hnamed : (t.namedArguments c w (NameTable.ofList named)).outcome = .ok named') :
    t.toSql (.ok c) w (.call "wday" [x] named) = (do
      let x' ← (t.argument c w x).outcome
      let e ← Postgres.wday.build (t.setting c w) [x'] named'
      e.render t.dialect) := by
  have hresolve : t.dialect.backend.variant.resolve "wday" c = .ok Postgres.wday := by
    rw [hbackend]
    exact Postgres.resolve_wday c
  cases hx : (t.argument c w x).outcome with
  | ok x' =>
    have hargs : (t.arguments c w [x]).outcome = .ok [x'] := by
      rw [arguments, Traced.outcome_bind_of_ok hx]
      rfl
    rw [toSql, outcome_translate_call hresolve hargs hnamed]
    rfl
  | error e =>
    have hargs : (t.arguments c w [x]).outcome = .error e := by
      rw [arguments, Traced.outcome_bind, hx]
      rfl
    have hcontext : (Traced.ofExcept (.ok c : Except Error Context)).outcome = .ok c := rfl
    rw [← outcome_resolve] at hresolve
    rw [toSql, translate, Traced.outcome_bind_of_ok hcontext, call, Traced.outcome_bind, argument,
      Traced.outcome_bind_of_ok hresolve, Traced.outcome_bind, hargs]
    rfl

/-- An argument is translated alike under other options. -/
def TranslatesAlike (t : Translator) (options : Options) (c : Context) (w : Window)
    (x : Value) : Prop :=
  ((t.under options).argument c w x).outcome = (t.argument c w x).outcome

/-- The first day of the week in the options counts like one that is named: it can be named,
    and then it does not matter under which options. -/
structure CountsAsNamed (t : Translator) : Prop where
  accepted : ∀ options c w name, ∃ text, (t.under options).toSql (.ok c) w
    (.call "wday" [.column name none] [("week_start", t.options.weekStart)]) = .ok text
  same : ∀ options c w x, t.TranslatesAlike options c w x →
    t.toSql (.ok c) w (.call "wday" [x] []) = (t.under options).toSql (.ok c) w
      (.call "wday" [x] [("week_start", t.options.weekStart)])

theorem toSql_configured (hbackend : t.dialect.backend = .postgres) (x : Value) :
    t.toSql (.ok c) w (.call "wday" [x] []) = (do
      let x' ← (t.argument c w x).outcome
      let shift ← Postgres.daysShort t.options.weekStart
      (Postgres.weekday x' shift).render t.dialect) := by
  rw [toSql_wday hbackend x rfl]
  simp only [Postgres.build_wday, bind_assoc, pure_bind]
  rfl

theorem toSql_named (hbackend : t.dialect.backend = .postgres) {v : Value}
    (hv : (t.argument c w v).outcome = .ok v) (x : Value) :
    t.toSql (.ok c) w (.call "wday" [x] [("week_start", v)]) = (do
      let x' ← (t.argument c w x).outcome
      let u ← Postgres.passWeekStart t.dialect.backend v
      let shift ← Postgres.weekShift t.options u
      (Postgres.weekday x' shift).render t.dialect) := by
  have hnamed : (t.namedArguments c w (NameTable.ofList [("week_start", v)])).outcome =
      .ok [("week_start", v)] := by
    have htable : NameTable.ofList [("week_start", v)] = [("week_start", v)] := rfl
    rw [htable, namedArguments_cons, Traced.outcome_bind_of_ok hv]
    rfl
  rw [toSql_wday hbackend x hnamed]
  simp only [Postgres.build_wday_named, bind_assoc, pure_bind]
  rfl

/-- The day of the week of a column, with the days its first day is short of a week. -/
theorem render_column {d : Dialect} {shift : Value} (hshift : shift.toExpr.isBinary = false)
    (name : String) : (Postgres.weekday (.sql (.ident name none)) shift).render d = do
      let s ← shift.toExpr.render d
      return "EXTRACT(dow FROM (DATE(" ++ Identifier.escaped name ++ ") + " ++ s ++ ")) + 1" := by
  refine Postgres.render_weekday ?_ hshift
  rw [Value.toExpr_sql, Expr.render, qualifiedName]

theorem argument_column (t : Translator) (name : String) :
    (t.argument c w (.column name none)).outcome = .ok (.sql (.ident name none)) := rfl

theorem countsAsNamed_of_whole {n : Int} (hbackend : t.dialect.backend = .postgres)
    (hweek : t.options.weekStart = .whole n) (hlow : 1 ≤ n) (hhigh : n ≤ 7) : t.CountsAsNamed where
  accepted := by
    intro options c w name
    have hshift : Postgres.weekShift (t.under options).options (.whole n) =
        .ok (.whole (7 - n)) := rfl
    rw [hweek, toSql_named (t := t.under options) hbackend rfl, argument_column, ok_bind,
      Postgres.passWeekStart_whole _ hlow hhigh, ok_bind, hshift, ok_bind, render_column rfl,
      Postgres.render_digit _ (by omega)]
    exact ⟨_, rfl⟩
  same := by
    intro options c w x halike
    rw [toSql_configured hbackend, hweek, toSql_named (t := t.under options) hbackend rfl,
      Postgres.passWeekStart_whole _ hlow hhigh, halike]
    rfl

/-- Seven less a column or a call is a call, which has no literal. -/
theorem toSql_configured_ne_ok (hbackend : t.dialect.backend = .postgres)
    (hhost : t.options.weekStart.isHost = true) (name text : String) :
    t.toSql (.ok c) w (.call "wday" [.column name none] []) ≠ .ok text := by
  have hshift : Postgres.daysShort t.options.weekStart =
      .ok (Host.callOf .sub [.whole 7, t.options.weekStart]) := by
    cases hweek : t.options.weekStart with
    | column => rfl
    | call => rfl
    | _ =>
      rw [hweek] at hhost
      cases hhost
  have hliteral : (Host.callOf .sub [.whole 7, t.options.weekStart]).toExpr.render t.dialect =
      .error (.unescapable "HostCall") := by
    rw [Host.callOf, Value.toExpr, Expr.render]
    · rfl
    · exact nofun
  rw [toSql_configured hbackend, argument_column, ok_bind, hshift, ok_bind, render_column rfl,
    hliteral]
  exact nofun

/-- A double counts otherwise, since what it leaves of the week is a double again. -/
theorem exists_whole_of_countsAsNamed (hbackend : t.dialect.backend = .postgres)
    {n : Number} (hweek : t.options.weekStart = .number n) (h : t.CountsAsNamed) :
    ∃ m, n = .whole m := by
  obtain ⟨text, hnamed⟩ := h.accepted t.options .scalar {} "x"
  have hconfigured := (h.same t.options .scalar {} (.column "x" none) rfl).trans hnamed
  have hunder : t.under t.options = t := rfl
  rw [hunder, hweek, toSql_named hbackend rfl, argument_column, ok_bind] at hnamed
  obtain ⟨u, hu, hnamed⟩ := bind_eq_ok_iff.1 hnamed
  rcases Postgres.cases_of_passWeekStart hu with hwhole | ⟨⟨x, rfl⟩, m, rfl⟩
  · exact hwhole
  · have hshort : Postgres.weekShift t.options (.whole m) = .ok (.whole (7 - m)) := rfl
    have hdouble : Postgres.daysShort (.double x) = .ok (.double ((Binary64.ofRat 7).sub x)) := rfl
    rw [hshort, ok_bind, render_column rfl] at hnamed
    rw [toSql_configured hbackend, argument_column, ok_bind, hweek, hdouble, ok_bind,
      render_column rfl] at hconfigured
    obtain ⟨whole, hwhole, htext⟩ := bind_eq_ok_iff.1 hnamed
    obtain ⟨double, hdouble, htext'⟩ := bind_eq_ok_iff.1 hconfigured
    rw [pure_eq_ok_iff] at htext htext'
    rw [← htext'] at htext
    obtain rfl : whole = double :=
      (String.append_right_inj _).1 ((String.append_left_inj _).1 htext)
    exact absurd hdouble (Postgres.render_double_ne hbackend hwhole _)

/-- A first day of the week that options accept counts like one that is named exactly when
    it is a whole number. The argument has to be translated alike under the options that are
    compared, as it is when no other day of the week is asked for in it. -/
theorem countsAsNamed_iff {settings : List (String × Value)}
    (hoptions : Options.ofSettings settings = .ok t.options)
    (hbackend : t.dialect.backend = .postgres) :
    (t.CountsAsNamed ↔ ∃ n, t.options.weekStart = .whole n) ∧
      ∀ options c w x, "wday" ∉ x.calls → t.TranslatesAlike options c w x := by
  have hweek := Options.checkWeekStart_of_ofSettings hoptions
  refine ⟨⟨fun h => ?_, ?_⟩, fun options c w x hx => outcome_argument_under hx⟩
  · rcases Postgres.cases_of_checkWeekStart hweek with ⟨n, hn⟩ | hhost
    · obtain ⟨m, rfl⟩ := exists_whole_of_countsAsNamed hbackend hn h
      exact ⟨m, hn⟩
    · obtain ⟨text, htext⟩ := h.accepted t.options .scalar {} "x"
      have hconfigured := (h.same t.options .scalar {} (.column "x" none) rfl).trans htext
      exact absurd hconfigured (toSql_configured_ne_ok hbackend hhost "x" text)
  · rintro ⟨n, hn⟩
    rw [hn] at hweek
    obtain ⟨hlow, hhigh⟩ := Options.between_of_checkWeekStart hweek
    exact countsAsNamed_of_whole hbackend hn hlow hhigh

/-- A week that starts on Mondays. -/
theorem countsAsNamed_monday :
    let t : Translator := { dialect := .standard .postgres, options := { weekStart := .whole 1 } }
    Options.ofSettings [("week_start", .whole 1)] = .ok t.options ∧
      t.dialect.backend = .postgres ∧ t.CountsAsNamed := by
  intro t
  have hoptions : Options.ofSettings [("week_start", .whole 1)] = .ok t.options := rfl
  exact ⟨hoptions, rfl, (countsAsNamed_iff hoptions rfl).1.2 ⟨1, rfl⟩⟩

/-- The double two is a Tuesday too, but leaves five days as a double in the options and as a
    whole number in a call. -/
theorem not_same_tuesday :
    let tuesday : Value := .double (.ofDecimal false 2 0)
    let t : Translator := { dialect := .standard .postgres, options := { weekStart := tuesday } }
    Options.ofSettings [("week_start", tuesday)] = .ok t.options ∧
      t.toSql (.ok .scalar) {} (.call "wday" [.column "d" none] []) =
        .ok "EXTRACT(dow FROM (DATE(d) + 5.0)) + 1" ∧
      t.toSql (.ok .scalar) {} (.call "wday" [.column "d" none] [("week_start", tuesday)]) =
        .ok "EXTRACT(dow FROM (DATE(d) + 5)) + 1" := by
  intro tuesday t
  refine ⟨rfl, ?_, ?_⟩
  · have hfive : (Binary64.ofRat 7).sub (.ofDecimal false 2 0) = .ofDecimal false 5 0 := by
      decide +kernel
    have hshort : Postgres.daysShort t.options.weekStart =
        .ok (.double (.ofDecimal false 5 0)) := hfive ▸ rfl
    rw [toSql_configured rfl, argument_column, ok_bind, hshort, ok_bind, render_column rfl,
      Postgres.render_double]
    rfl
  · have hpass : Postgres.passWeekStart t.dialect.backend tuesday = .ok (.whole 2) := rfl
    have hshort : Postgres.weekShift t.options (.whole 2) = .ok (.whole 5) := rfl
    rw [toSql_named rfl rfl, argument_column, ok_bind, hpass, ok_bind, hshort, ok_bind,
      render_column rfl, Postgres.render_digit _ (by decide)]
    rfl

end Translator

end SqlDialects
