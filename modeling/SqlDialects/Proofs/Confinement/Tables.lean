-- SUMMARY: Every rule of the general and of the PostgreSQL tables keeps user data confined.
import SqlDialects.Proofs.Confinement.Shapes
import SqlDialects.Tables.General
import SqlDialects.Tables.Postgres

/-!
# Confinement of the tables

One lemma for each rule that is not one of the common shapes, and one for each
table, row by row.
-/

namespace SqlDialects

open Template (confines_pure confines_windowed confines_binary confines_call₁ confines_call₂
  confines_callAny confines_cast confines_cotangent confines_refused confines_rank
  confines_cumulative confines_aggregateOver₂ allConfined_single allConfined_pair)
open Rule (confines_of_template confines_paste confines_log confines_aggregate
  confines_aggregateOver confines_patternMatch)

def RuleSource.Confines : RuleSource → Prop
  | .template t => t.Confines
  | .rule r => r.Confines

theorem RuleSource.Confines.named {source : RuleSource} (h : source.Confines) (name : String) :
    (source.named name).Confines := by
  cases source with
  | template t => exact confines_of_template h rfl
  | rule r => exact ⟨h.template, h.validators⟩

namespace General

/-! ## Scalar -/

theorem confines_signed {op : String} {single : Expr → Expr}
    (hop : op ∈ Vocabulary.binaryOperators)
    (hsingle : ∀ e : Expr, e.isConfined = true → (single e).isConfined = true) :
    (signed op single).Confines := by
  refine confines_pure rfl ?_
  intro args hargs
  have hx := hargs.value "x"
  have hy := hargs.value "y"
  split
  · exact hsingle _ (by simpa using hx)
  · exact Expr.isConfined_binaryOf hop hx hy

theorem confines_plus : plus.Confines := confines_signed (by decide) fun _ he => he

theorem confines_minus : minus.Confines := by
  refine confines_signed (by decide) ?_
  intro e he
  have hminus : "-" ∈ Vocabulary.unaryOperators := by decide
  simp [Expr.isConfined, hminus, he]

theorem confines_not : General.not.Confines :=
  confines_pure rfl fun _ hargs => Expr.isConfined_negate (hargs.value "x")

/-- The items of a tuple become the operands of a list. -/
theorem confines_isIn : isIn.Confines := by
  refine confines_pure rfl ?_
  intro args hargs
  have hx : (args.value "x").toExpr.isConfined = true := by simpa using hargs.value "x"
  have htable := hargs.value "table"
  split
  next => rfl
  next items _ hitems =>
    rw [hitems] at htable
    refine Expr.isConfined_binary (by decide) hx ?_
    rw [Expr.isConfined, allConfinedExprs_map_toExpr]
    exact htable
  next =>
    refine Expr.isConfined_binary (by decide) hx ?_
    simpa [Expr.isConfined, allConfinedExprs] using htable

theorem confines_isMissing : isMissing.Confines := by
  refine confines_pure rfl ?_
  intro args hargs
  have hnull : "IS NULL" ∈ Vocabulary.suffixOperators := by decide
  simp [Expr.isConfined, hnull, hargs.value "x"]

theorem confines_ifElse : ifElse.Confines := by
  refine confines_pure rfl ?_
  intro args hargs
  simp [Expr.isConfined, allConfinedWhens, hargs.value]

theorem confines_descending : descending.Confines := by
  refine confines_pure rfl ?_
  intro args hargs
  simp [Expr.isConfined, hargs.value "x"]

theorem confines_round : round.Confines := by
  refine confines_of_template (confines_pure rfl ?_) rfl
  intro args hargs
  exact Expr.isConfined_callOf (by decide)
    (allConfined_pair (hargs.value "x") (hargs.value "digits"))

theorem confines_trim : trim.Confines := by
  refine confines_of_template (confines_pure rfl ?_) rfl
  intro args hargs
  refine Expr.isConfined_callOf ?_ (allConfined_single (hargs.value "x"))
  unfold trimFunction
  split <;> decide

theorem isConfined_spanLength (start stop : Value) : (spanLength start stop).isConfined = true := by
  unfold spanLength
  split <;> rfl

theorem confines_substring : substring.Confines := by
  refine confines_of_template (confines_pure rfl ?_) rfl
  intro args hargs
  refine Expr.isConfined_callOf (by decide) ?_
  simp [allConfined, hargs.value, isConfined_spanLength]

theorem confines_scalarRules : ∀ r ∈ scalarRules, r.2.Confines := by
  simp only [scalarRules, List.forall_mem_cons]
  exact ⟨confines_plus, confines_minus, confines_binary (by decide), confines_binary (by decide),
    confines_binary (by decide), confines_call₂ (by decide), confines_binary (by decide),
    confines_binary (by decide), confines_binary (by decide), confines_binary (by decide),
    confines_binary (by decide), confines_binary (by decide), confines_binary (by decide),
    confines_binary (by decide), confines_not, confines_isIn, confines_isMissing, confines_ifElse,
    confines_callAny (by decide), confines_descending, confines_call₁ (by decide),
    confines_call₁ (by decide), confines_call₁ (by decide), confines_call₁ (by decide),
    confines_call₁ (by decide), confines_call₁ (by decide), confines_log,
    confines_call₁ (by decide), confines_round, confines_binary (by decide),
    confines_binary (by decide), confines_call₂ (by decide), confines_cast (by decide),
    confines_cast (by decide), confines_cast (by decide), confines_cast (by decide),
    confines_call₁ (by decide), confines_call₁ (by decide), confines_call₁ (by decide),
    confines_call₁ (by decide), confines_call₁ (by decide), confines_call₁ (by decide),
    confines_trim, confines_substring, confines_paste " ", confines_paste "",
    List.forall_mem_nil _⟩

/-! ## Aggregate -/

theorem isConfined_countRows : countRows.isConfined = true := by decide

theorem confines_count : count.Confines := confines_pure rfl fun _ _ => isConfined_countRows

theorem confines_countDistinct : countDistinct.Confines := by
  refine confines_pure rfl ?_
  intro args hargs
  have hcount : "COUNT" ∈ Vocabulary.functions := by decide
  simp [Expr.isConfined, allConfinedExprs, hcount, hargs.value "x"]

theorem isConfined_percentile {p x : Value} (hp : p.isConfined = true) (hx : x.isConfined = true) :
    (percentile p x).isConfined = true := by
  have hcall : (Expr.callOf "PERCENTILE_CONT" [p]).isConfined = true :=
    Expr.isConfined_callOf (by decide) (allConfined_single hp)
  simp [percentile, Expr.isConfined, allConfinedExprs, hcall, hx]

theorem confines_median : median.Confines :=
  confines_of_template
    (confines_pure rfl fun _ hargs => isConfined_percentile rfl (hargs.value "x")) rfl

theorem confines_quantile : quantile.Confines :=
  confines_of_template
    (confines_pure rfl fun _ hargs => isConfined_percentile (hargs.value "probs") (hargs.value "x"))
    rfl

theorem confines_aggregateRules : ∀ r ∈ aggregateRules, r.2.Confines := by
  simp only [aggregateRules, List.forall_mem_cons]
  exact ⟨confines_count, confines_countDistinct, confines_aggregate (by decide),
    confines_aggregate (by decide), confines_aggregate (by decide), confines_aggregate (by decide),
    confines_median, confines_quantile, List.forall_mem_nil _⟩

/-! ## Window -/

theorem isConfined_ordered {w : Window} (hw : w.isConfined = true) :
    (ordered w).isConfined = true :=
  Window.isConfined_plain none (Window.confined_partitionBy hw) (Window.confined_orderBy hw)

theorem isConfined_partitioned {w : Window} (hw : w.isConfined = true) :
    (partitioned w).isConfined = true :=
  Window.isConfined_plain none (Window.confined_partitionBy hw) rfl

theorem confines_countOver : countOver.Confines :=
  confines_windowed rfl fun _ _ hw _ =>
    Expr.isConfined_over isConfined_countRows (Window.isConfined_forAggregate hw)

theorem confines_ntile : ntile.Confines := by
  refine confines_of_template (confines_windowed rfl ?_) rfl
  intro w args hw hargs
  refine Expr.isConfined_over
    (Expr.isConfined_callOf (by decide) (allConfined_single (hargs.value "n")))
    (Window.isConfined_plain none (Window.confined_partitionBy hw) ?_)
  simp [allConfinedExprs, hargs.value "x"]

/-- The default of an offset is an argument like any other, or left out. -/
theorem confines_offset {name : String} (hname : name ∈ Vocabulary.functions) :
    (offset name).Confines := by
  refine confines_of_template (confines_windowed rfl ?_) rfl
  intro w args hw hargs
  have hdefault := hargs.value "default"
  refine Expr.isConfined_over (Expr.isConfined_callOf hname ?_) (isConfined_ordered hw)
  split
  · simp [allConfined, hargs.value]
  · simp [allConfined, hargs.value]

theorem confines_first : first.Confines :=
  confines_windowed rfl fun _ _ hw hargs =>
    Expr.isConfined_over (Expr.isConfined_callOf (by decide) (allConfined_single (hargs.value "x")))
      (isConfined_ordered hw)

theorem confines_last : last.Confines := by
  refine confines_windowed rfl ?_
  intro w args hw hargs
  refine Expr.isConfined_over
    (Expr.isConfined_callOf (by decide) (allConfined_single (hargs.value "x"))) ?_
  simp [Window.confined_partitionBy hw, Window.confined_orderBy hw, allConfined, Value.isConfined]

theorem confines_nth : nth.Confines :=
  confines_of_template (confines_windowed rfl fun _ _ hw hargs =>
    Expr.isConfined_over (Expr.isConfined_callOf (by decide)
      (allConfined_pair (hargs.value "x") (hargs.value "n"))) (isConfined_ordered hw)) rfl

theorem confines_medianOver : medianOver.Confines :=
  confines_of_template (confines_windowed rfl fun _ _ hw hargs =>
    Expr.isConfined_over (isConfined_percentile rfl (hargs.value "x"))
      (isConfined_partitioned hw)) rfl

theorem confines_quantileOver : quantileOver.Confines :=
  confines_of_template (confines_windowed rfl fun _ _ hw hargs =>
    Expr.isConfined_over (isConfined_percentile (hargs.value "probs") (hargs.value "x"))
      (isConfined_partitioned hw)) rfl

theorem confines_windowRules : ∀ r ∈ windowRules, r.2.Confines := by
  simp only [windowRules, List.forall_mem_cons]
  exact ⟨confines_rank (by decide), confines_rank (by decide), confines_rank (by decide),
    confines_rank (by decide), confines_rank (by decide), confines_ntile,
    confines_offset (by decide), confines_offset (by decide), confines_first, confines_last,
    confines_nth, confines_cumulative (by decide), confines_cumulative (by decide),
    confines_cumulative (by decide), confines_cumulative (by decide), confines_countOver,
    confines_aggregateOver (by decide), confines_aggregateOver (by decide),
    confines_aggregateOver (by decide), confines_aggregateOver (by decide), confines_medianOver,
    confines_quantileOver, List.forall_mem_nil _⟩

end General

namespace Postgres

/-! ## Numbers and texts -/

theorem confines_round : round.Confines := by
  refine confines_of_template (confines_pure rfl ?_) rfl
  intro args hargs
  have hnumeric : "numeric" ∈ Vocabulary.castTypes := by decide
  refine Expr.isConfined_callOf (by decide) ?_
  simp [allConfined, Value.isConfined, Expr.isConfined, hnumeric, hargs.value]

/-- Both operators of a choice are words of the vocabulary, so the one chosen is. -/
theorem caseOperator_mem {exact ignoring : String} (ignoreCase : Value)
    (hexact : exact ∈ Vocabulary.binaryOperators)
    (hignoring : ignoring ∈ Vocabulary.binaryOperators) :
    caseOperator exact ignoring ignoreCase ∈ Vocabulary.binaryOperators := by
  unfold caseOperator
  split
  · exact hignoring
  · exact hexact

theorem confines_grepl : grepl.Confines :=
  confines_of_template (confines_pure rfl fun _ hargs =>
    Expr.isConfined_binaryOf (caseOperator_mem _ (by decide) (by decide)) (hargs.value "x")
      (hargs.value "pattern")) rfl

theorem confines_locate : locate.Confines :=
  confines_pure rfl fun _ hargs =>
    Expr.isConfined_callOf (by decide)
      (allConfined_pair (hargs.value "string") (hargs.value "pattern"))

theorem confines_like : like.Confines :=
  confines_of_template (confines_pure rfl fun _ hargs =>
    Expr.isConfined_binaryOf (caseOperator_mem _ (by decide) (by decide)) (hargs.value "string")
      (hargs.value "pattern")) rfl

theorem isConfined_regexReplace {args : Arguments} {further : List Value} (hargs : args.Confined)
    (hfurther : allConfined further = true) : (regexReplace args further).isConfined = true := by
  refine Expr.isConfined_callOf (by decide) ?_
  simp [allConfined, hargs.value, hfurther]

theorem confines_replace : replace.Confines :=
  confines_pure rfl fun _ hargs =>
    isConfined_regexReplace hargs (allConfined_single (hargs.value "replacement"))

theorem confines_replaceAll : replaceAll.Confines :=
  confines_pure rfl fun _ hargs =>
    isConfined_regexReplace hargs (allConfined_pair (hargs.value "replacement") rfl)

theorem confines_squish : squish.Confines := by
  refine confines_pure rfl ?_
  intro args hargs
  have hcollapsed : (Expr.callOf "regexp_replace"
      [args.value "string", .text "\\s+", .text " ", .text "g"]).isConfined = true := by
    refine Expr.isConfined_callOf (by decide) ?_
    simp [allConfined, Value.isConfined, hargs.value]
  exact Expr.isConfined_callOf (by decide)
    (allConfined_single (Expr.isConfined_callOf (by decide) (allConfined_single hcollapsed)))

theorem confines_remove : remove.Confines :=
  confines_pure rfl fun _ hargs => isConfined_regexReplace hargs rfl

theorem confines_removeAll : removeAll.Confines :=
  confines_pure rfl fun _ hargs => isConfined_regexReplace hargs rfl

/-! ## Dates -/

theorem confines_part {name : String} (hname : name ∈ Vocabulary.keywords) :
    (part name).Confines :=
  confines_pure rfl fun _ hargs => Expr.isConfined_extract hname (hargs.value "x")

/-- A confined first day is no column and no call, so it is subtracted as a number. -/
theorem isConfined_daysShort {v w : Value} (hv : v.isConfined = true) (h : daysShort v = .ok w) :
    w.isConfined = true := by
  unfold daysShort at h
  split at h
  · split at h
    · cases h
      rfl
    · cases h
  · have hhost := Value.not_isHost_of_isConfined hv
    simp [Host.apply, HostOperator.isSingle, Value.isHost.eq_def (Value.whole 7), hhost] at h

theorem isConfined_weekShift {options : Options} {v w : Value}
    (hoptions : options.weekStart.isConfined = true) (hv : v.isConfined = true)
    (h : weekShift options v = .ok w) : w.isConfined = true := by
  unfold weekShift at h
  split at h
  · exact isConfined_daysShort hoptions h
  · exact isConfined_daysShort hv h

theorem isConfined_weekday {x shift : Value} (hx : x.isConfined = true)
    (hshift : shift.isConfined = true) : (weekday x shift).isConfined = true := by
  have hdate : (Expr.callOf "DATE" [x]).isConfined = true :=
    Expr.isConfined_callOf (by decide) (allConfined_single hx)
  have hshifted : (Expr.binaryOf "+" (.sql (.callOf "DATE" [x])) shift).isConfined = true :=
    Expr.isConfined_binaryOf (by decide) hdate hshift
  exact Expr.isConfined_binaryOf (by decide) (Expr.isConfined_extract (by decide) hshifted) rfl

theorem isConfined_named {x : Value} (hx : x.isConfined = true) (format : String) :
    (named x format).isConfined = true :=
  Expr.isConfined_callOf (by decide) (allConfined_pair hx rfl)

theorem confines_wday : wday.Confines := by
  refine ⟨⟨rfl, ?_⟩, rfl⟩
  intro s args v hs hargs hv
  have hx := hargs.value "x"
  simp only [wday] at hv
  split at hv
  · obtain ⟨shift, hshift, hv⟩ := bind_eq_ok_iff.1 hv
    cases hv
    have hshift := isConfined_weekShift hs.weekStart (hargs.value "week_start") hshift
    exact isConfined_weekday hx hshift
  · split at hv
    · cases hv
      exact isConfined_named hx "Day"
    · cases hv
      refine Expr.isConfined_callOf (by decide) ?_
      simpa [allConfined, Value.isConfined] using isConfined_named hx "Day"

theorem confines_week : week.Confines := by
  refine confines_pure rfl ?_
  intro args hargs
  have hdays : (Expr.binaryOf "-" (.sql (.extract "DOY" (args.value "x"))) (.whole 1)).isConfined
      = true :=
    Expr.isConfined_binaryOf (by decide) (Expr.isConfined_extract (by decide) (hargs.value "x")) rfl
  have hquotient : (Value.sql (.binaryOf "/" (.sql (.binaryOf "-"
      (.sql (.extract "DOY" (args.value "x"))) (.whole 1))) (.whole 7))).isConfined = true :=
    Expr.isConfined_binaryOf (by decide) hdays rfl
  refine Expr.isConfined_binaryOf (by decide) ?_ rfl
  exact Expr.isConfined_callOf (by decide) (allConfined_single hquotient)

theorem confines_month : month.Confines := by
  refine confines_of_template (confines_pure rfl ?_) rfl
  intro args hargs
  have hx := hargs.value "x"
  dsimp only
  split
  · exact Expr.isConfined_extract (by decide) hx
  · exact isConfined_named hx _

theorem confines_quarter : quarter.Confines := by
  refine confines_of_template (confines_pure rfl ?_) rfl
  intro args hargs
  have hx := hargs.value "x"
  dsimp only
  split
  · exact Expr.isConfined_extract (by decide) hx
  · have hyear : (Expr.extract "YEAR" (args.value "x")).isConfined = true :=
      Expr.isConfined_extract (by decide) hx
    have hquarter : (Expr.extract "QUARTER" (args.value "x")).isConfined = true :=
      Expr.isConfined_extract (by decide) hx
    exact Expr.isConfined_binary (by decide) (Expr.isConfined_binary (by decide) hyear rfl) hquarter

theorem isConfined_oneInterval (unit : String) : (oneInterval unit).isConfined = true := by
  have hinterval : "INTERVAL" ∈ Vocabulary.unaryOperators := by decide
  simp [oneInterval, Expr.isConfined, Value.isConfined, hinterval]

theorem isConfined_interval {backend : Backend} {x : Value} {unit : String} {e : Expr}
    (hx : x.isConfined = true) (h : interval backend x unit = .ok e) : e.isConfined = true := by
  have htype : "INTERVAL" ∈ Vocabulary.castTypes := by decide
  unfold interval at h
  split at h
  · split at h
    · obtain ⟨count, _, h⟩ := bind_eq_ok_iff.1 h
      cases h
      simp [Expr.isConfined, Value.isConfined, htype]
    · cases h
      simp [Expr.isConfined, Value.isConfined, htype]
    · cases h
  · cases h
    have hexpr : x.toExpr.isConfined = true := by simpa using hx
    exact Expr.isConfined_binary (by decide) hexpr (isConfined_oneInterval unit)

theorem confines_period (unit : String) : (period unit).Confines := by
  refine ⟨rfl, ?_⟩
  intro s args v _ hargs hv
  obtain ⟨e, he, hv⟩ := bind_eq_ok_iff.1 hv
  cases hv
  exact isConfined_interval (hargs.value "x") he

/-- The units that stand for others are texts. -/
theorem confines_floorDate : floorDate.Confines := by
  refine confines_of_template (confines_pure rfl ?_) (by decide)
  intro args hargs
  exact Expr.isConfined_callOf (by decide)
    (allConfined_pair (hargs.value "unit") (hargs.value "x"))

theorem confines_addInterval (unit : String) : (addInterval unit).Confines := by
  refine confines_pure rfl ?_
  intro args hargs
  have hx : (args.value "x").toExpr.isConfined = true := by simpa using hargs.value "x"
  have hn : (args.value "n").toExpr.isConfined = true := by simpa using hargs.value "n"
  exact Expr.isConfined_binary (by decide) hx
    (Expr.isConfined_binary (by decide) hn (isConfined_oneInterval unit))

theorem confines_buildDate : buildDate.Confines := by
  refine confines_of_template (confines_pure rfl ?_) rfl
  intro args hargs
  refine Expr.isConfined_callOf (by decide) ?_
  simp [allConfined, hargs.value]

theorem confines_daysBetween : daysBetween.Confines :=
  confines_of_template (confines_pure rfl fun _ hargs =>
    Expr.isConfined_binaryOf (by decide) (hargs.value "end") (hargs.value "start")) rfl

theorem confines_datePart (name : String) : (datePart name).Confines :=
  confines_pure rfl fun _ hargs =>
    Expr.isConfined_callOf (by decide) (allConfined_pair rfl (hargs.value "x"))

theorem confines_difftime : difftime.Confines := by
  refine confines_of_template (confines_pure rfl ?_) rfl
  intro args hargs
  have hdate : "DATE" ∈ Vocabulary.castTypes := by decide
  refine Expr.isConfined_binary (by decide) ?_ ?_
  · simp [Expr.isConfined, hdate, hargs.value]
  · simp [Expr.isConfined, hdate, hargs.value]

theorem confines_scalarRules : ∀ r ∈ scalarRules, r.2.Confines := by
  simp only [scalarRules, List.forall_mem_append, List.forall_mem_cons, List.forall_mem_map]
  refine ⟨⟨confines_binary (by decide), confines_call₁ (by decide), confines_log,
    confines_cotangent, confines_round, confines_grepl, confines_paste " ", confines_paste "",
    confines_paste "", confines_locate, confines_patternMatch .anywhere,
    confines_patternMatch .start, confines_patternMatch .stop, confines_like, confines_replace,
    confines_replaceAll, confines_squish, confines_remove, confines_removeAll,
    confines_part (by decide), confines_part (by decide), confines_wday, confines_part (by decide),
    confines_week, confines_part (by decide), confines_month, confines_quarter,
    confines_part (by decide), confines_floorDate, confines_addInterval "day",
    confines_addInterval "year", confines_buildDate, confines_daysBetween,
    confines_datePart "year", confines_datePart "month", confines_datePart "day",
    confines_difftime, List.forall_mem_nil _⟩, ?_⟩
  intro unit _
  exact confines_period unit

/-! ## Aggregate and window -/

theorem isConfined_flattened {args : Arguments} (hargs : args.Confined) :
    (flattened args).isConfined = true :=
  Expr.isConfined_callOf (by decide)
    (allConfined_pair (hargs.value "x") (hargs.value "collapse"))

theorem confines_flatten : flatten.Confines :=
  confines_pure rfl fun _ hargs => isConfined_flattened hargs

theorem confines_flattenOver : flattenOver.Confines :=
  confines_windowed rfl fun _ _ hw hargs =>
    Expr.isConfined_over (isConfined_flattened hargs) (General.isConfined_ordered hw)

theorem confines_aggregateRules : ∀ r ∈ aggregateRules, r.2.Confines := by
  simp only [aggregateRules, List.forall_mem_cons]
  exact ⟨confines_call₂ (by decide), confines_call₂ (by decide), confines_aggregate (by decide),
    confines_aggregate (by decide), confines_aggregate (by decide), confines_aggregate (by decide),
    confines_flatten, List.forall_mem_nil _⟩

theorem confines_windowRules : ∀ r ∈ windowRules, r.2.Confines := by
  simp only [windowRules, List.forall_mem_cons]
  exact ⟨confines_aggregateOver₂ (by decide), confines_aggregateOver₂ (by decide),
    confines_aggregateOver (by decide), confines_aggregateOver (by decide),
    confines_aggregateOver (by decide), confines_aggregateOver (by decide), confines_flattenOver,
    confines_refused "median", confines_refused "quantile", List.forall_mem_nil _⟩

end Postgres

end SqlDialects
