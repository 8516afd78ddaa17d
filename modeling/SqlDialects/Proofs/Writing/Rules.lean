-- SUMMARY: Every rule of the general and of the PostgreSQL tables makes expressions that render of arguments that fit.
import SqlDialects.Proofs.Fixed.Misplaced
import SqlDialects.Proofs.Writing.Arguments

/-!
# Rules that keep what renders

The parameters of most functions are operands, and a rule that writes operands makes an
expression that renders. The few functions with a slot of their own come one by one.
-/

namespace SqlDialects

variable {d : Dialect}

/-- A rule that asks for operands. -/
abbrev Rule.KeepsOperands (d : Dialect) (r : Rule) : Prop :=
  r.KeepsRendering d fun _ v => v.Renders d

theorem Rule.validators_keep {validators : List (String × List Validator)}
    (h : (validators.all fun v => v.2.all Validator.hasPlainAliases) = true) :
    ∀ entry ∈ validators, ∀ validator ∈ entry.2, validator.Keeps fun v => v.Renders d :=
  fun entry hentry validator hvalidator => Validator.keeps_renders
    (List.all_eq_true.1 (List.all_eq_true.1 h entry hentry) validator hvalidator)

theorem Rule.keepsOperands_of_make {name : String} {sig : Signature}
    {make : Setting → Arguments → Expr} {validators : List (String × List Validator)}
    (hdefaults : sig.hasPlainDefaults = true)
    (haliases : (validators.all fun v => v.2.all Validator.hasPlainAliases) = true)
    (hmake : ∀ (s : Setting) (args : Arguments), s.window.Renders d →
      (∀ name, (args.value name).Renders d) → (∀ name, ∀ v ∈ args.rest name, v.Renders d) →
        (make s args).Renders d) :
    Rule.KeepsOperands d
      { name, template := ⟨sig, fun s args => .ok (.sql (make s args))⟩, validators } where
  default := Signature.renders_default hdefaults
  validators := validators_keep haliases
  expand := by
    intro s bound args e hs _ hargs he
    cases he
    exact hmake s args hs.window (fun _ => hargs.value Value.renders_null) hargs.rest

/-! ## Windows -/

namespace Window

variable {w : Window} {partitionBy orderBy : List Expr}

attribute [grind →] Window.Renders.partitionBy Window.Renders.orderBy

@[grind ←]
theorem renders_unframed (hpartition : ∀ e ∈ partitionBy, e.Renders d)
    (horder : ∀ e ∈ orderBy, e.Renders d) {name : Option String} :
    Window.Renders d ⟨partitionBy, orderBy, none, name⟩ :=
  ⟨hpartition, horder, none, rfl⟩

/-- A frame from the first row on. -/
@[grind ←]
theorem renders_framed (hpartition : ∀ e ∈ partitionBy, e.Renders d)
    (horder : ∀ e ∈ orderBy, e.Renders d) {stop : Value} (hstop : stop = .null ∨ stop = .whole 0)
    {name : Option String} : Window.Renders d ⟨partitionBy, orderBy, some [.null, stop], name⟩ := by
  refine ⟨hpartition, horder, ?_⟩
  rcases hstop with rfl | rfl <;> exact ⟨_, rfl⟩

@[grind ←]
theorem renders_forAggregate (h : w.Renders d) : w.forAggregate.Renders d := by
  unfold forAggregate
  split
  · exact h
  · exact renders_unframed h.partitionBy (List.forall_mem_nil _)

@[grind ←]
theorem renders_ordered (h : w.Renders d) : (General.ordered w).Renders d :=
  renders_unframed h.partitionBy h.orderBy

@[grind ←]
theorem renders_partitioned (h : w.Renders d) : (General.partitioned w).Renders d :=
  renders_unframed h.partitionBy (List.forall_mem_nil _)

end Window

/-! ## Templates that look at their arguments -/

/-- The base has been validated, and its number is written as it was given. -/
theorem Rule.keepsOperands_log : Rule.KeepsOperands d (RuleSource.named "log" (.rule .log)) where
  default := Signature.renders_default (by decide)
  validators := Rule.validators_keep (by decide)
  expand := by
    intro s bound args e _ _ hargs he
    have hx : (args.value "x").Renders d := hargs.value Value.renders_null
    have hbase : (args.value "base").Renders d := hargs.value Value.renders_null
    simp only [RuleSource.named, Rule.log] at he
    split at he
    next n hn =>
      rw [hn] at hbase
      split at he
      · split at he
        · cases he
          grind
        · cases he
          grind
      · cases he
    next => cases he

theorem Template.keepsOperands_refused (name f : String) :
    Rule.KeepsOperands d (RuleSource.named name (.template (.refused f))) where
  default := Signature.renders_default rfl
  validators := List.forall_mem_nil _
  expand := by
    intro s bound args e _ _ _ he
    cases he

namespace General

/-- The length of a substring is short when it is written. -/
theorem renders_substring {x start : Value} (hx : x.Renders d) (hstart : start.Renders d)
    (stop : Value) : (Expr.callOf "SUBSTR" [x, start, spanLength start stop]).Renders d := by
  obtain ⟨n, hn⟩ : ∃ n, spanLength start stop = .whole n := by
    unfold spanLength
    split <;> exact ⟨_, rfl⟩
  rw [hn]
  intro hlengths
  have hlength : (Value.whole n).Renders d :=
    Value.renders_whole (isShort_iff.1 (isShort_of_hasShortLengths hlengths))
  exact Expr.renders_callOf (by grind) hlengths

theorem keepsOperands_substring :
    Rule.KeepsOperands d (RuleSource.named "substr" (.rule substring)) := by
  refine Rule.keepsOperands_of_make (by decide) (by decide) fun s args _ hvalue _ => ?_
  exact renders_substring (hvalue "x") (hvalue "start") (args.value "stop")

@[grind ←]
theorem renders_percentile {p x : Value} (hp : p.Renders d) (hx : x.Renders d) :
    (percentile p x).Renders d :=
  Expr.renders_withinGroup (by simpa using hp) (by simpa using hx)

@[grind ←]
theorem renders_half : half.Renders d := Value.renders_scalar ⟨_, rfl⟩

end General

namespace Postgres

@[grind ←]
theorem renders_regexReplace {args : Arguments} {further : List Value}
    (hvalue : ∀ name, (args.value name).Renders d) (hfurther : ∀ v ∈ further, v.Renders d) :
    (regexReplace args further).Renders d :=
  Expr.renders_callOf (by grind)

@[grind ←]
theorem renders_flattened {args : Arguments} (hvalue : ∀ name, (args.value name).Renders d) :
    (flattened args).Renders d :=
  Expr.renders_callOf (by grind)

@[grind ←]
theorem renders_named {x : Value} (hx : x.Renders d) {format : String}
    (hformat : NulFree format.toList) : (named x format).Renders d :=
  Expr.renders_callOf (by grind)

@[grind ←]
theorem renders_weekday {x shift : Value} (hx : x.Renders d) (hshift : shift.Renders d) :
    (weekday x shift).Renders d := by
  have hdate : (Expr.callOf "DATE" [x]).Renders d := by grind
  exact Expr.renders_binaryOf (by grind) (by grind)

theorem keepsOperands_squish :
    Rule.KeepsOperands d (RuleSource.named "str_squish" (.template squish)) := by
  refine Rule.keepsOperands_of_make (by decide) (by decide) fun s args _ hvalue _ => ?_
  have hcollapsed : (Expr.callOf "regexp_replace"
      [args.value "string", .text "\\s+", .text " ", .text "g"]).Renders d := by grind
  have htrimmed : (Expr.callOf "rtrim" [.sql (.callOf "regexp_replace"
      [args.value "string", .text "\\s+", .text " ", .text "g"])]).Renders d := by grind
  grind

theorem keepsOperands_week : Rule.KeepsOperands d (RuleSource.named "week" (.template week)) := by
  refine Rule.keepsOperands_of_make (by decide) (by decide) fun s args _ hvalue _ => ?_
  have hdays : (Expr.binaryOf "-" (.sql (.extract "DOY" (args.value "x"))) (.whole 1)).Renders d :=
    by grind
  have hweeks : (Expr.binaryOf "/" (.sql (.binaryOf "-" (.sql (.extract "DOY" (args.value "x")))
    (.whole 1))) (.whole 7)).Renders d := by grind
  grind

theorem keepsOperands_month : Rule.KeepsOperands d (RuleSource.named "month" (.rule month)) := by
  refine Rule.keepsOperands_of_make (by decide) (by decide) fun s args _ hvalue _ => ?_
  have hname : NulFree (if (args.value "abbr").isTruthy then "Mon" else "Month").toList :=
    .ite (by decide) (by decide)
  grind

theorem keepsOperands_quarter :
    Rule.KeepsOperands d (RuleSource.named "quarter" (.rule quarter)) := by
  refine Rule.keepsOperands_of_make (by decide) (by decide) fun s args _ hvalue _ => ?_
  have hdot : (Expr.literal (.text ".")).Renders d := by grind
  grind

theorem nulFree_of_mem_periodUnits : ∀ unit ∈ periodUnits, NulFree unit.toList := by decide

theorem renders_oneInterval {unit : String} (hunit : NulFree unit.toList) :
    (oneInterval unit).Renders d := by
  have htext : NulFree ("1 " ++ unit).toList := .append (by decide) hunit
  exact Expr.renders_unary (by grind)

/-- What is counted is a number when it is known, and multiplied when it is not. -/
theorem renders_interval {backend : Backend} {x : Value} {unit : String} {e : Expr}
    (hx : x.Renders d) (hunit : NulFree unit.toList) (h : interval backend x unit = .ok e) :
    e.Renders d := by
  have counted {count : String} (hcount : NulFree count.toList) :
      (Expr.cast (.literal (.text (count ++ " " ++ unit))) "INTERVAL").Renders d := by
    have htext : NulFree (count ++ " " ++ unit).toList := .append (.append hcount (by decide)) hunit
    exact Expr.renders_cast (by grind)
  unfold interval at h
  split at h
  · split at h
    next n _ =>
      obtain ⟨count, hcount, h⟩ := bind_eq_ok_iff.1 h
      cases h
      rw [← (wholeText_eq_ok_iff.1 hcount).2]
      exact counted (.toString n)
    next x _ =>
      cases h
      exact counted (.text_double x)
    next => cases h
  · cases h
    have hone := renders_oneInterval (d := d) hunit
    grind

theorem keepsOperands_addInterval {name unit : String} (hunit : NulFree unit.toList) :
    Rule.KeepsOperands d (RuleSource.named name (.template (addInterval unit))) := by
  refine Rule.keepsOperands_of_make (by decide) (by decide) fun s args _ hvalue _ => ?_
  have hone := renders_oneInterval (d := d) hunit
  grind

theorem keepsOperands_period {name unit : String} (hunit : NulFree unit.toList) :
    Rule.KeepsOperands d (RuleSource.named name (.template (period unit))) where
  default := Signature.renders_default rfl
  validators := List.forall_mem_nil _
  expand := by
    intro s bound args e _ _ hargs he
    obtain ⟨e', he', heq⟩ := bind_eq_ok_iff.1 he
    cases heq
    exact renders_interval (hargs.value Value.renders_null) hunit he'

/-- A first day of a week has one digit, and so have the days that it is short of a week. -/
theorem renders_daysShort {n : Int} (hn : 1 ≤ n ∧ n ≤ 7) {v : Value}
    (h : daysShort (.whole n) = .ok v) : v.Renders d := by
  cases h
  exact Value.renders_digit (by omega)

/-- A first day that passed its validator is a day of the week, or left to the options. -/
theorem weekStart_of_validate {backend : Backend} {bound args : Arguments}
    (h : validate backend wday.validators bound = .ok args) :
    args.value "week_start" = .null ∨
      ∃ n, args.value "week_start" = .whole n ∧ 1 ≤ n ∧ n ≤ 7 := by
  cases hlookup : args.lookup "week_start" with
  | none => exact .inl (by rw [Arguments.value, hlookup])
  | some b =>
    obtain ⟨_, hrun⟩ := exists_run_of_validate (by decide) h
      (List.mem_cons_of_mem _ (List.mem_cons_of_mem _ List.mem_cons_self)) hlookup
    cases b with
    | one v =>
      obtain ⟨_, happly⟩ := exists_apply_of_run hrun
      rw [Arguments.value_of_lookup hlookup]
      exact Validator.eq_whole_of_apply happly
    | many vs => exact .inl (by rw [Arguments.value, hlookup])
    | fields named => exact .inl (by rw [Arguments.value, hlookup])

theorem keepsOperands_wday : Rule.KeepsOperands d (RuleSource.named "wday" (.rule wday)) where
  default := Signature.renders_default (by decide)
  validators := Rule.validators_keep (by decide)
  expand := by
    intro s bound args e hs hvalidated hargs he
    have hx : (args.value "x").Renders d := hargs.value Value.renders_null
    simp only [RuleSource.named, wday] at he
    split at he
    · obtain ⟨shift, hshift, heq⟩ := bind_eq_ok_iff.1 he
      cases heq
      refine renders_weekday hx ?_
      rcases weekStart_of_validate hvalidated with hnull | ⟨n, hwhole, hn⟩
      · rw [hnull] at hshift
        exact hs.weekStart shift hshift
      · rw [hwhole] at hshift
        exact renders_daysShort hn hshift
    · split at he
      · cases he
        grind
      · cases he
        grind

end Postgres

/-! ## Rows -/

/-- The functions with a slot of their own. -/
def Slot.functions : List String := "%in%" :: (Slot.signs ++ Slot.matchers)

namespace General

theorem keepsOperands_scalarRules : ∀ row ∈ scalarRules,
    row.1 ∈ Slot.functions ∨ (row.2.named row.1).KeepsOperands d := by
  simp only [scalarRules, List.forall_mem_cons]
  and_intros
  all_goals
    first
    | exact List.forall_mem_nil _
    | exact .inl (by decide)
    | refine .inr
        (Rule.keepsOperands_of_make (by decide) (by decide) fun s args _ hvalue hrest => ?_)
      grind
    | exact .inr Rule.keepsOperands_log
    | exact .inr keepsOperands_substring

theorem keepsOperands_aggregateRules : ∀ row ∈ aggregateRules,
    (row.2.named row.1).KeepsOperands d := by
  simp only [aggregateRules, List.forall_mem_cons]
  and_intros
  all_goals
    first
    | exact List.forall_mem_nil _
    | refine Rule.keepsOperands_of_make (by decide) (by decide) fun s args _ hvalue _ => ?_
      grind [countRows]

theorem keepsOperands_windowRules : ∀ row ∈ windowRules,
    (row.2.named row.1).KeepsOperands d := by
  simp only [windowRules, List.forall_mem_cons]
  and_intros
  all_goals
    first
    | exact List.forall_mem_nil _
    | refine Rule.keepsOperands_of_make (by decide) (by decide) fun s args hwindow hvalue _ => ?_
      grind [countRows]

end General

namespace Postgres

theorem keepsOperands_scalarRules : ∀ row ∈ scalarRules,
    row.1 ∈ Slot.functions ∨ (row.2.named row.1).KeepsOperands d := by
  simp only [scalarRules, List.forall_mem_append, List.forall_mem_cons, List.forall_mem_map]
  and_intros
  all_goals
    first
    | exact List.forall_mem_nil _
    | exact .inl (by decide)
    | refine .inr
        (Rule.keepsOperands_of_make (by decide) (by decide) fun s args _ hvalue hrest => ?_)
      grind
    | exact .inr Rule.keepsOperands_log
    | exact .inr keepsOperands_squish
    | exact .inr keepsOperands_wday
    | exact .inr keepsOperands_week
    | exact .inr keepsOperands_month
    | exact .inr keepsOperands_quarter
    | exact .inr (keepsOperands_addInterval (by decide))
    | exact fun unit hunit => .inr (keepsOperands_period (nulFree_of_mem_periodUnits unit hunit))

theorem keepsOperands_aggregateRules : ∀ row ∈ aggregateRules,
    (row.2.named row.1).KeepsOperands d := by
  simp only [aggregateRules, List.forall_mem_cons]
  and_intros
  all_goals
    first
    | exact List.forall_mem_nil _
    | refine Rule.keepsOperands_of_make (by decide) (by decide) fun s args _ hvalue _ => ?_
      grind

theorem keepsOperands_windowRules : ∀ row ∈ windowRules,
    (row.2.named row.1).KeepsOperands d := by
  simp only [windowRules, List.forall_mem_cons]
  and_intros
  all_goals
    first
    | exact List.forall_mem_nil _
    | refine Rule.keepsOperands_of_make (by decide) (by decide) fun s args hwindow hvalue _ => ?_
      grind
    | exact Template.keepsOperands_refused _ _

end Postgres

end SqlDialects
