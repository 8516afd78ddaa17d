-- SUMMARY: Every rule writes the fixed patterns that show in its arguments, but for a few that treat one argument unlike the others.
import SqlDialects.Proofs.Fixed.Arguments

/-!
# Fixed patterns in rules
-/

namespace SqlDialects

/-- A rule that always makes an expression writes its parameters when the expression is no
    literal and shows what shows in them. -/
theorem Rule.writesParameters_of_make {name : String} {sig : Signature}
    {make : Setting → Arguments → Expr} {validators : List (String × List Validator)}
    (hnames : sig.names.Nodup) (hkinds : ∀ p ∈ sig, p.kind ≠ .extra)
    (hvalidators : ∀ entry ∈ validators,
      entry.2 ≠ [] ∧ ∀ v ∈ entry.2, v.hasScalarCandidates = true)
    (hstatic : ∀ s args, (Value.sql (make s args)).isStatic = false)
    (hmake : ∀ s (args : Arguments), ∀ p ∈ sig,
      p.name ∈ validators.map (·.1) ∨ (args.showsAt p = true → (make s args).showsFixed = true)) :
    Rule.WritesParameters
      { name, template := ⟨sig, fun s args => .ok (.sql (make s args))⟩, validators } where
  names := hnames
  kinds := hkinds
  validators := hvalidators
  expand := by
    intro s args v hv p hp
    cases hv
    exact (hmake s args p hp).imp_right fun h hshows => ⟨h hshows, hstatic s args⟩

section

variable (args : Arguments) (name : String) (default : Value)

@[simp] theorem Arguments.showsAt_required :
    args.showsAt (.required name) = (args.value name).showsFixed := rfl

@[simp] theorem Arguments.showsAt_optional :
    args.showsAt (.optional name default) = (args.value name).showsFixed := rfl

@[simp] theorem Arguments.showsAt_named :
    args.showsAt (.named name default) = (args.value name).showsFixed := rfl

@[simp] theorem Arguments.showsAt_rest :
    args.showsAt (.rest name) = anyShowFixed (args.rest name) := rfl

@[simp] theorem Param.name_required : (Param.required name).name = name := rfl
@[simp] theorem Param.name_optional : (Param.optional name default).name = name := rfl
@[simp] theorem Param.name_named : (Param.named name default).name = name := rfl

end

/-! ## Rules that look at their arguments -/

theorem General.writesParameters_minus :
    (RuleSource.named "-" (.template minus)).WritesParameters := by
  refine Rule.writesParameters_of_make (by decide) (by decide) (by decide) (fun s args => ?_)
    fun s args => ?_
  · split <;> rfl
  · simp only [List.forall_mem_cons, Param.name_required, Param.name_optional,
      Arguments.showsAt_required, Arguments.showsAt_optional]
    refine ⟨.inr fun h => ?_, .inr fun h => ?_, List.forall_mem_nil _⟩
    · split
      · simpa using h
      · simp [h]
    · split
      next hy => simp [hy] at h
      next => simp [h]

/-- The base is validated, and the number is written for every base. -/
theorem Rule.writesParameters_log : (RuleSource.named "log" (.rule .log)).WritesParameters := by
  refine ⟨by decide, by decide, by decide, ?_⟩
  intro s args v hv p hp
  rcases List.mem_cons.1 hp with rfl | hp
  · refine .inr fun h => ?_
    rw [Arguments.showsAt_required] at h
    simp only [RuleSource.named, Rule.log] at hv
    split at hv
    · split at hv
      · split at hv
        · cases hv
          exact ⟨by simp [h], rfl⟩
        · cases hv
          exact ⟨by simp [h], rfl⟩
      · cases hv
    · cases hv
  · rw [List.mem_singleton.1 hp]
    exact .inl (by decide)

/-- A value to rank by is no null when a fixed pattern shows in it, and is ordered by. -/
theorem Template.writesParameters_rank (name f : String) :
    (RuleSource.named name (.template (.rank f))).WritesParameters := by
  refine Rule.writesParameters_of_make (by decide) (by decide) (by decide) (fun s args => ?_)
    fun s args p hp => .inr fun h => ?_
  · dsimp only
    split <;> rfl
  · rw [List.mem_singleton.1 hp, Arguments.showsAt_optional] at h
    dsimp only
    split
    next hx => simp [hx] at h
    next => simp [h]

/-- A default of an offset in which a fixed pattern shows is not null, and is written. -/
theorem General.writesParameters_offset (name f : String) :
    (RuleSource.named name (.rule (offset f))).WritesParameters := by
  refine Rule.writesParameters_of_make (by decide) (by decide)
    (by simp [offset, Validator.hasScalarCandidates]) (fun _ _ => rfl) fun s args => ?_
  simp only [List.forall_mem_cons, Param.name_required, Param.name_optional,
    Arguments.showsAt_required, Arguments.showsAt_optional]
  refine ⟨.inr fun h => by simp [h], .inl (by simp [offset]), .inr fun h => ?_,
    List.forall_mem_nil _⟩
  split
  next hdefault => simp [hdefault] at h
  next => simp [h]

namespace Postgres

theorem writesParameters_month : (RuleSource.named "month" (.rule month)).WritesParameters := by
  refine Rule.writesParameters_of_make (by decide) (by decide) (by decide) (fun s args => ?_)
    fun s args => ?_
  · dsimp only
    split <;> rfl
  · simp only [List.forall_mem_cons, Param.name_required, Param.name_optional,
      Arguments.showsAt_required]
    refine ⟨.inr fun h => ?_, .inl (by decide), .inl (by decide), List.forall_mem_nil _⟩
    split
    · simp [h]
    · simp [named, h]

theorem writesParameters_quarter :
    (RuleSource.named "quarter" (.rule quarter)).WritesParameters := by
  refine Rule.writesParameters_of_make (by decide) (by decide) (by decide) (fun s args => ?_)
    fun s args => ?_
  · dsimp only
    split <;> rfl
  · simp only [List.forall_mem_cons, Param.name_required, Param.name_optional,
      Arguments.showsAt_required]
    refine ⟨.inr fun h => ?_, .inl (by decide), .inl (by decide), List.forall_mem_nil _⟩
    split
    · simp [h]
    · simp [h]

theorem writesParameters_wday : (RuleSource.named "wday" (.rule wday)).WritesParameters := by
  refine ⟨by decide, by decide, by decide, ?_⟩
  intro s args v hv
  simp only [RuleSource.named, Rule.signature, wday, List.forall_mem_cons]
  refine ⟨.inr fun h => ?_, .inl (by decide), .inl (by decide), .inl (by decide),
    List.forall_mem_nil _⟩
  rw [Arguments.showsAt_required] at h
  simp only [RuleSource.named, wday] at hv
  split at hv
  · obtain ⟨shift, _, hv⟩ := bind_eq_ok_iff.1 hv
    cases hv
    exact ⟨by simp [weekday, h], rfl⟩
  · split at hv
    · cases hv
      exact ⟨by simp [named, h], rfl⟩
    · cases hv
      exact ⟨by simp [named, h], rfl⟩

/-- What is known when translating must be a number, and all else is multiplied. -/
theorem writesParameters_period (name unit : String) :
    (RuleSource.named name (.template (period unit))).WritesParameters := by
  refine ⟨by simp [Rule.signature, RuleSource.named, period, Signature.names], fun p hp => ?_,
    fun _ h => absurd h List.not_mem_nil, ?_⟩
  · rw [List.mem_singleton.1 hp]
    decide
  intro s args v hv p hp
  refine .inr fun h => ?_
  rw [List.mem_singleton.1 hp, Arguments.showsAt_required, ← Value.showsFixed_staticValue] at h
  obtain ⟨e, he, hv⟩ := bind_eq_ok_iff.1 hv
  cases hv
  unfold interval at he
  split at he
  · split at he
    next hx => simp [hx] at h
    next hx => simp [hx] at h
    next => cases he
  · cases he
    rw [Value.showsFixed_staticValue] at h
    exact ⟨by simp [h], rfl⟩

end Postgres

/-- A function that is refused builds nothing. -/
theorem Template.showsArguments_refused (name f : String) :
    (RuleSource.named name (.template (.refused f))).ShowsArguments := by
  intro s args named e _ _ he
  obtain ⟨_, _, _, _, hexpand⟩ := Rule.exists_of_build he
  cases hexpand

/-! ## Rows -/

/-- The functions that treat one argument unlike the others: a single operand is what it
    makes, nothing is looked for in an empty table, and a pattern may be marked. -/
def Rule.unlikeOthers : List String := ["+", "%in%", "str_detect", "str_starts", "str_ends"]

namespace General

theorem writesParameters_scalarRules : ∀ row ∈ scalarRules,
    row.1 ∈ Rule.unlikeOthers ∨ (row.2.named row.1).WritesParameters := by
  simp only [scalarRules, List.forall_mem_cons]
  and_intros
  all_goals
    first
    | exact List.forall_mem_nil _
    | exact .inl (by decide)
    | exact .inr writesParameters_minus
    | exact .inr Rule.writesParameters_log
    | refine .inr
        (Rule.writesParameters_of_make (by decide) (by decide) (by decide) (fun _ _ => rfl) ?_)
      simp +contextual [round, trim, substring, Rule.paste]

theorem writesParameters_aggregateRules : ∀ row ∈ aggregateRules,
    (row.2.named row.1).WritesParameters := by
  simp only [aggregateRules, List.forall_mem_cons]
  and_intros
  all_goals
    first
    | exact List.forall_mem_nil _
    | refine Rule.writesParameters_of_make (by decide) (by decide) (by decide) (fun _ _ => rfl) ?_
      simp +contextual [median, quantile, medianSignature, quantileSignature, quantileValidators,
        percentile, Rule.aggregate]

theorem writesParameters_windowRules : ∀ row ∈ windowRules,
    (row.2.named row.1).WritesParameters := by
  simp only [windowRules, List.forall_mem_cons]
  and_intros
  all_goals
    first
    | exact List.forall_mem_nil _
    | exact Template.writesParameters_rank _ _
    | exact writesParameters_offset _ _
    | refine Rule.writesParameters_of_make (by decide) (by decide) (by decide) (fun _ _ => rfl) ?_
      simp +contextual [ntile, nth, medianOver, quantileOver, medianSignature, quantileSignature,
        quantileValidators, percentile, Rule.aggregateOver]

end General

namespace Postgres

theorem writesParameters_scalarRules : ∀ row ∈ scalarRules,
    row.1 ∈ Rule.unlikeOthers ∨ (row.2.named row.1).WritesParameters := by
  simp only [scalarRules, List.forall_mem_append, List.forall_mem_cons, List.forall_mem_map]
  and_intros
  all_goals
    first
    | exact List.forall_mem_nil _
    | exact .inl (by decide)
    | exact .inr Rule.writesParameters_log
    | exact .inr writesParameters_wday
    | exact .inr writesParameters_month
    | exact .inr writesParameters_quarter
    | exact fun unit _ => .inr (writesParameters_period _ unit)
    | refine .inr
        (Rule.writesParameters_of_make (by decide) (by decide) (by decide) (fun _ _ => rfl) ?_)
      simp +contextual [round, grepl, like, Rule.paste, regexReplace, replaceSignature, floorDate,
        buildDate, daysBetween, difftime]

theorem writesParameters_aggregateRules : ∀ row ∈ aggregateRules,
    (row.2.named row.1).WritesParameters := by
  simp only [aggregateRules, List.forall_mem_cons]
  and_intros
  all_goals
    first
    | exact List.forall_mem_nil _
    | refine Rule.writesParameters_of_make (by decide) (by decide) (by decide) (fun _ _ => rfl) ?_
      simp +contextual [flattenSignature, flattened, Rule.aggregate]

theorem showsArguments_windowRules : ∀ row ∈ windowRules,
    (row.2.named row.1).ShowsArguments := by
  simp only [windowRules, List.forall_mem_cons]
  and_intros
  all_goals
    first
    | exact List.forall_mem_nil _
    | exact Template.showsArguments_refused _ _
    | refine Rule.WritesParameters.showsArguments
        (Rule.writesParameters_of_make (by decide) (by decide) (by decide) (fun _ _ => rfl) ?_)
      simp +contextual [flattenSignature, flattened, Rule.aggregateOver]

end Postgres

/-- What a fixed pattern shows in shows it in what a resolved rule builds, with all but a
    few functions. -/
theorem Backend.showsArguments_of_resolve {backend : Backend} {name : String} {c : Context}
    {rule : Rule} (hname : name ∉ Rule.unlikeOthers)
    (h : backend.variant.resolve name c = .ok rule) : rule.ShowsArguments := by
  refine (forall_of_resolve (P := fun name r => name ∈ Rule.unlikeOthers ∨ r.ShowsArguments)
    ?_ ?_ h).resolve_left hname
  · intro c
    cases c with
    | scalar =>
      exact fun row hrow =>
        (General.writesParameters_scalarRules row hrow).imp_right
          Rule.WritesParameters.showsArguments
    | aggregate =>
      exact fun row hrow => .inr (General.writesParameters_aggregateRules row hrow).showsArguments
    | window =>
      exact fun row hrow => .inr (General.writesParameters_windowRules row hrow).showsArguments
  · intro c
    cases c with
    | scalar =>
      exact fun row hrow =>
        (Postgres.writesParameters_scalarRules row hrow).imp_right
          Rule.WritesParameters.showsArguments
    | aggregate =>
      exact fun row hrow => .inr (Postgres.writesParameters_aggregateRules row hrow).showsArguments
    | window => exact fun row hrow => .inr (Postgres.showsArguments_windowRules row hrow)

/-! ## Functions unlike the others -/

namespace General

variable {s : Setting} {args : Arguments} {v : Value}

/-- A single operand is what it makes, and shows what shows in it. -/
theorem showsFixed_of_plus (h : plus.expand s args = .ok v)
    (hshows : (args.value "x").showsFixed = true ∨ (args.value "y").showsFixed = true) :
    v.showsFixed = true ∧ (v.isStatic = true →
      args.value "y" = .scalar .omitted ∧ (args.value "x").isStatic = true) := by
  cases h
  dsimp only
  split
  next hy =>
    have hx := hshows.resolve_right (by simp [hy])
    refine ⟨by simpa using hx, fun hstatic => ⟨hy, ?_⟩⟩
    cases hvalue : args.value "x" with
    | sql e => simpa [hvalue] using hstatic
    | _ => rfl
  next =>
    refine ⟨by simpa using hshows, fun hstatic => ?_⟩
    cases hstatic

/-- What is looked for is written unless the table is empty. -/
theorem showsFixed_of_isIn (h : isIn.expand s args = .ok v)
    (hshows : (args.value "table").showsFixed = true ∨
      (args.value "x").showsFixed = true ∧ args.value "table" ≠ .tuple []) :
    v.showsFixed = true ∧ v.isStatic = false := by
  cases h
  dsimp only
  split
  next htable => simp [htable] at hshows
  next items _ htable =>
    rw [htable] at hshows
    exact ⟨by simpa [or_comm] using hshows.imp_right (·.1), rfl⟩
  next => exact ⟨by simpa [or_comm] using hshows.imp_right (·.1), rfl⟩

end General

section

variable {place : PatternPlace} {string pattern : Value} {negated : Bool} {e : Expr}

/-- A pattern that is not known when translating is concatenated. -/
theorem showsFixed_anchored {before after : String} (hstatic : pattern.isStatic = false)
    (h : anchored before pattern.toExpr after = .ok e) : e.showsFixed = pattern.showsFixed := by
  cases pattern with
  | sql pattern =>
    cases pattern with
    | literal => cases hstatic
    | _ =>
      cases h
      simp
  | _ => cases hstatic

/-- Anchors hide a pattern only when it is known. -/
theorem showsFixed_anchoredAt (hpattern : pattern.showsFixed = true)
    (hplace : place = .anywhere ∨ pattern.isStatic = false)
    (h : anchoredAt place pattern.toExpr = .ok e) : e.showsFixed = true := by
  unfold anchoredAt at h
  split at h
  · rw [showsFixed_anchored (hplace.resolve_left (by decide)) h, hpattern]
  · rw [showsFixed_anchored (hplace.resolve_left (by decide)) h, hpattern]
  · cases h
    simpa using hpattern

theorem showsFixed_matchFixed (hshows : string.showsFixed = true ∨
    pattern.unmarked.showsFixed = true ∧
      (place = .anywhere ∨ pattern.unmarked.isStatic = false))
    (h : matchFixed place string pattern negated = .ok e) :
    e.showsFixed = true ∧ (Value.sql e).isStatic = false := by
  have hparts : string.showsFixed = true ∨ pattern.unmarked.showsFixed = true :=
    hshows.imp_right (·.1)
  unfold matchFixed at h
  dsimp only at h
  split at h
  next =>
    cases h
    exact ⟨by simpa using hparts, rfl⟩
  next hplace =>
    split at h
    next hstatic =>
      obtain ⟨_, _, h⟩ := bind_eq_ok_iff.1 h
      cases h
      have hstring := hshows.resolve_right (by simp [hplace, hstatic])
      exact ⟨by simp [hstring], rfl⟩
    next =>
      split at h
      · cases h
        exact ⟨by simpa using hparts, rfl⟩
      · cases h
        exact ⟨by simpa [or_assoc] using hparts, rfl⟩

theorem showsFixed_matchRegex {operator : String} (hunmarked : pattern.unmarked = pattern)
    (hshows : string.showsFixed = true ∨ pattern.unmarked.showsFixed = true ∧
      (place = .anywhere ∨ pattern.unmarked.isStatic = false))
    (h : matchRegex place operator string pattern negated = .ok e) :
    e.showsFixed = true ∧ (Value.sql e).isStatic = false := by
  rw [hunmarked] at hshows
  obtain ⟨anchored, hanchored, h⟩ := bind_eq_ok_iff.1 h
  cases h
  have hparts : string.showsFixed = true ∨ anchored.showsFixed = true :=
    hshows.imp_right fun ⟨hpattern, hplace⟩ => showsFixed_anchoredAt hpattern hplace hanchored
  cases negated with
  | false => exact ⟨by simpa using hparts, rfl⟩
  | true => exact ⟨by simpa using hparts, rfl⟩

end

/-- A pattern that is not matched as fixed text is not marked. -/
theorem Value.unmarked_of_not_isFixedPattern {v : Value} (h : ¬ v.isFixedPattern = true) :
    v.unmarked = v := by
  cases v with
  | fixed => exact absurd rfl h
  | _ => rfl

/-- What is searched is written, and so is a pattern, marked or not, unless it is known
    when translating and sought at the start or the end. -/
theorem Rule.showsFixed_of_patternMatch {place : PatternPlace} {s : Setting} {args : Arguments}
    {v : Value} (h : (Rule.patternMatch place).template.expand s args = .ok v)
    (hshows : (args.value "string").showsFixed = true ∨
      (args.value "pattern").unmarked.showsFixed = true ∧
        (place = .anywhere ∨ (args.value "pattern").unmarked.isStatic = false)) :
    v.showsFixed = true ∧ v.isStatic = false := by
  rw [expand_patternMatch_eq] at h
  obtain ⟨e, he, h⟩ := bind_eq_ok_iff.1 h
  cases h
  unfold matchPattern at he
  split at he
  next => exact showsFixed_matchFixed hshows he
  next hfixed => exact showsFixed_matchRegex (Value.unmarked_of_not_isFixedPattern hfixed) hshows he

end SqlDialects
