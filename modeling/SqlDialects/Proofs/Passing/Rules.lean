-- SUMMARY: No rule fails on the way its arguments are passed to it, unless its setting is named among further arguments.
import SqlDialects.Proofs.Passing.Calls
import SqlDialects.Proofs.Resolution.Tables
import SqlDialects.Proofs.Traced
import SqlDialects.Proofs.Validation.Bounds
import SqlDialects.Proofs.Writing.Rules

/-!
# Passing arguments to rules

Arguments that do not bind to the parameters of a rule are refused with its name and its
parameters. Those that bind and are let pass are handed on to its template, and this never
fails by the way they are passed: every template can be called by its parameters, and those
that call another template or compute with an argument were given what they need. The one
exception are the functions that are refused on purpose, for they take any named argument
and so one with the name of the setting.
-/

namespace SqlDialects

/-! ## Expanding -/

/-- If it fails, it is not by the way arguments are passed. -/
def TakesArguments {α : Type} (x : Except Error α) : Prop := x ≠ .error (.lapse .argumentShape)

section

variable {α β : Type}

theorem takesArguments_ok (a : α) : TakesArguments (Except.ok a) := nofun

theorem takesArguments_error {e : Error} (h : e ≠ .lapse .argumentShape) :
    TakesArguments (Except.error e : Except Error α) := fun heq => h (Except.error.inj heq)

theorem TakesArguments.bind {x : Except Error α} {f : α → Except Error β} (hx : TakesArguments x)
    (hf : ∀ a, x = .ok a → TakesArguments (f a)) : TakesArguments (x >>= f) := by
  cases x with
  | error e => exact fun h => hx (Except.error.inj h ▸ rfl)
  | ok a => exact hf a rfl

end

/-- A rule whose template takes whatever is bound to its parameters and let pass. The
    options have been accepted. -/
def Rule.ExpandsBound (r : Rule) : Prop :=
  ∀ (s : Setting) (week : Value) (args : List Value) (named : List (String × Value))
    (bound given : Arguments), Options.checkWeekStart s.options.weekStart = .ok week →
    r.signature.bind args named = .ok bound → validate s.backend r.validators bound = .ok given →
    TakesArguments (r.template.expand s given)

theorem Template.takesArguments_refused (f : String) (s : Setting) (args : Arguments) :
    TakesArguments ((Template.refused f).expand s args) := nofun

/-- The base is bound, to an argument or to its default, and a number is let pass. -/
theorem Rule.expandsBound_log : Rule.ExpandsBound (RuleSource.named "log" (.rule .log)) := by
  intro s week args named bound given _ hbind hvalidate
  obtain ⟨b, hb, hfits⟩ := Signature.fits_bind (p := .optional "base" (.double .e)) (by decide)
    hbind (.tail _ (.head _))
  obtain ⟨v, rfl⟩ := hfits.exists_one (by decide) (by decide)
  obtain ⟨b', hchain, hlookup⟩ :=
    chain_of_validate (by decide) hvalidate List.mem_cons_self hb
  have hrun : runValidators s.backend "base" [.number none none] (.one v) = .ok b' :=
    runValidators_eq_ok_iff.2 hchain
  obtain ⟨w, rfl⟩ : ∃ w, b' = .one w := by
    have hshape := shape_of_runValidators hrun
    cases b' with
    | one w => exact ⟨w, rfl⟩
    | many => cases hshape
    | fields => cases hshape
  obtain ⟨_, happly⟩ := exists_apply_of_run hrun
  obtain ⟨n, _, rfl, _⟩ := Validator.exists_of_apply_number happly
  have hbase : given.value "base" = .number n := Arguments.value_of_lookup hlookup
  simp only [RuleSource.named, Rule.log, hbase]
  split
  · split
    · exact takesArguments_ok _
    · exact takesArguments_ok _
  · exact takesArguments_error (by simp)

/-- A pattern is matched, or too long to be written. -/
theorem Rule.takesArguments_patternMatch (place : PatternPlace) (s : Setting) (args : Arguments) :
    TakesArguments ((Rule.patternMatch place).template.expand s args) := by
  rw [expand_patternMatch_eq]
  refine TakesArguments.bind (fun he => ?_) fun _ _ => takesArguments_ok _
  cases error_of_matchPattern he

namespace Postgres

theorem takesArguments_period (unit : String) (s : Setting) (args : Arguments) :
    TakesArguments ((period unit).expand s args) := by
  refine TakesArguments.bind ?_ fun _ _ => takesArguments_ok _
  unfold interval
  split
  · split
    next n _ =>
      refine TakesArguments.bind ?_ fun _ _ => takesArguments_ok _
      unfold wholeText
      split
      · exact takesArguments_ok _
      · exact takesArguments_error (by simp)
    · exact takesArguments_ok _
    · exact takesArguments_error (by simp)
  · exact takesArguments_ok _

/-- Seven less a number, or less a host expression, is a value or too large. -/
theorem takesArguments_daysShort {v : Value} (h : (∃ n, v = .number n) ∨ v.isHost = true) :
    TakesArguments (daysShort v) := by
  rcases h with ⟨n, rfl⟩ | hhost
  · unfold daysShort
    dsimp only
    split
    · exact takesArguments_ok _
    · exact takesArguments_error (by simp)
  · cases v with
    | column => exact takesArguments_ok _
    | call => exact takesArguments_ok _
    | _ => cases hhost

/-- Options accept a number, or a host expression, as the first day of a week. -/
theorem cases_of_checkWeekStart {v week : Value} (h : Options.checkWeekStart v = .ok week) :
    (∃ n, v = .number n) ∨ v.isHost = true := by
  unfold Options.checkWeekStart at h
  split at h
  · exact absurd h Options.refuseWeekStart_ne_ok
  next hbool =>
    obtain ⟨_, hrelates, _⟩ := bind_eq_ok_iff.1 h
    cases v with
    | scalar a =>
      cases a with
      | number n => exact .inl ⟨n, rfl⟩
      | bool b => exact absurd rfl (hbool b)
      | _ => cases hrelates
    | column => exact .inr rfl
    | call => exact .inr rfl
    | _ => cases hrelates

/-- The first day of a week can be subtracted: it is a number, or left to the options, which
    have been accepted. -/
theorem expandsBound_wday : Rule.ExpandsBound (RuleSource.named "wday" (.rule wday)) := by
  intro s week args named bound given hweek _ hvalidate
  simp only [RuleSource.named, wday]
  split
  · refine TakesArguments.bind ?_ fun _ _ => takesArguments_ok _
    rcases weekStart_of_validate hvalidate with hnull | ⟨n, hwhole, _⟩
    · rw [hnull]
      exact takesArguments_daysShort (cases_of_checkWeekStart hweek)
    · rw [hwhole]
      exact takesArguments_daysShort (v := .whole n) (.inl ⟨_, rfl⟩)
  · split
    · exact takesArguments_ok _
    · exact takesArguments_ok _

end Postgres

/-! ## Rows -/

theorem General.isCallable_rows (c : Context) :
    ∀ row ∈ General.rows c, (row.2.named row.1).signature.IsCallable := by
  cases c
  all_goals
    simp only [rows, scalarRules, aggregateRules, windowRules, List.forall_mem_cons]
    and_intros
    all_goals
      first
      | exact List.forall_mem_nil _
      | decide

theorem Postgres.isCallable_rows (c : Context) :
    ∀ row ∈ Postgres.rows c, (row.2.named row.1).signature.IsCallable := by
  cases c
  all_goals
    simp only [rows, scalarRules, aggregateRules, windowRules, List.forall_mem_append,
      List.forall_mem_cons, List.forall_mem_map]
    and_intros
    all_goals
      first
      | exact List.forall_mem_nil _
      | decide

theorem General.expandsBound_rows (c : Context) :
    ∀ row ∈ General.rows c, (row.2.named row.1).ExpandsBound := by
  cases c
  all_goals
    simp only [rows, scalarRules, aggregateRules, windowRules, List.forall_mem_cons]
    and_intros
    all_goals
      first
      | exact List.forall_mem_nil _
      | exact fun _ _ _ _ _ _ _ _ _ => takesArguments_ok _
      | exact Rule.expandsBound_log

theorem Postgres.expandsBound_rows (c : Context) :
    ∀ row ∈ Postgres.rows c, (row.2.named row.1).ExpandsBound := by
  cases c
  all_goals
    simp only [rows, scalarRules, aggregateRules, windowRules, List.forall_mem_append,
      List.forall_mem_cons, List.forall_mem_map]
    and_intros
    all_goals
      first
      | exact List.forall_mem_nil _
      | exact fun _ _ _ _ _ _ _ _ _ => takesArguments_ok _
      | exact Rule.expandsBound_log
      | exact fun s _ _ _ _ _ _ _ _ => Rule.takesArguments_patternMatch _ s _
      | exact expandsBound_wday
      | exact fun s _ _ _ _ _ _ _ _ => Template.takesArguments_refused _ s _
      | exact fun unit _ s _ _ _ _ _ _ _ _ => takesArguments_period unit s _

/-! ## Functions that are refused -/

/-- A function that a backend refuses in a context, whatever its arguments. -/
def Backend.Refuses (backend : Backend) (name : String) (c : Context) : Prop :=
  backend = .postgres ∧ c = .window ∧ (name = "median" ∨ name = "quantile")

instance (backend : Backend) (name : String) (c : Context) :
    Decidable (backend.Refuses name c) := by
  unfold Backend.Refuses
  infer_instance

theorem General.kind_ne_extra_rows (c : Context) :
    ∀ row ∈ General.rows c, ∀ p ∈ (row.2.named row.1).signature, p.kind ≠ .extra := by
  cases c
  all_goals
    simp only [rows, scalarRules, aggregateRules, windowRules, List.forall_mem_cons]
    and_intros
    all_goals
      first
      | exact List.forall_mem_nil _
      | decide

/-- Only refused functions take further names. -/
theorem Postgres.refuses_rows (c : Context) :
    ∀ row ∈ Postgres.rows c, (∀ p ∈ (row.2.named row.1).signature, p.kind ≠ .extra) ∨
      Backend.postgres.Refuses row.1 c := by
  cases c
  all_goals
    simp only [rows, scalarRules, aggregateRules, windowRules, List.forall_mem_append,
      List.forall_mem_cons, List.forall_mem_map]
    and_intros
    all_goals
      first
      | exact List.forall_mem_nil _
      | decide

namespace Backend

variable {backend : Backend} {name : String} {c : Context} {r : Rule}

theorem resolve_of_refuses (h : backend.Refuses name c) :
    backend.variant.resolve name c = .ok { name, template := .refused name } := by
  obtain ⟨rfl, rfl, rfl | rfl⟩ := h <;> rfl

theorem refuses_of_extra (h : backend.variant.resolve name c = .ok r) {p : Param}
    (hp : p ∈ r.signature) (hkind : p.kind = .extra) : backend.Refuses name c := by
  obtain ⟨c', source, hc', hsource, rfl⟩ := exists_row_of_resolve_in h
  cases backend with
  | ansi => exact absurd hkind (General.kind_ne_extra_rows c' _ hsource p hp)
  | postgres =>
    rcases List.mem_append.1 hsource with hsource | hsource
    · rcases Postgres.refuses_rows c' _ hsource with hnone | hrefuses
      · exact absurd hkind (hnone p hp)
      · rcases hc' with rfl | rfl
        · exact hrefuses
        · cases hrefuses.2.1
    · exact absurd hkind (General.kind_ne_extra_rows c' _ hsource p hp)

theorem isCallable_of_resolve (h : backend.variant.resolve name c = .ok r) :
    r.signature.IsCallable :=
  forall_of_resolve (P := fun _ r => r.signature.IsCallable) General.isCallable_rows
    Postgres.isCallable_rows h

theorem expandsBound_of_resolve (h : backend.variant.resolve name c = .ok r) : r.ExpandsBound :=
  forall_of_resolve (P := fun _ r => r.ExpandsBound) General.expandsBound_rows
    Postgres.expandsBound_rows h

theorem name_of_resolve (h : backend.variant.resolve name c = .ok r) : r.name = name := by
  obtain ⟨_, source, _, rfl⟩ := exists_row_of_resolve h
  cases source <;> rfl

end Backend

/-- A refused function takes all arguments, by position and by name. -/
theorem Template.bind_refused (f : String) (args : List Value) (named : List (String × Value)) :
    (Template.refused f).signature.bind args named =
      .ok [("args", .many args), ("kwargs", .fields named)] := by
  cases args with
  | nil =>
    exact Signature.bind_eq_ok_iff_deal.2 ⟨[], named, rfl,
      .inr ⟨.extra "kwargs", .tail _ (.head _), rfl⟩, rfl⟩
  | cons v vs =>
    exact Signature.bind_eq_ok_iff_deal.2 ⟨[("args", .many (v :: vs))], named, rfl,
      .inr ⟨.extra "kwargs", .tail _ (.head _), rfl⟩, rfl⟩

/-! ## Passing arguments -/

/-- Arguments are passed as they should be: those that do not bind are refused with the name
    of the rule and its parameters, and those that bind and are let pass are what the
    template is called with, which does not fail by the way they are passed. -/
structure Rule.PassesArguments (r : Rule) (name : String) (s : Setting) (args : List Value)
    (named : List (String × Value)) : Prop where
  refuses : ∀ fault, r.signature.bind args named = .error fault → r.build s args named =
    .error (.invalidArgument name (.texts r.parameters) (.binding r.signature.arity fault))
  accepts : ∀ bound given, r.signature.bind args named = .ok bound →
    validate s.backend r.validators bound = .ok given →
      (∀ v, r.template.called.bind (v :: r.signature.callArgs given)
        (r.signature.callNamed given) = .ok ((settingParameter, .one v) :: given)) ∧
      TakesArguments (r.build s args named)

/-- A refused function says so, unless its setting is passed to it twice. -/
theorem Rule.build_refused (name : String) (s : Setting) (args : List Value)
    (named : List (String × Value)) :
    Rule.build { name, template := .refused name } s args named =
      if settingParameter ∈ named.map (·.1) then .error (.lapse .argumentShape)
      else .error (.ambiguous name s.context.text (some s.backend.displayName)) := by
  have hextra : Arguments.extraNames [("args", .many args), ("kwargs", .fields named)] =
      named.map (·.1) := by simp [Arguments.extraNames]
  rw [build, signature, Template.bind_refused]
  simp only [validate, ok_bind, Template.apply, hextra, List.contains_iff_mem]
  split <;> rfl

/-- The arguments of a rule that a backend resolves are passed as they should be, exactly
    unless it is a refused function and the setting is named among them. -/
theorem Backend.passes_iff_unnamed {backend : Backend} {name : String} {c : Context} {r : Rule}
    (hresolve : backend.variant.resolve name c = .ok r) {s : Setting} {week : Value}
    (hweek : Options.checkWeekStart s.options.weekStart = .ok week) (args : List Value)
    (named : List (String × Value)) : r.PassesArguments name s args named ↔
      (backend.Refuses name c → settingParameter ∉ named.map (·.1)) := by
  have hsig := isCallable_of_resolve hresolve
  have hfree : settingParameter ∉ r.signature.names := (List.nodup_cons.1 hsig.1).1
  constructor
  · rintro ⟨_, haccepts⟩ hrefuses hnamed
    obtain rfl := Except.ok.inj (hresolve.symm.trans (resolve_of_refuses hrefuses))
    have hbind := Template.bind_refused name args named
    have hvalidate : validate s.backend [] [("args", .many args), ("kwargs", .fields named)] =
      .ok [("args", .many args), ("kwargs", .fields named)] := rfl
    have hcalled := (haccepts _ _ hbind hvalidate).1 .null
    rw [Rule.bind_called hsig hbind hvalidate, if_pos hnamed] at hcalled
    cases hcalled
  · intro hnot
    refine ⟨fun fault hfault => ?_, fun bound given hbind hvalidate => ?_⟩
    · simp only [Rule.build, hfault, name_of_resolve hresolve]
    -- a setting that is named among the arguments is a further name
    have hunnamed : settingParameter ∉ named.map (·.1) := by
      intro hnamed
      have hmem := (Signature.mem_extraNames_bind_iff hsig.names_nodup hfree hbind).2 hnamed
      rcases Signature.further_eq_nil_or (Signature.isBound_bind hsig.names_nodup hbind) with
        hnil | ⟨p, hp, hkind⟩
      · rw [Arguments.extraNames_eq, hnil] at hmem
        cases hmem
      · exact hnot (refuses_of_extra hresolve hp hkind) hnamed
    refine ⟨fun v => by rw [Rule.bind_called hsig hbind hvalidate, if_neg hunnamed], ?_⟩
    have hextra : given.extraNames.contains settingParameter = false := by
      rw [← Rule.mem_extraNames_iff hsig hbind hvalidate] at hunnamed
      simpa using hunnamed
    simp only [Rule.build, hbind, hvalidate, ok_bind, Template.apply, hextra]
    refine TakesArguments.bind ?_ fun v _ => ?_
    · exact expandsBound_of_resolve hresolve s week args named bound given hweek hbind hvalidate
    · split
      · exact takesArguments_ok _
      · exact takesArguments_error (by simp)

namespace Translator

variable {t : Translator} {c : Context} {w : Window} {name : String} {r : Rule}

/-- Arguments of a function are passed to the rule that is resolved as they should be, exactly
    unless it is refused in the context and its setting is named among them. A refused
    function then complains about that, and in all other cases says that it is refused. -/
theorem passesArguments_iff (hresolve : t.dialect.backend.variant.resolve name c = .ok r)
    {week : Value} (hweek : Options.checkWeekStart t.options.weekStart = .ok week)
    (args : List Value) (named : List (String × Value)) :
    (r.PassesArguments name (t.setting c w) args named ↔
      (t.dialect.backend.Refuses name c → settingParameter ∉ named.map (·.1))) ∧
    ∀ values table, t.dialect.backend.Refuses name c →
      (t.arguments c w values).outcome = .ok args →
      (t.namedArguments c w (NameTable.ofList table)).outcome = .ok named →
      ((t.translate (.ok c) w (.call name values table)).outcome =
          .error (.ambiguous name c.text (some t.dialect.backend.displayName)) ↔
        settingParameter ∉ named.map (·.1)) := by
  refine ⟨Backend.passes_iff_unnamed hresolve hweek args named,
    fun values table hrefuses hargs hnamed => ?_⟩
  obtain rfl := Except.ok.inj (hresolve.symm.trans (Backend.resolve_of_refuses hrefuses))
  rw [outcome_translate_call hresolve hargs hnamed, Rule.build_refused]
  split
  next hmem => simp [hmem]
  next hmem => simp [hmem, setting]

/-- The median of a column over a window, with nothing else passed. -/
theorem passesArguments_iff_median :
    let t : Translator := { dialect := .standard .postgres }
    Rule.PassesArguments { name := "median", template := .refused "median" } "median"
        (t.setting .window {}) [.sql (.ident "x" none)] [] ∧
      (t.translate (.ok .window) {} (.call "median" [.column "x" none] [])).outcome =
        .error (.ambiguous "median" "window" (some "PostgreSQL")) := by
  intro t
  have hrefuses : t.dialect.backend.Refuses "median" .window := by decide
  have hweek : Options.checkWeekStart t.options.weekStart = .ok (.whole 7) := rfl
  obtain ⟨hpasses, htranslates⟩ := passesArguments_iff (w := {})
    (Backend.resolve_of_refuses hrefuses) hweek [.sql (.ident "x" none)] []
  exact ⟨hpasses.2 fun _ => nofun,
    (htranslates [.column "x" none] [] hrefuses rfl rfl).2 nofun⟩

/-- An argument with the name of the setting is passed on to a template that takes it for the
    setting, and so gets it twice. -/
theorem not_passesArguments_setting :
    let t : Translator := { dialect := .standard .postgres }
    ¬Rule.PassesArguments { name := "median", template := .refused "median" } "median"
        (t.setting .window {}) [.sql (.ident "x" none)] [("ctx", .whole 1)] ∧
      (t.translate (.ok .window) {}
        (.call "median" [.column "x" none] [("ctx", .whole 1)])).outcome =
        .error (.lapse .argumentShape) := by
  refine ⟨fun h => ?_, rfl⟩
  obtain ⟨_, hbuild⟩ := h.accepts _ _ (Template.bind_refused _ _ _) rfl
  exact hbuild rfl

end Translator

end SqlDialects
