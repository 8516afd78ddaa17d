-- SUMMARY: Settings win over the environment, except that the text of every variable is read first.
import Mathlib
import SqlDialects.Options
import SqlDialects.Proofs.Steps

/-!
# Settings and the environment

The variables of the environment are read before the settings are looked at, and the
first text that cannot be read ends everything. When all texts can be read, an option
that is set is taken from its setting, and no variable of it counts. So what an
environment says of the options that are set shows in one way only: by the first text
in it that cannot be read.
-/

namespace SqlDialects

/-! ## Tables -/

theorem NameTable.names_append {α : Type} (table table' : NameTable α) :
    names (table ++ table') = names table ++ names table' := List.map_append

/-- A table of more pairs is the table of the first, with the others put into it. -/
theorem NameTable.ofList_append_singleton {α : Type} (pairs : List (String × α))
    (pair : String × α) : ofList (pairs ++ [pair]) = put (ofList pairs) pair.1 pair.2 := by
  rw [ofList, List.foldl_append]
  rfl

/-- Pairs that are put later win. -/
theorem NameTable.lookup_ofList_append {α : Type} (pairs later : List (String × α))
    (name : String) : (ofList (pairs ++ later)).lookup name =
      ((ofList later).lookup name).or ((ofList pairs).lookup name) := by
  induction later using List.reverseRecOn with
  | nil => simp [ofList]
  | append_singleton later pair ih =>
    rw [← List.append_assoc, ofList_append_singleton, ofList_append_singleton, lookup_put,
      lookup_put, ih]
    split <;> rfl

theorem NameTable.mem_names_ofList_iff {α : Type} (pairs : List (String × α)) (name : String) :
    name ∈ names (ofList pairs) ↔ name ∈ names pairs := by
  induction pairs using List.reverseRecOn with
  | nil => rfl
  | append_singleton pairs pair ih =>
    rw [ofList_append_singleton, names_put, names_append, List.mem_append, ← ih]
    have hlast : name ∈ names [pair] ↔ name = pair.1 := List.mem_singleton
    rw [hlast]
    split
    next h =>
      refine ⟨.inl, ?_⟩
      rintro (hmem | rfl)
      · exact hmem
      · exact h
    next => rw [List.mem_append, List.mem_singleton]

namespace Options

/-! ## Reading variables -/

/-- A variable, the option that it sets, and how its text is read. -/
abbrev Variable := String × String × (String → String → Except Error Value)

/-- What the text of a variable is read as, where there is one. -/
def readVariable? (env : Environment) : Variable → Option (Except Error Value)
  | (key, _, read) => (textOf? env key).map (read key)

/-- The setting that a variable makes, where its text can be read. -/
def settingOf? (env : Environment) (v : Variable) : Option (String × Value) :=
  match readVariable? env v with
  | some (.ok value) => some (v.2.1, value)
  | _ => none

/-- Why the text of a variable cannot be read, where it cannot. -/
def faultOf? (env : Environment) (v : Variable) : Option Error :=
  match readVariable? env v with
  | some (.error e) => some e
  | _ => none

/-- Why the first text that cannot be read cannot be read. -/
def readFault? (env : Environment) : Option Error :=
  environmentVariables.findSome? (faultOf? env)

/-- The settings of the variables whose texts can be read. -/
def readSettings (env : Environment) : List (String × Value) :=
  environmentVariables.filterMap (settingOf? env)

/-- Going through variables, where one step adds the setting of one or fails. -/
theorem foldlM_settings {env : Environment}
    {step : List (String × Value) → Variable → Except Error (List (String × Value))}
    (hstep : ∀ settings v, step settings v =
      (faultOf? env v).elim (.ok (settings ++ (settingOf? env v).toList)) .error)
    (vs : List Variable) (settings : List (String × Value)) :
    vs.foldlM step settings =
      (vs.findSome? (faultOf? env)).elim (.ok (settings ++ vs.filterMap (settingOf? env)))
        .error := by
  induction vs generalizing settings with
  | nil => simp [pure, Except.pure]
  | cons v vs ih =>
    rw [List.foldlM_cons, List.findSome?_cons, List.filterMap_cons, hstep]
    cases hfault : faultOf? env v with
    | some e => rfl
    | none =>
      rw [Option.elim_none, ok_bind, ih]
      cases settingOf? env v <;> simp

/-- The environment makes the settings of its variables, unless a text cannot be read. -/
theorem environmentSettings_eq (env : Environment) :
    environmentSettings env = (readFault? env).elim (.ok (readSettings env)) .error := by
  refine foldlM_settings (fun settings v => ?_) environmentVariables []
  obtain ⟨key, setting, read⟩ := v
  cases htext : textOf? env key with
  | none => simp [faultOf?, settingOf?, readVariable?, htext]
  | some s =>
    cases hread : read key s with
    | error e => simp [faultOf?, readVariable?, htext, hread, bind, Except.bind]
    | ok value =>
      simp [faultOf?, settingOf?, readVariable?, htext, hread, ok_bind, pure, Except.pure]

/-- A variable sets its own option. -/
theorem eq_of_settingOf? {env : Environment} {v : Variable} {setting : String × Value}
    (h : settingOf? env v = some setting) : setting.1 = v.2.1 := by
  rw [settingOf?] at h
  split at h
  · cases h
    rfl
  · cases h

/-- What can be read sets options that there are. -/
theorem mem_settingNames_of_mem_readSettings {env : Environment} {name : String}
    (h : name ∈ NameTable.names (readSettings env)) : name ∈ settingNames := by
  have hnames : ∀ v ∈ environmentVariables, v.2.1 ∈ settingNames := by decide
  obtain ⟨setting, hsetting, rfl⟩ := List.mem_map.1 h
  obtain ⟨v, hv, hv'⟩ := List.mem_filterMap.1 hsetting
  exact eq_of_settingOf? hv' ▸ hnames v hv

/-- What is found under a name is told by the variables of the option of that name. -/
theorem lookup_readSettings_congr {env env' : Environment} {name : String}
    (h : ∀ v ∈ environmentVariables, v.2.1 = name → textOf? env v.1 = textOf? env' v.1) :
    (NameTable.ofList (readSettings env)).lookup name =
      (NameTable.ofList (readSettings env')).lookup name := by
  have hlast (pairs : List (String × Value)) (env : Environment) (v : Variable) :
      (NameTable.ofList (pairs ++ [v].filterMap (settingOf? env))).lookup name =
        if name = v.2.1 then ((settingOf? env v).map Prod.snd).or
          ((NameTable.ofList pairs).lookup name)
        else (NameTable.ofList pairs).lookup name := by
    cases hsetting : settingOf? env v with
    | none => simp [hsetting]
    | some setting =>
      simp [hsetting, NameTable.ofList_append_singleton, NameTable.lookup_put,
        eq_of_settingOf? hsetting]
  have hvariables (vs : List Variable)
      (h : ∀ v ∈ vs, v.2.1 = name → textOf? env v.1 = textOf? env' v.1) :
      (NameTable.ofList (vs.filterMap (settingOf? env))).lookup name =
        (NameTable.ofList (vs.filterMap (settingOf? env'))).lookup name := by
    induction vs using List.reverseRecOn with
    | nil => rfl
    | append_singleton vs v ih =>
      rw [List.filterMap_append, List.filterMap_append, hlast, hlast,
        ih fun v hv => h v (List.mem_append_left _ hv)]
      split
      next hname =>
        have htext := h v (List.mem_append_right _ List.mem_cons_self) hname.symm
        rw [settingOf?, settingOf?, readVariable?, readVariable?, htext]
      next => rfl
  exact hvariables environmentVariables h

/-! ## Errors of reading -/

/-- Why a text cannot be read, and nothing else. -/
def isReadFault : Error → Bool
  | .configuration (.wholeText ..) => true
  | .configuration (.levelText ..) => true
  | _ => false

theorem isReadFault_of_readFault? {env : Environment} {e : Error} (h : readFault? env = some e) :
    isReadFault e = true := by
  have hwhole {key s : String} (h : readWholeSetting key s = .error e) : isReadFault e = true := by
    rw [readWholeSetting] at h
    split at h
    · cases h
    · cases h
      rfl
  have hlevel {key s : String} (h : readLevelSetting key s = .error e) : isReadFault e = true := by
    simp only [readLevelSetting] at h
    split at h
    · cases h
    · cases h
      rfl
  have hread : ∀ v ∈ environmentVariables, ∀ s, v.2.2 v.1 s = .error e → isReadFault e = true := by
    simp only [environmentVariables, List.forall_mem_cons]
    exact ⟨fun _ => hwhole, fun _ => hwhole, fun _ => hlevel, List.forall_mem_nil _⟩
  obtain ⟨v, hv, hfault⟩ := List.exists_of_findSome?_eq_some h
  rw [faultOf?] at hfault
  split at hfault
  next e' hvariable =>
    cases hfault
    obtain ⟨s, _, hs⟩ := Option.map_eq_some_iff.1 hvariable
    exact hread v hv s hs
  next => cases hfault

/-- A step that reads no text, so it does not fail as reading does. -/
def ReadsNothing {α : Type} (x : Except Error α) : Prop :=
  ∀ e, x = .error e → isReadFault e = false

section

variable {α β : Type}

theorem readsNothing_ok (a : α) : ReadsNothing (Except.ok a) := nofun

theorem readsNothing_error {e : Error} (h : isReadFault e = false) :
    ReadsNothing (Except.error e : Except Error α) := by
  intro e' he
  cases he
  exact h

theorem ReadsNothing.bind {x : Except Error α} {f : α → Except Error β} (hx : ReadsNothing x)
    (hf : ∀ a, ReadsNothing (f a)) : ReadsNothing (x >>= f) := by
  cases x with
  | error e => exact fun e' h => hx e' (congrArg _ (Except.error.inj h))
  | ok a => exact hf a

theorem ReadsNothing.ite {c : Prop} [Decidable c] {x y : Except Error α} (hx : ReadsNothing x)
    (hy : ReadsNothing y) : ReadsNothing (if c then x else y) := by
  split
  · exact hx
  · exact hy

end

theorem readsNothing_relates (n : Number) (v : Value) (accepts : Ordering → Bool) :
    ReadsNothing (n.relates v accepts) := by
  have hlapse (l : Lapse) : ReadsNothing (Except.error (.lapse l) : Except Error Bool) :=
    readsNothing_error rfl
  unfold Number.relates
  split
  · split
    · split
      · exact readsNothing_ok _
      · exact .ite (hlapse _) (readsNothing_ok _)
    · exact hlapse _
  · exact .ite (readsNothing_ok _) (hlapse _)

theorem readsNothing_refuseWeekStart (v : Value) : ReadsNothing (refuseWeekStart v) := by
  have hshown : ReadsNothing v.shown := .ite (readsNothing_ok _) (readsNothing_error rfl)
  exact hshown.bind fun _ => readsNothing_error rfl

theorem readsNothing_checkWeekStart (v : Value) : ReadsNothing (checkWeekStart v) := by
  unfold checkWeekStart
  split
  · exact readsNothing_refuseWeekStart _
  · refine (readsNothing_relates _ _ _).bind fun _ => .ite (readsNothing_refuseWeekStart _) ?_
    exact (readsNothing_relates _ _ _).bind fun _ =>
      .ite (readsNothing_refuseWeekStart _) (readsNothing_ok _)

theorem readsNothing_checkSlowQuery (v : Value) : ReadsNothing (checkSlowQuery v) := by
  refine (readsNothing_relates _ _ _).bind fun _ => .ite (readsNothing_error rfl) ?_
  split
  · exact readsNothing_ok _
  · exact readsNothing_error rfl

theorem readsNothing_ofSettings (settings : List (String × Value)) :
    ReadsNothing (ofSettings settings) := by
  refine .ite (readsNothing_error rfl) ?_
  refine (readsNothing_checkWeekStart _).bind fun _ => ?_
  exact (readsNothing_checkSlowQuery _).bind fun _ => readsNothing_ok _

/-! ## Settings that win -/

/-- Two environments have the same texts for the options that no setting gives. A
    variable that is missing and an empty one count as the same. -/
def AgreeBeside (settings : List (String × Value)) (env env' : Environment) : Prop :=
  ∀ v ∈ environmentVariables, v.2.1 ∉ NameTable.names settings → textOf? env v.1 = textOf? env' v.1

/-- Options are made of what is found under their names, if no other names are set. -/
theorem ofSettings_congr {settings settings' : List (String × Value)}
    (hnames : ∀ name ∉ settingNames,
      (name ∈ NameTable.names settings ↔ name ∈ NameTable.names settings'))
    (hlookup : ∀ name ∈ settingNames, (NameTable.ofList settings).lookup name =
      (NameTable.ofList settings').lookup name) : ofSettings settings = ofSettings settings' := by
  have hany (settings : List (String × Value)) :
      ((NameTable.ofList settings).any fun s => !settingNames.contains s.1) = true ↔
        ∃ name, name ∉ settingNames ∧ name ∈ NameTable.names settings := by
    rw [List.any_eq_true]
    constructor
    · rintro ⟨setting, hsetting, hname⟩
      refine ⟨setting.1, by simpa using hname, ?_⟩
      exact (NameTable.mem_names_ofList_iff settings _).1 (List.mem_map_of_mem hsetting)
    · rintro ⟨name, hname, hmem⟩
      rw [← NameTable.mem_names_ofList_iff] at hmem
      obtain ⟨setting, hsetting, rfl⟩ := List.mem_map.1 hmem
      exact ⟨setting, hsetting, by simpa using hname⟩
  have hunknown : ((NameTable.ofList settings).any fun s => !settingNames.contains s.1) =
      (NameTable.ofList settings').any fun s => !settingNames.contains s.1 := by
    rw [Bool.eq_iff_iff, hany, hany]
    exact exists_congr fun name => and_congr_right fun hname => hnames name hname
  rw [ofSettings, ofSettings, hunknown, hlookup "week_start" (by decide),
    hlookup "slow_query_ms" (by decide), hlookup "log_level" (by decide)]

/-- Where all texts can be read, settings win over the environment. -/
theorem ofSettings_readSettings_congr {settings : List (String × Value)} {env env' : Environment}
    (h : AgreeBeside settings env env') :
    ofSettings (readSettings env ++ settings) = ofSettings (readSettings env' ++ settings) := by
  have hunknown (env : Environment) {name : String} (hname : name ∉ settingNames) :
      name ∈ NameTable.names (readSettings env ++ settings) ↔ name ∈ NameTable.names settings := by
    rw [NameTable.names_append, List.mem_append, or_iff_right]
    exact fun hmem => hname (mem_settingNames_of_mem_readSettings hmem)
  refine ofSettings_congr (fun name hname => ?_) (fun name _ => ?_)
  · rw [hunknown env hname, hunknown env' hname]
  · rw [NameTable.lookup_ofList_append, NameTable.lookup_ofList_append]
    cases hset : (NameTable.ofList settings).lookup name with
    | some value => rfl
    | none =>
      have hname : name ∉ NameTable.names settings := by
        rw [← NameTable.mem_names_ofList_iff, NameTable.names, mem_names_iff_lookup, hset]
        exact Bool.false_ne_true
      rw [lookup_readSettings_congr fun v hv hoption => h v hv (hoption ▸ hname)]

theorem ofEnvironment_eq (env : Environment) (settings : List (String × Value)) :
    ofEnvironment env settings =
      (readFault? env).elim (ofSettings (readSettings env ++ settings)) .error := by
  rw [ofEnvironment, environmentSettings_eq]
  cases readFault? env <;> rfl

/-- Two environments that differ only in variables of options that are set give the same
    options, or fail in the same way, exactly when the first text that cannot be read is
    the same in both, or there is none in either. -/
theorem ofEnvironment_eq_iff {settings : List (String × Value)} {env env' : Environment}
    (h : AgreeBeside settings env env') :
    ofEnvironment env settings = ofEnvironment env' settings ↔
      readFault? env = readFault? env' := by
  -- no error that comes after reading is one of reading
  have hne {env env' : Environment} {e : Error} (hfault : readFault? env = some e) :
      ofSettings (readSettings env' ++ settings) ≠ .error e := by
    intro hsettings
    have hread := isReadFault_of_readFault? hfault
    rw [readsNothing_ofSettings _ e hsettings] at hread
    cases hread
  rw [ofEnvironment_eq, ofEnvironment_eq]
  cases hfault : readFault? env with
  | none =>
    cases hfault' : readFault? env' with
    | none => exact iff_of_true (ofSettings_readSettings_congr h) rfl
    | some e' => exact iff_of_false (hne hfault') (Option.some_ne_none e').symm
  | some e =>
    cases hfault' : readFault? env' with
    | none => exact iff_of_false (fun heq => hne hfault heq.symm) (Option.some_ne_none e)
    | some e' => simp

/-- An environment whose texts can all be read makes no difference to an option that is set. -/
theorem ofEnvironment_eq_iff_tuesday :
    let settings := [("week_start", Value.whole 3)]
    let env : Environment := [("SQLVARIANT_WEEK_START", "2"), ("SQLVARIANT_LOG_LEVEL", "debug")]
    let env' : Environment := [("SQLVARIANT_LOG_LEVEL", "debug")]
    AgreeBeside settings env env' ∧
      ofEnvironment env settings = ofEnvironment env' settings := by
  intro settings env env'
  have hagree : AgreeBeside settings env env' := by
    simp [AgreeBeside, environmentVariables, NameTable.names, NameTable.lookup_cons, settings, env,
      env', textOf?]
  have hfault : readFault? env = none := by decide +kernel
  have hfault' : readFault? env' = none := by decide +kernel
  exact ⟨hagree, (ofEnvironment_eq_iff hagree).2 (hfault.trans hfault'.symm)⟩

/-- A text that cannot be read is read although another value is set for its option. -/
theorem not_ofEnvironment_eq_monday :
    let settings := [("week_start", Value.whole 3)]
    let env : Environment := [("SQLVARIANT_WEEK_START", "monday")]
    AgreeBeside settings env [] ∧
      ofEnvironment env settings =
        .error (.configuration (.wholeText "SQLVARIANT_WEEK_START" "monday")) ∧
      ofEnvironment [] settings = .ok { weekStart := .whole 3 } := by
  intro settings env
  refine ⟨?_, ?_, ?_⟩
  · simp [AgreeBeside, environmentVariables, NameTable.names, settings, env, textOf?]
  · cbv
  · cbv

end Options

end SqlDialects
