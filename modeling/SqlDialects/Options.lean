-- SUMMARY: Options of translation and probing, from settings and from the environment.
import SqlDialects.Journal
import SqlDialects.NameTable
import SqlDialects.Number.Reading
import SqlDialects.Text.Casing
import SqlDialects.Value.Comparison
import SqlDialects.Value.Parts

/-!
# Options

Three options have defaults and may be set by name. The environment may set
them too: every variable that is there and not empty is read first, and
settings win over it afterwards. A first day of the week may be a column or a call
too, since any comparison of one counts as true.
-/

namespace SqlDialects

structure Options where
  /-- The first day of a week: 1 is Monday, 7 is Sunday. -/
  weekStart : Value := .whole 7
  /-- From how many milliseconds on a query is slow. -/
  slowQueryMs : Scalar := .number (.whole 100)
  logLevel : Value := .whole Level.info

instance : Inhabited Options := ⟨{}⟩

namespace Options

def refuseWeekStart (v : Value) : Except Error Value := do
  throw (.configuration (.weekStart (← v.shown)))

theorem refuseWeekStart_ne_ok {v w : Value} : refuseWeekStart v ≠ .ok w := by
  unfold refuseWeekStart
  cases v.shown <;> nofun

/-- A first day of a week: from 1 to 7, and no truth value. -/
def checkWeekStart (v : Value) : Except Error Value :=
  match v with
  | .scalar (.bool b) => refuseWeekStart (.bool b)
  | v => do
    if !(← (Number.whole 1).isAtMost v) then refuseWeekStart v
    else if !(← (Number.whole 7).isAtLeast v) then refuseWeekStart v
    else return v

/-- A length of time that is not negative. -/
def checkSlowQuery (v : Value) : Except Error Scalar := do
  if ← (Number.whole 0).isAbove v then throw (.configuration .negativeSlowQuery)
  match v with
  | .scalar s => return s
  | _ => throw (.lapse .unordered)

/-- The names of the options. -/
def settingNames : List String := ["week_start", "slow_query_ms", "log_level"]

/-- Options from named settings. -/
def ofSettings (settings : List (String × Value)) : Except Error Options :=
  let settings := NameTable.ofList settings
  if settings.any fun s => !settingNames.contains s.1 then .error (.lapse .argumentShape)
  else do
    let defaults : Options := {}
    let weekStart ← checkWeekStart ((settings.lookup "week_start").getD defaults.weekStart)
    let slowQueryMs ←
      checkSlowQuery ((settings.lookup "slow_query_ms").getD (.scalar defaults.slowQueryMs))
    let logLevel := (settings.lookup "log_level").getD defaults.logLevel
    return { weekStart, slowQueryMs, logLevel }

-- ---------------------------------------------------------------------------
-- Environment
-- ---------------------------------------------------------------------------

/-- Variables and their texts; of several texts of one variable the last counts. -/
abbrev Environment := List (String × String)

/-- An environment of given variables. A name has no sign of equality in it, and
    neither a name nor a text has a NUL character. -/
def environmentOf : List (String × String) → Except Error Environment
  | [] => .ok []
  | (name, text) :: rest => do
    let nul := Char.ofNat 0
    if name.contains '=' || name.contains nul || text.contains nul then
      throw (.lapse .badVariable)
    if name = "" then throw (.lapse .namelessVariable)
    let rest ← environmentOf rest
    return (name, text) :: rest

/-- The text of a variable, when it is there and not empty. -/
def textOf? (env : Environment) (key : String) : Option String :=
  match env.reverse.lookup key with
  | some s => if s = "" then none else some s
  | none => none

def readWholeSetting (key s : String) : Except Error Value :=
  match readWhole? s with
  | some n => .ok (.whole n)
  | none => .error (.configuration (.wholeText key s))

/-- A level by its name, in any case and between white space. -/
def readLevelSetting (key s : String) : Except Error Value :=
  let name := Text.toUpper (Text.strip s)
  if Level.configurable.contains name then .ok (.whole ((Level.ofName? name).getD 0))
  else .error (.configuration (.levelText key s))

/-- The variable of an option, the option, and how its text is read. -/
def environmentVariables : List (String × String × (String → String → Except Error Value)) :=
  [("SQLVARIANT_WEEK_START", "week_start", readWholeSetting),
   ("SQLVARIANT_SLOW_QUERY_MS", "slow_query_ms", readWholeSetting),
   ("SQLVARIANT_LOG_LEVEL", "log_level", readLevelSetting)]

/-- The settings that the environment makes. -/
def environmentSettings (env : Environment) : Except Error (List (String × Value)) :=
  environmentVariables.foldlM (fun settings (key, setting, read) =>
    match textOf? env key with
    | none => .ok settings
    | some s => do
      let v ← read key s
      return settings ++ [(setting, v)]) []

/-- Options from the environment and from settings, which win over it. -/
def ofEnvironment (env : Environment) (settings : List (String × Value)) :
    Except Error Options := do
  let fromEnvironment ← environmentSettings env
  ofSettings (fromEnvironment ++ settings)

end Options

end SqlDialects
