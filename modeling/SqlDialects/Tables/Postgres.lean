-- SUMMARY: The translations PostgreSQL has of its own, by context.
import SqlDialects.Dialect.Literal
import SqlDialects.Host
import SqlDialects.Rule.Patterns
import SqlDialects.Tables.General

/-!
# PostgreSQL tables

What is not listed here translates as in the general tables.
-/

namespace SqlDialects.Postgres

def dateTruncUnits : List String :=
  ["second", "minute", "hour", "day", "week", "month", "quarter", "year"]

def periodUnits : List String :=
  ["seconds", "minutes", "hours", "days", "weeks", "months", "years"]

-- ---------------------------------------------------------------------------
-- Numbers and patterns
-- ---------------------------------------------------------------------------

/-- Rounding to digits exists for exact numbers only. -/
def round : Rule where
  name := "round"
  template := .pure [.required "x", .optional "digits" (.whole 0)] fun args =>
    .callOf "round" [.sql (.cast (args.value "x").toExpr "numeric"), args.value "digits"]
  validators := [("digits", [.wholeNumber false none none])]

def log10 : Template := .call₁ "log"

/-- One of two operators, the second where case is ignored. -/
def caseOperator (exact ignoring : String) (ignoreCase : Value) : String :=
  if ignoreCase.isTruthy then ignoring else exact

def grepl : Rule where
  name := "grepl"
  template := .pure
    [.required "pattern", .required "x", .optional "ignore_case" (.bool false),
     .optional "perl" (.bool false), .optional "fixed" (.bool false),
     .optional "use_bytes" (.bool false)] fun args =>
    .binaryOf (caseOperator "~" "~*" (args.value "ignore_case")) (args.value "x")
      (args.value "pattern")
  validators :=
    [("ignore_case", [.boolean]),
     ("perl", [.allowed [.bool false] false]),
     ("fixed", [.allowed [.bool false] false]),
     ("use_bytes", [.allowed [.bool false] false])]

def locate : Template :=
  .pure [.required "string", .required "pattern"] fun args =>
    .callOf "strpos" [args.value "string", args.value "pattern"]

def like : Rule where
  name := "str_like"
  template := .pure
    [.required "string", .required "pattern", .optional "ignore_case" (.bool true)] fun args =>
    .binaryOf (caseOperator "LIKE" "ILIKE" (args.value "ignore_case")) (args.value "string")
      (args.value "pattern")
  validators := [("ignore_case", [.boolean])]

/-- `regexp_replace` of a text and a pattern, with what follows them. -/
def regexReplace (args : Arguments) (further : List Value) : Expr :=
  .callOf "regexp_replace" ([args.value "string", args.value "pattern"] ++ further)

def replaceSignature : Signature :=
  [.required "string", .required "pattern", .required "replacement"]

def replace : Template :=
  .pure replaceSignature fun args => regexReplace args [args.value "replacement"]

def replaceAll : Template :=
  .pure replaceSignature fun args => regexReplace args [args.value "replacement", .text "g"]

def squish : Template :=
  .pure [.required "string"] fun args =>
    let collapsed := Expr.callOf "regexp_replace"
      [args.value "string", .text "\\s+", .text " ", .text "g"]
    .callOf "ltrim" [.sql (.callOf "rtrim" [.sql collapsed])]

def remove : Template :=
  .pure [.required "string", .required "pattern"] fun args => regexReplace args [.text ""]

def removeAll : Template :=
  .pure [.required "string", .required "pattern"] fun args =>
    regexReplace args [.text "", .text "g"]

-- ---------------------------------------------------------------------------
-- Dates
-- ---------------------------------------------------------------------------

/-- `EXTRACT(part FROM x)`. -/
def part (name : String) : Template :=
  .pure [.required "x"] fun args => .extract name (args.value "x")

/-- The day of the week counted from a first day: the day number of a date shifted
    by the days that day is short of a full week. -/
def weekday (x shift : Value) : Expr :=
  let shifted := Expr.binaryOf "+" (.sql (.callOf "DATE" [x])) shift
  .binaryOf "+" (.sql (.extract "dow" (.sql shifted))) (.whole 1)

/-- Seven less a first day. A column or a call is subtracted by a call. -/
def daysShort : Value → Except Error Value
  | .scalar (.number n) =>
    match n.subFrom? 7 with
    | some n => .ok (.number n)
    | none => .error (.lapse .decimalOverflow)
  | v => Host.apply .sub [.whole 7, v]

/-- The days a first day is short of a week; the option's first day counts where
    none is given. -/
def weekShift (options : Options) : Value → Except Error Value
  | .scalar .null => daysShort options.weekStart
  | v => daysShort v

/-- The name of a day or month in a format. -/
def named (x : Value) (format : String) : Expr := .callOf "TO_CHAR" [x, .text format]

def wday : Rule where
  name := "wday"
  template := ⟨
    [.required "x", .optional "label" (.bool false), .optional "abbr" (.bool true),
     .optional "week_start" .null],
    fun s args =>
      let x := args.value "x"
      if !(args.value "label").isTruthy then do
        let shift ← weekShift s.options (args.value "week_start")
        return .sql (weekday x shift)
      else if !(args.value "abbr").isTruthy then .ok (.sql (named x "Day"))
      else .ok (.sql (.callOf "SUBSTR" [.sql (named x "Day"), .whole 1, .whole 3]))⟩
  validators :=
    [("label", [.boolean]), ("abbr", [.boolean]),
     ("week_start", [.wholeNumber true (some (.whole 1)) (some (.whole 7))])]

def week : Template :=
  .pure [.required "x"] fun args =>
    let days := Expr.binaryOf "-" (.sql (.extract "DOY" (args.value "x"))) (.whole 1)
    .binaryOf "+" (.sql (.callOf "FLOOR" [.sql (.binaryOf "/" (.sql days) (.whole 7))])) (.whole 1)

def month : Rule where
  name := "month"
  template := .pure
    [.required "x", .optional "label" (.bool false), .optional "abbr" (.bool true)] fun args =>
    let x := args.value "x"
    if !(args.value "label").isTruthy then .extract "MONTH" x
    else named x (if (args.value "abbr").isTruthy then "Mon" else "Month")
  validators := [("label", [.boolean]), ("abbr", [.boolean])]

def quarter : Rule where
  name := "quarter"
  template := .pure
    [.required "x", .optional "with_year" (.bool false), .optional "fiscal_start" (.whole 1)]
    fun args =>
      let x := args.value "x"
      if !(args.value "with_year").isTruthy then .extract "QUARTER" x
      else
        .paren (.binary "||" (.binary "||" (.extract "YEAR" x) (.literal (.text ".")))
          (.extract "QUARTER" x))
  validators := [("with_year", [.boolean]), ("fiscal_start", [.allowed [.whole 1] false])]

/-- `INTERVAL '1 unit'`. -/
def oneInterval (unit : String) : Expr := .unary "INTERVAL" (.literal (.text ("1 " ++ unit)))

/-- An interval of `x` units: a literal for a number, a product for an expression. -/
def interval (backend : Backend) (x : Value) (unit : String) : Except Error Expr :=
  if x.isStatic then
    match x.staticValue with
    | .scalar (.number (.whole n)) => do
      let count ← wholeText n
      return .cast (.literal (.text (count ++ " " ++ unit))) "INTERVAL"
    | .scalar (.number (.double n)) =>
      .ok (.cast (.literal (.text (n.text ++ " " ++ unit))) "INTERVAL")
    | _ =>
      .error (.unsupportedArgument "x" (.text "a number or a column expression")
        (some backend.displayName))
  else .ok (.paren (.binary "*" x.toExpr (oneInterval unit)))

def period (unit : String) : Template :=
  ⟨[.required "x"], fun s args => do
    let e ← interval s.backend (args.value "x") unit
    return .sql e⟩

def floorDate : Rule where
  name := "floor_date"
  template := .pure [.required "x", .optional "unit" (.text "seconds")] fun args =>
    .callOf "DATE_TRUNC" [args.value "unit", args.value "x"]
  validators :=
    [("unit", [.choice (dateTruncUnits.map .text)
      (dateTruncUnits.map fun u => (u ++ "s", .text u))])]

/-- `(x + n * INTERVAL '1 unit')`. -/
def addInterval (unit : String) : Template :=
  .pure [.required "x", .required "n"] fun args =>
    .paren (.binary "+" (args.value "x").toExpr
      (.binary "*" (args.value "n").toExpr (oneInterval unit)))

def buildDate : Rule where
  name := "date_build"
  template := .pure
    [.required "year", .optional "month" (.whole 1), .optional "day" (.whole 1),
     .named "invalid" .null] fun args =>
    .callOf "make_date" [args.value "year", args.value "month", args.value "day"]
  validators := [("invalid", [.allowed [] false])]

def daysBetween : Rule where
  name := "date_count_between"
  template := .pure
    [.required "start", .required "end", .required "precision", .named "n" (.whole 1)] fun args =>
    .binaryOf "-" (args.value "end") (args.value "start")
  validators := [("precision", [.allowed [.text "day"] false]), ("n", [.allowed [.whole 1] false])]

def datePart (name : String) : Template :=
  .pure [.required "x"] fun args => .callOf "date_part" [.text name, args.value "x"]

def difftime : Rule where
  name := "difftime"
  template := .pure
    [.required "time1", .required "time2", .optional "tz" .null,
     .optional "units" (.text "days")] fun args =>
    .paren (.binary "-" (.cast (args.value "time1").toExpr "DATE")
      (.cast (args.value "time2").toExpr "DATE"))
  validators := [("tz", [.allowed [] false]), ("units", [.allowed [.text "days"] false])]

def scalarRules : List (String × RuleSource) :=
  [("bitwXor", .template (.binary "#")),
   ("log10", .template log10),
   ("log", .rule .log),
   ("cot", .template .cotangent),
   ("round", .rule round),
   ("grepl", .rule grepl),
   ("paste", .rule (.paste (.text " "))),
   ("paste0", .rule (.paste (.text ""))),
   ("str_c", .rule (.paste (.text ""))),
   ("str_locate", .template locate),
   ("str_detect", .rule (.patternMatch .anywhere)),
   ("str_starts", .rule (.patternMatch .start)),
   ("str_ends", .rule (.patternMatch .stop)),
   ("str_like", .rule like),
   ("str_replace", .template replace),
   ("str_replace_all", .template replaceAll),
   ("str_squish", .template squish),
   ("str_remove", .template remove),
   ("str_remove_all", .template removeAll),
   ("day", .template (part "DAY")),
   ("mday", .template (part "DAY")),
   ("wday", .rule wday),
   ("yday", .template (part "DOY")),
   ("week", .template week),
   ("isoweek", .template (part "WEEK")),
   ("month", .rule month),
   ("quarter", .rule quarter),
   ("isoyear", .template (part "YEAR")),
   ("floor_date", .rule floorDate),
   ("add_days", .template (addInterval "day")),
   ("add_years", .template (addInterval "year")),
   ("date_build", .rule buildDate),
   ("date_count_between", .rule daysBetween),
   ("get_year", .template (datePart "year")),
   ("get_month", .template (datePart "month")),
   ("get_day", .template (datePart "day")),
   ("difftime", .rule difftime)] ++
  periodUnits.map fun unit => (unit, .template (period unit))

-- ---------------------------------------------------------------------------
-- Aggregate and window
-- ---------------------------------------------------------------------------

def flattenSignature : Signature := [.required "x", .optional "collapse" (.text "")]

def flattened (args : Arguments) : Expr :=
  .callOf "string_agg" [args.value "x", args.value "collapse"]

def flatten : Template := .pure flattenSignature flattened

def flattenOver : Template :=
  .windowed flattenSignature fun w args => .over (flattened args) (General.ordered w)

def aggregateRules : List (String × RuleSource) :=
  [("cor", .template (.call₂ "CORR")),
   ("cov", .template (.call₂ "COVAR_SAMP")),
   ("sd", .rule (.aggregate "STDDEV_SAMP")),
   ("var", .rule (.aggregate "VAR_SAMP")),
   ("all", .rule (.aggregate "BOOL_AND")),
   ("any", .rule (.aggregate "BOOL_OR")),
   ("str_flatten", .template flatten)]

def windowRules : List (String × RuleSource) :=
  [("cor", .template (.aggregateOver₂ "CORR")),
   ("cov", .template (.aggregateOver₂ "COVAR_SAMP")),
   ("sd", .rule (.aggregateOver "STDDEV_SAMP")),
   ("var", .rule (.aggregateOver "VAR_SAMP")),
   ("all", .rule (.aggregateOver "BOOL_AND")),
   ("any", .rule (.aggregateOver "BOOL_OR")),
   ("str_flatten", .template flattenOver),
   ("median", .template (.refused "median")),
   ("quantile", .template (.refused "quantile"))]

end SqlDialects.Postgres
