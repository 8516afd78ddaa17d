-- SUMMARY: The translations every backend shares, by context.
import SqlDialects.Rule.Shapes

/-!
# General tables

Three tables, one per context, that every backend's own tables extend.
-/

namespace SqlDialects.General

-- ---------------------------------------------------------------------------
-- Scalar
-- ---------------------------------------------------------------------------

/-- `x op y`, or what a single operand makes. -/
def signed (op : String) (single : Expr → Expr) : Template :=
  .pure [.required "x", .optional "y" (.scalar .omitted)] fun args =>
    match args.value "y" with
    | .scalar .omitted => single (args.value "x").toExpr
    | y => .binaryOf op (args.value "x") y

def plus : Template := signed "+" id

def minus : Template := signed "-" (.unary "-")

def not : Template := .pure [.required "x"] fun args => .negate (args.value "x")

/-- Membership: in the items of a tuple, or in what a value stands for. Nothing
    is in an empty tuple. -/
def isIn : Template :=
  .pure [.required "x", .required "table"] fun args =>
    match args.value "table" with
    | .tuple [] => .literal (.bool false)
    | .tuple items => .binary "IN" (args.value "x").toExpr (.group (items.map Value.toExpr))
    | table => .binary "IN" (args.value "x").toExpr (.group [table.toExpr])

def isMissing : Template :=
  .pure [.required "x"] fun args => .suffixed (args.value "x").toExpr "IS NULL"

def ifElse : Template :=
  .pure [.required "condition", .required "true", .required "false"] fun args =>
    .caseWhen [((args.value "condition").toExpr, (args.value "true").toExpr)]
      (some (args.value "false").toExpr)

def round : Rule where
  name := "round"
  template := .pure [.required "x", .optional "digits" (.whole 0)] fun args =>
    .callOf "ROUND" [args.value "x", args.value "digits"]
  validators := [("digits", [.wholeNumber false none none])]

/-- The function that trims white space on a side. -/
def trimFunction : Value → String
  | .scalar (.text "left") => "LTRIM"
  | .scalar (.text "right") => "RTRIM"
  | _ => "TRIM"

def trim : Rule where
  name := "trimws"
  template := .pure [.required "x", .optional "which" (.text "both")] fun args =>
    .callOf (trimFunction (args.value "which")) [args.value "x"]
  validators := [("which", [.choice [.text "both", .text "left", .text "right"] []])]

/-- How many characters stand from one position to another, both included. -/
def spanLength (start stop : Value) : Value :=
  match start, stop with
  | .scalar (.number (.whole a)), .scalar (.number (.whole b)) => .whole (max (b - a + 1) 0)
  | _, _ => .whole 0

def substring : Rule where
  name := "substr"
  template := .pure [.required "x", .required "start", .required "stop"] fun args =>
    let start := args.value "start"
    .callOf "SUBSTR" [args.value "x", start, spanLength start (args.value "stop")]
  validators :=
    [("start", [.wholeNumber false none none]), ("stop", [.wholeNumber false none none])]

def descending : Template :=
  .pure [.required "x"] fun args => .ordered (args.value "x").toExpr true

def scalarRules : List (String × RuleSource) :=
  [("+", .template plus),
   ("-", .template minus),
   ("*", .template (.binary "*")),
   ("/", .template (.binary "/")),
   ("%%", .template (.binary "%")),
   ("^", .template (.call₂ "POWER")),
   ("==", .template (.binary "=")),
   ("!=", .template (.binary "<>")),
   ("<", .template (.binary "<")),
   ("<=", .template (.binary "<=")),
   (">", .template (.binary ">")),
   (">=", .template (.binary ">=")),
   ("&", .template (.binary "AND")),
   ("|", .template (.binary "OR")),
   ("!", .template not),
   ("%in%", .template isIn),
   ("is_na", .template isMissing),
   ("ifelse", .template ifElse),
   ("coalesce", .template (.callAny "COALESCE")),
   ("desc", .template descending),
   ("abs", .template (.call₁ "ABS")),
   ("ceiling", .template (.call₁ "CEIL")),
   ("floor", .template (.call₁ "FLOOR")),
   ("sqrt", .template (.call₁ "SQRT")),
   ("exp", .template (.call₁ "EXP")),
   ("sign", .template (.call₁ "SIGN")),
   ("log", .rule .log),
   ("log10", .template (.call₁ "LOG10")),
   ("round", .rule round),
   ("bitwAnd", .template (.binary "&")),
   ("bitwOr", .template (.binary "|")),
   ("bitwXor", .template (.call₂ "BITXOR")),
   ("as_numeric", .template (.cast "NUMERIC")),
   ("as_integer", .template (.cast "INTEGER")),
   ("as_character", .template (.cast "VARCHAR")),
   ("as_date", .template (.cast "DATE")),
   ("tolower", .template (.call₁ "LOWER")),
   ("toupper", .template (.call₁ "UPPER")),
   ("str_to_lower", .template (.call₁ "LOWER")),
   ("str_to_upper", .template (.call₁ "UPPER")),
   ("nchar", .template (.call₁ "LENGTH")),
   ("str_length", .template (.call₁ "LENGTH")),
   ("trimws", .rule trim),
   ("substr", .rule substring),
   ("paste", .rule (.paste (.text " "))),
   ("paste0", .rule (.paste (.text "")))]

-- ---------------------------------------------------------------------------
-- Aggregate
-- ---------------------------------------------------------------------------

def countRows : Expr := .call "COUNT" [.star none] false

def count : Template := .pure [] fun _ => countRows

def countDistinct : Template :=
  .pure [.required "x"] fun args => .call "COUNT" [(args.value "x").toExpr] true

/-- `PERCENTILE_CONT(p) WITHIN GROUP (ORDER BY x)`. -/
def percentile (p x : Value) : Expr :=
  .withinGroup (.callOf "PERCENTILE_CONT" [p]) [x.toExpr]

def half : Value := .double (.ofDecimal false 5 (-1))

def medianSignature : Signature := [.required "x", .optional "na_rm" (.bool false)]

def quantileSignature : Signature :=
  [.required "x", .required "probs", .optional "na_rm" (.bool false)]

def quantileValidators : List (String × List Validator) :=
  [("probs", [.number (some (.whole 0)) (some (.whole 1))]), ("na_rm", [.boolean])]

def median : Rule where
  name := "median"
  template := .pure medianSignature fun args => percentile half (args.value "x")
  validators := [("na_rm", [.boolean])]

def quantile : Rule where
  name := "quantile"
  template := .pure quantileSignature fun args => percentile (args.value "probs") (args.value "x")
  validators := quantileValidators

def aggregateRules : List (String × RuleSource) :=
  [("n", .template count),
   ("n_distinct", .template countDistinct),
   ("mean", .rule (.aggregate "AVG")),
   ("sum", .rule (.aggregate "SUM")),
   ("min", .rule (.aggregate "MIN")),
   ("max", .rule (.aggregate "MAX")),
   ("median", .rule median),
   ("quantile", .rule quantile)]

-- ---------------------------------------------------------------------------
-- Window
-- ---------------------------------------------------------------------------

/-- The window's partition and order, without frame and name. -/
def ordered (w : Window) : Window := { partitionBy := w.partitionBy, orderBy := w.orderBy }

/-- The window's partition alone. -/
def partitioned (w : Window) : Window := { partitionBy := w.partitionBy }

def countOver : Template := .windowed [] fun w _ => .over countRows w.forAggregate

def ntile : Rule where
  name := "ntile"
  template := .windowed [.required "x", .required "n"] fun w args =>
    .over (.callOf "NTILE" [args.value "n"])
      { partitionBy := w.partitionBy, orderBy := [(args.value "x").toExpr] }
  validators := [("n", [.wholeNumber false (some (.whole 1)) none])]

/-- A row at a distance, and a default where it is given. -/
def offset (name : String) : Rule where
  name := name
  template :=
    .windowed [.required "x", .optional "n" (.whole 1), .optional "default" .null] fun w args =>
      let fallback := match args.value "default" with
        | .scalar .null => []
        | v => [v]
      .over (.callOf name ([args.value "x", args.value "n"] ++ fallback)) (ordered w)
  validators := [("n", [.wholeNumber false (some (.whole 0)) none])]

def first : Template :=
  .windowed [.required "x"] fun w args => .over (.callOf "FIRST_VALUE" [args.value "x"]) (ordered w)

def last : Template :=
  .windowed [.required "x"] fun w args =>
    .over (.callOf "LAST_VALUE" [args.value "x"])
      { partitionBy := w.partitionBy, orderBy := w.orderBy, frame := some [.null, .null] }

def nth : Rule where
  name := "nth"
  template := .windowed [.required "x", .required "n"] fun w args =>
    .over (.callOf "NTH_VALUE" [args.value "x", args.value "n"]) (ordered w)
  validators := [("n", [.wholeNumber false (some (.whole 1)) none])]

def medianOver : Rule where
  name := "median"
  template := .windowed medianSignature fun w args =>
    .over (percentile half (args.value "x")) (partitioned w)
  validators := [("na_rm", [.boolean])]

def quantileOver : Rule where
  name := "quantile"
  template := .windowed quantileSignature fun w args =>
    .over (percentile (args.value "probs") (args.value "x")) (partitioned w)
  validators := quantileValidators

def windowRules : List (String × RuleSource) :=
  [("row_number", .template (.rank "ROW_NUMBER")),
   ("min_rank", .template (.rank "RANK")),
   ("dense_rank", .template (.rank "DENSE_RANK")),
   ("percent_rank", .template (.rank "PERCENT_RANK")),
   ("cume_dist", .template (.rank "CUME_DIST")),
   ("ntile", .rule ntile),
   ("lag", .rule (offset "LAG")),
   ("lead", .rule (offset "LEAD")),
   ("first", .template first),
   ("last", .template last),
   ("nth", .rule nth),
   ("cumsum", .template (.cumulative "SUM")),
   ("cummin", .template (.cumulative "MIN")),
   ("cummax", .template (.cumulative "MAX")),
   ("cummean", .template (.cumulative "AVG")),
   ("n", .template countOver),
   ("mean", .rule (.aggregateOver "AVG")),
   ("sum", .rule (.aggregateOver "SUM")),
   ("min", .rule (.aggregateOver "MIN")),
   ("max", .rule (.aggregateOver "MAX")),
   ("median", .rule medianOver),
   ("quantile", .rule quantileOver)]

end SqlDialects.General
