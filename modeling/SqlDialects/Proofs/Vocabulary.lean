-- SUMMARY: The words of SQL that the translation tables write: operators, functions, types and keywords.

/-!
# Vocabulary

The tables build expressions of a fixed stock of words, one list for each kind of
place a word can stand in. Nothing a caller writes belongs to it.
-/

namespace SqlDialects.Vocabulary

/-- Operators before their operand. -/
def unaryOperators : List String := ["-", "NOT", "INTERVAL"]

/-- Operators behind their operand. -/
def suffixOperators : List String := ["IS NULL"]

/-- Operators between two operands. -/
def binaryOperators : List String :=
  ["+", "-", "*", "/", "%", "=", "<>", "!=", "<", "<=", ">", ">=", "AND", "OR", "IN", "&", "|",
   "#", "||", "~", "~*", "LIKE", "NOT LIKE", "ILIKE", "FROM"]

/-- Types of casts. -/
def castTypes : List String := ["NUMERIC", "numeric", "INTEGER", "VARCHAR", "DATE", "INTERVAL"]

/-- Words that stand alone, each a part of a date. -/
def keywords : List String := ["DAY", "DOY", "dow", "WEEK", "MONTH", "QUARTER", "YEAR"]

/-- Functions of single rows. -/
def scalarFunctions : List String :=
  ["POWER", "COALESCE", "ABS", "CEIL", "FLOOR", "SQRT", "EXP", "SIGN", "ln", "log", "LOG10",
   "ROUND", "round", "TAN", "BITXOR", "LOWER", "UPPER", "LENGTH", "TRIM", "LTRIM", "RTRIM",
   "ltrim", "rtrim", "SUBSTR", "RIGHT", "CONCAT_WS", "STRPOS", "strpos", "regexp_replace",
   "EXTRACT", "DATE", "TO_CHAR", "DATE_TRUNC", "make_date", "date_part"]

/-- Functions of groups and of windows. -/
def groupFunctions : List String :=
  ["COUNT", "AVG", "SUM", "MIN", "MAX", "PERCENTILE_CONT", "CORR", "COVAR_SAMP", "STDDEV_SAMP",
   "VAR_SAMP", "BOOL_AND", "BOOL_OR", "string_agg", "ROW_NUMBER", "RANK", "DENSE_RANK",
   "PERCENT_RANK", "CUME_DIST", "NTILE", "LAG", "LEAD", "FIRST_VALUE", "LAST_VALUE", "NTH_VALUE"]

def functions : List String := scalarFunctions ++ groupFunctions

end SqlDialects.Vocabulary
