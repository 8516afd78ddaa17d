-- SUMMARY: Why a request is refused, as causes, and the message of each cause.
import SqlDialects.Value.Display

/-!
# Errors

Every refusal is a cause with what it is about. Most causes have a message; a
*lapse* is a refusal of plain evaluation and has none.
-/

namespace SqlDialects

-- ---------------------------------------------------------------------------
-- Causes
-- ---------------------------------------------------------------------------

/-- Why arguments do not fit a signature. -/
inductive BindFault where
  | tooManyPositional
  | repeated (parameter : String)
  | positionalByName (parameter : String)
  | missing (parameter : String)
  | unexpected (name : String)
  deriving DecidableEq

/-- Why a validator refuses a value. -/
inductive Rejection where
  | notStatic
  | notLiteral
  | notBoolean (v : Value)
  | notWhole (v : Value)
  | notNumber (v : Value)
  | notText (v : Value)
  | belowMinimum (bound : Value)
  | aboveMaximum (bound : Value)
  | unsupported (v : Value)
  | notListed (v : Value) (values : List Value)
  /-- A NaN has no whole part. -/
  | noWholePart
  /-- Values under names are not one value. -/
  | namedValues

/-- Why a structural argument is invalid. -/
inductive InvalidReason where
  | notAllowed
  | noColumns
  | keyUpdated (columns : List String)
  | binding (arity : Nat × Option Nat) (fault : BindFault)

/-- What is inconsistent in a configuration. -/
inductive ConfigurationFault where
  | unknownDialect (key : String) (available : List String)
  | nativeMethod (method backend : String)
  | weekStart (v : Value)
  | negativeSlowQuery
  | wholeText (key text : String)
  | levelText (key text : String)

/-- Refusals of plain evaluation. -/
inductive Lapse where
  /-- A name that is no evaluation context. -/
  | unknownContext
  /-- Too many or too few items. -/
  | itemCount
  /-- A whole number with too many digits to write. -/
  | tooManyDigits
  /-- A name that is no logging level. -/
  | unknownLevel
  /-- A logging level that is neither a number nor a name. -/
  | levelKind
  /-- Values that have no order between them. -/
  | unordered
  /-- A decimal NaN that is compared. -/
  | undefinedOrder
  /-- A decimal result that is too large. -/
  | decimalOverflow
  /-- A value that holds no items. -/
  | notIterable
  /-- Arguments that do not fit the operation they are handed to. -/
  | argumentShape
  /-- Infinity has no whole part. -/
  | infiniteWhole
  /-- A whole number beyond every double. -/
  | beyondDoubles
  /-- A reserved name, or a part that an object lacks. -/
  | noSuchPart
  /-- A text or fields that stand for no value. -/
  | unreadable
  /-- A text that stands for no decimal. -/
  | unreadableDecimal
  /-- Parameters that do not make a signature. -/
  | badSignature
  /-- A parameter with an empty name. -/
  | emptyName
  /-- A variable that no environment can hold. -/
  | badVariable
  /-- A variable without a name. -/
  | namelessVariable
  deriving DecidableEq

inductive Error where
  | unknownFunction (name : String) (context : Option String)
  | unsupportedArgument (argument : String) (allowed : Value) (backend : Option String)
  | invalidArgument (argument : String) (allowed : Value) (reason : InvalidReason)
  | ambiguous (name context : String) (backend : Option String)
  /-- A read-only registry is to take a rule. -/
  | frozen (registry name : String)
  | configuration (fault : ConfigurationFault)
  | rejected (why : Rejection)
  | emptyConjunction
  | valuesWithoutColumns
  | valuesWithoutRows
  | rowShape (row columns : List Value)
  | unknownParameters (rule : String) (names : List String)
  | unknownStatement (kind : String)
  | unescapable (kind : String)
  | uncompilable (kind : String)
  | misplacedFixed
  | notExpression (rule kind : String)
  | lapse (l : Lapse)

-- ---------------------------------------------------------------------------
-- Messages
-- ---------------------------------------------------------------------------

def BindFault.message : BindFault → String
  | .tooManyPositional => "too many positional arguments"
  | .repeated p => "multiple values for argument " ++ Text.quoted p
  | .positionalByName p =>
    Text.quoted p ++ " parameter is positional only, but was passed as a keyword"
  | .missing p => "missing a required argument: " ++ Text.quoted p
  | .unexpected name => "got an unexpected keyword argument " ++ Text.quoted name

/-- The message of a rejection; `none` when a value in it cannot be shown. -/
def Rejection.message : Rejection → Option String
  | .notStatic => some "Value must be known at translation time, not a SQL expression."
  | .notLiteral => some "Value must be a literal."
  | .notBoolean v => do
    return "Expected a literal boolean, got " ++ (← v.shown?).display ++ "."
  | .notWhole v => do
    return "Expected a whole number, got " ++ (← v.shown?).display ++ "."
  | .notNumber v => do
    return "Expected a number, got " ++ (← v.shown?).display ++ "."
  | .notText v => do
    return "Expected a string, got " ++ (← v.shown?).display ++ "."
  | .belowMinimum bound => do
    return "Ensure value is greater than or equal to " ++ (← bound.shown?).bareText ++ "."
  | .aboveMaximum bound => do
    return "Ensure value is less than or equal to " ++ (← bound.shown?).bareText ++ "."
  | .unsupported v => do
    return "Value " ++ (← v.shown?).display ++ " is not supported."
  | .notListed v values => do
    return "Value " ++ (← v.shown?).display ++ " is not one of " ++
      (← (Value.tuple values).shown?).display ++ "."
  | .noWholePart => none
  | .namedValues => none

/-- The positional arguments a signature takes: at least, and at most or more. -/
def arityText : Nat × Option Nat → String
  | (least, none) => Nat.repr least ++ "+"
  | (least, some most) => Nat.repr least ++ "-" ++ Nat.repr most

/-- A text between two others, or nothing when it is missing or empty. -/
def wrapped (before : String) (s : Option String) (after : String) : String :=
  match s with
  | some s => if s = "" then "" else before ++ s ++ after
  | none => ""

def unknownFunctionText (name : String) (context : Option String) : String :=
  "No translation available for function '" ++ name ++ "'" ++
    wrapped " in " context " context" ++ "."

def unsupportedText (argument : String) (allowed : Value) (backend : Option String) : String :=
  "Argument '" ++ argument ++ "' is not supported" ++ wrapped " on " backend "" ++
    "; allowed: " ++ allowed.describeAllowed ++ "."

def notAllowedText (argument : String) (allowed : Value) : String :=
  "Invalid value for '" ++ argument ++ "'; must be one of " ++ allowed.describeAllowed ++ "."

def ambiguousText (name context : String) (backend : Option String) : String :=
  "'" ++ name ++ "' is not supported in " ++ context ++ " context" ++
    wrapped " by " backend "" ++ "."

def InvalidReason.message (argument : String) (allowed : Value) : InvalidReason → String
  | .notAllowed => notAllowedText argument allowed
  | .noColumns => "'" ++ argument ++ "' must name at least one column."
  | .keyUpdated columns =>
    "Key columns cannot also be updated: " ++ ", ".intercalate columns ++ "."
  | .binding arity fault =>
    "Invalid arguments for '" ++ argument ++ "' (" ++ arityText arity ++ " positional): " ++
      fault.message

def ConfigurationFault.message : ConfigurationFault → String
  | .unknownDialect key available =>
    "Unknown dialect '" ++ key ++ "'; available dialects: " ++ ", ".intercalate available
  | .nativeMethod method backend =>
    "Method '" ++ method ++ "' requires native conflict syntax, which " ++ backend ++ " lacks."
  | .weekStart v => "week_start must be between 1 and 7, got " ++ v.display
  | .negativeSlowQuery => "slow_query_ms must not be negative"
  | .wholeText key text => "Invalid integer value for '" ++ key ++ "': " ++ Text.quoted text
  | .levelText key text => "Invalid log level for '" ++ key ++ "': " ++ Text.quoted text

/-- The message of an error; `none` for a lapse, and of a value that cannot be shown. -/
def Error.message : Error → Option String
  | .unknownFunction name context => some (unknownFunctionText name context)
  | .unsupportedArgument argument allowed backend =>
    some (unsupportedText argument allowed backend)
  | .invalidArgument argument allowed reason => some (reason.message argument allowed)
  | .ambiguous name context backend => some (ambiguousText name context backend)
  | .frozen registry name =>
    some ("Registry '" ++ registry ++ "' is read-only; cannot register '" ++ name ++ "'.")
  | .configuration fault => some fault.message
  | .rejected why => why.message
  | .emptyConjunction => some "conjunction() requires at least one expression"
  | .valuesWithoutColumns => some "values_subquery() requires at least one column"
  | .valuesWithoutRows => some "values_subquery() requires at least one row"
  | .rowShape row columns => do
    return "Row " ++ (← (Value.tuple row).shown?).display ++ " does not match columns " ++
      (← (Value.tuple columns).shown?).display
  | .unknownParameters rule names =>
    some ("Rule '" ++ rule ++ "' declares validators for unknown parameters: " ++
      (Value.list (names.map Value.text)).display)
  | .unknownStatement kind => some ("Unknown row statement kind '" ++ kind ++ "'")
  | .unescapable kind => some ("Cannot escape value of type " ++ kind ++ " as a SQL literal")
  | .uncompilable kind => some ("Cannot compile object of type " ++ kind)
  | .misplacedFixed => some "fixed() can only be used as a pattern argument"
  | .notExpression rule kind =>
    some ("Rule '" ++ rule ++ "' returned " ++ kind ++ ", expected an Expression")
  | .lapse _ => none

end SqlDialects
