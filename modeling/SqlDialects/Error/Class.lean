-- SUMMARY: Errors made by hand: their classes, what each is made of, and its message.
import SqlDialects.Signature
import SqlDialects.Value.Parts

/-!
# Classes of errors

An error can be made by hand, of a class and arguments that fit its signature.
The arguments become its attributes as they are; its message writes them as bare
text, and leaves out a context or backend that counts as false.
-/

namespace SqlDialects

inductive ErrorClass where
  | translation
  | unknownFunction
  | unsupportedArgument
  | invalidArgument
  | ambiguity
  | registryFrozen
  | configuration
  deriving DecidableEq

namespace ErrorClass

def text : ErrorClass → String
  | .translation => "TranslationError"
  | .unknownFunction => "UnknownFunctionError"
  | .unsupportedArgument => "UnsupportedArgumentError"
  | .invalidArgument => "InvalidArgumentError"
  | .ambiguity => "TranslationAmbiguityError"
  | .registryFrozen => "RegistryFrozenError"
  | .configuration => "DialectConfigurationError"

def all : List ErrorClass :=
  [.translation, .unknownFunction, .unsupportedArgument, .invalidArgument, .ambiguity,
   .registryFrozen, .configuration]

def ofText? (s : String) : Option ErrorClass := all.find? (·.text == s)

/-- The class itself and the classes it belongs to, nearest first. -/
def ancestry : ErrorClass → List ErrorClass
  | .translation => [.translation]
  | cls => [cls, .translation]

/-- What an error of the class is made of. -/
def signature : ErrorClass → Signature
  | .unknownFunction => [.required "name", .optional "context" .null]
  | .unsupportedArgument =>
    [.required "argument", .required "allowed", .optional "dialect" .null]
  | .invalidArgument =>
    [.required "argument", .optional "allowed" .null, .optional "message" .null]
  | .ambiguity => [.required "name", .required "context", .optional "dialect" .null]
  | _ => [.rest "args"]

/-- The parameters that an error keeps under their names. -/
def attributes : ErrorClass → List String
  | .unknownFunction => ["name", "context"]
  | .unsupportedArgument => ["argument", "allowed", "dialect"]
  | .invalidArgument => ["argument", "allowed"]
  | .ambiguity => ["name", "context", "dialect"]
  | _ => []

/-- The part of a message that a value makes, unless it counts as false. -/
def partText (v : Value) : Except Error (Option String) := do
  if v.isTruthy then return some (← v.asBareText) else return none

/-- The message of several values: nothing, the one, or all of them in parentheses. -/
def plainMessage : List Value → Except Error String
  | [] => .ok ""
  | [v] => v.asBareText
  | vs => do
    return (← (Value.tuple vs).shown).display

/-- The message of an error with bound arguments, if they can be shown. -/
def message (cls : ErrorClass) (args : Arguments) : Except Error String := do
  let bare (name : String) : Except Error String := (args.value name).asBareText
  let part (name : String) : Except Error (Option String) := partText (args.value name)
  let allowed := (args.value "allowed").shown
  match cls with
  | .unknownFunction => return unknownFunctionText (← bare "name") (← part "context")
  | .unsupportedArgument =>
    return unsupportedText (← bare "argument") (← allowed) (← part "dialect")
  | .invalidArgument =>
    match args.value "message" with
    | .scalar .null => return notAllowedText (← bare "argument") (← allowed)
    | v => v.asBareText
  | .ambiguity => return ambiguousText (← bare "name") (← bare "context") (← part "dialect")
  | _ => plainMessage (args.rest "args")

end ErrorClass

end SqlDialects
