-- SUMMARY: Validators of rule arguments: what each accepts, what it makes of it, and why it refuses.
import SqlDialects.Value.Comparison
import SqlDialects.Value.Parts

/-!
# Validators

A validator takes the value of an argument, which must be known when
translating, and gives back the value the rule goes on with, or refuses. What it
accepts can be described, and a refused argument is reported with that
description.

A bound is a value too: what is neither a number nor a truth value has no order
with an argument, and that shows when an argument is compared with it.
-/

namespace SqlDialects

inductive Validator where
  /-- One of the two truth values. -/
  | boolean
  /-- A whole number within bounds, also when written as a double. -/
  | wholeNumber (allowNone : Bool) (minimum maximum : Option Value)
  /-- A whole number or a double within bounds. -/
  | number (minimum maximum : Option Value)
  /-- One of some values; without any, the argument must be left out. -/
  | allowed (values : List Value) (allowNone : Bool)
  /-- A text that is one of some values, or another name of one. -/
  | choice (values : List Value) (aliases : List (String × Value))

namespace Validator

/-- The name of a validator's kind. -/
def kindName : Validator → String
  | .boolean => "BooleanArgument"
  | .wholeNumber .. => "WholeNumberArgument"
  | .number .. => "NumberArgument"
  | .allowed .. => "AllowedValues"
  | .choice .. => "Choice"

/-- The whole numbers from one bound to the other, both included. -/
def wholeRange (low high : Int) : List Int :=
  (List.range (high + 1 - low).toNat).map fun (i : Nat) => low + i

/-- The whole number a bound is; a truth value is zero or one. -/
def wholeBound? : Value → Option Int
  | .scalar (.number (.whole n)) => some n
  | .scalar (.bool b) => some (if b then 1 else 0)
  | _ => none

/-- Why an upper bound that is not whole makes no list of numbers: the number behind
    it is asked for first, and a signaling NaN or too large a decimal has none. -/
def upperFault : Value → Lapse
  | .scalar (.number (.decimal d)) =>
    if d.isSignaling then .undefinedOrder
    else if d.neg?.isNone then .decimalOverflow
    else .argumentShape
  | _ => .argumentShape

/-- A validator of whole numbers. Between two bounds the numbers are listed, so
    both have to be whole. -/
def whole (allowNone : Bool) (minimum maximum : Option Value) : Except Error Validator :=
  match minimum, maximum with
  | some low, some high =>
    if (wholeBound? low).isSome && (wholeBound? high).isSome then
      .ok (.wholeNumber allowNone minimum maximum)
    else .error (.lapse (upperFault high))
  | _, _ => .ok (.wholeNumber allowNone minimum maximum)

/-- A validator of numbers. Between two bounds it says which they are, so neither can
    have too many digits to be written. -/
def numeric (minimum maximum : Option Value) : Except Error Validator := do
  if let (some low, some high) := (minimum, maximum) then
    discard low.asBareText
    discard high.asBareText
  return .number minimum maximum

/-- What a validator accepts, as messages describe it. -/
def accepted : Validator → Value
  | .boolean => .tuple [.bool true, .bool false]
  | .wholeNumber _ (some low) (some high) =>
    match wholeBound? low, wholeBound? high with
    | some low, some high => .tuple ((wholeRange low high).map .whole)
    | _, _ => .text "a whole number"
  | .wholeNumber .. => .text "a whole number"
  | .number (some low) (some high) =>
    .text ("a number between " ++ low.bareText ++ " and " ++ high.bareText)
  | .number .. => .text "a numeric literal"
  | .allowed [] _ => .null
  | .allowed [value] _ => value
  | .allowed values _ => .tuple values
  | .choice values _ => .tuple values

def reject {α : Type} (why : Rejection) : Except Error α := .error (.rejected why)

/-- The value of an argument that is known when translating. -/
def known (v : Value) : Except Error Value :=
  if v.isStatic then .ok v.staticValue else reject .notStatic

/-- The whole number that a number is; infinity has none, and neither has a NaN. -/
def wholePart (v : Value) : Number → Except Error Int
  | .whole n => .ok n
  | .double (.infinite _) => .error (.lapse .infiniteWhole)
  | .double .nan => reject .noWholePart
  | .double x =>
    match x.toRat? with
    | some r => if r.den = 1 then .ok r.num else reject (.notWhole v)
    | none => reject (.notWhole v)
  | .decimal _ => reject (.notWhole v)

/-- A number is within the bounds that are set; the lower one is looked at first. -/
def checkBounds (minimum maximum : Option Value) (n : Number) : Except Error Unit := do
  if let some bound := minimum then
    if ← n.isBelow bound then reject (.belowMinimum bound)
  if let some bound := maximum then
    if ← n.isAbove bound then reject (.aboveMaximum bound)

def checkWhole (v : Value) (minimum maximum : Option Value) (n : Number) : Except Error Value := do
  let n ← wholePart v n
  checkBounds minimum maximum (.whole n)
  return .whole n

def checkNumber (minimum maximum : Option Value) (n : Number) : Except Error Value := do
  checkBounds minimum maximum n
  return .number n

/-- A candidate matches; a truth value matches only itself. -/
def matchesCandidate (v candidate : Value) : Except Error Bool :=
  match candidate, v with
  | .scalar (.bool a), .scalar (.bool b) => .ok (a == b)
  | .scalar (.bool _), _ => .ok false
  | _, .scalar (.bool _) => .ok false
  | candidate, v => v.same candidate

def checkAllowed (values : List Value) (allowNone : Bool) (v : Value) : Except Error Value := do
  let omitted := match v with
    | .scalar .null => allowNone || values.isEmpty
    | _ => false
  if omitted then return v
  if ← anyOf (matchesCandidate v) values then return v else reject (.unsupported v)

def checkChoice (values : List Value) (aliases : List (String × Value)) (s : String) :
    Except Error Value := do
  let v := (aliases.lookup s).getD (.text s)
  if ← anyOf v.same values then return v else reject (.notListed v values)

/-- The value a rule goes on with. -/
def apply (validator : Validator) (v : Value) : Except Error Value :=
  match validator with
  | .boolean => do
    match ← known v with
    | .scalar (.bool b) => .ok (.bool b)
    | v => reject (.notBoolean v)
  | .wholeNumber allowNone minimum maximum => do
    match ← known v with
    | .scalar .null => if allowNone then .ok .null else reject (.notWhole .null)
    | .scalar (.number n) => checkWhole (.number n) minimum maximum n
    | v => reject (.notWhole v)
  | .number minimum maximum => do
    match ← known v with
    | .scalar (.number (.decimal d)) => reject (.notNumber (.number (.decimal d)))
    | .scalar (.number n) => checkNumber minimum maximum n
    | v => reject (.notNumber v)
  | .allowed values allowNone =>
    if v.isStatic then checkAllowed values allowNone v.staticValue else reject .notLiteral
  | .choice values aliases => do
    match ← known v with
    | .scalar (.text s) => checkChoice values aliases s
    | v => reject (.notText v)

end Validator

end SqlDialects
