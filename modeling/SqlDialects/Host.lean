-- SUMMARY: Building host expressions: calls by name and by operator.
import SqlDialects.NameTable
import SqlDialects.Value.Parts

/-!
# Host expressions

Operators build calls of the function that goes by the operator's name. With a
plain value on the left an arithmetic operator keeps the order of its operands,
and a comparison is turned around; the other operators need a host expression
on the left.
-/

namespace SqlDialects

inductive HostOperator where
  | add | sub | mul | div | mod | pow
  | eq | ne | lt | le | gt | ge
  | and | or
  | neg | not | isin | isMissing
  deriving DecidableEq

namespace HostOperator

def ofText? : String → Option HostOperator
  | "add" => some .add
  | "sub" => some .sub
  | "mul" => some .mul
  | "div" => some .div
  | "mod" => some .mod
  | "pow" => some .pow
  | "eq" => some .eq
  | "ne" => some .ne
  | "lt" => some .lt
  | "le" => some .le
  | "gt" => some .gt
  | "ge" => some .ge
  | "and" => some .and
  | "or" => some .or
  | "neg" => some .neg
  | "invert" => some .not
  | "isin" => some .isin
  | "is_na" => some .isMissing
  | _ => none

/-- The function that an operator calls. -/
def function : HostOperator → String
  | .add => "+"
  | .sub => "-"
  | .mul => "*"
  | .div => "/"
  | .mod => "%%"
  | .pow => "^"
  | .eq => "=="
  | .ne => "!="
  | .lt => "<"
  | .le => "<="
  | .gt => ">"
  | .ge => ">="
  | .and => "&"
  | .or => "|"
  | .neg => "-"
  | .not => "!"
  | .isin => "%in%"
  | .isMissing => "is_na"

/-- The operator that says the same with its operands exchanged. -/
def turned? : HostOperator → Option HostOperator
  | .eq => some .eq
  | .ne => some .ne
  | .lt => some .gt
  | .le => some .ge
  | .gt => some .lt
  | .ge => some .le
  | _ => none

/-- An operator that takes a plain value on the left as it stands. -/
def isArithmetic : HostOperator → Bool
  | .add => true
  | .sub => true
  | .mul => true
  | .div => true
  | _ => false

def isSingle : HostOperator → Bool
  | .neg => true
  | .not => true
  | .isMissing => true
  | _ => false

end HostOperator

namespace Host

/-- A call without named arguments. -/
def callOf (op : HostOperator) (args : List Value) : Value := .call op.function args []

/-- Apply an operator to values. -/
def apply (op : HostOperator) (args : List Value) : Except Error Value :=
  match op, args with
  | .isin, [x, vs] => do
    if x.isHost then
      let items ← vs.items
      return callOf .isin [x, .tuple items]
    else throw (.lapse .noSuchPart)
  | .isMissing, [x] =>
    if x.isHost then .ok (callOf .isMissing [x]) else .error (.lapse .noSuchPart)
  | op, [x] =>
    if op.isSingle && x.isHost then .ok (callOf op [x]) else .error (.lapse .argumentShape)
  | op, [x, y] =>
    if op.isSingle then .error (.lapse .argumentShape)
    else if x.isHost then .ok (callOf op [x, y])
    else if !y.isHost then .error (.lapse .argumentShape)
    else
      match op.turned? with
      | some turned => .ok (callOf turned [y, x])
      | none => if op.isArithmetic then .ok (callOf op [x, y]) else .error (.lapse .argumentShape)
  | _, _ => .error (.lapse .argumentShape)

/-- Call a function by its name; names that start with two underscores are reserved. -/
def call (name : String) (args : List Value) (named : List (String × Value)) :
    Except Error Value :=
  if name.startsWith "__" then .error (.lapse .noSuchPart)
  else .ok (.call name args (NameTable.ofList named))

/-- The parameters of a direct call, which no argument may go by. -/
def directParameters : List String := ["self", "name"]

/-- Call a function of any name. -/
def direct (name : String) (args : List Value) (named : List (String × Value)) :
    Except Error Value :=
  if named.any fun n => directParameters.contains n.1 then .error (.lapse .argumentShape)
  else .ok (.call name args (NameTable.ofList named))

end Host

end SqlDialects
