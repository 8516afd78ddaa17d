-- SUMMARY: Values as messages show them, and as bare text.
import SqlDialects.Value.Basic

/-!
# Values in messages

Sequences are shown in brackets or parentheses, and everything with fields as
its kind's name and its fields in order. Bare text differs at the top only:
texts, decimals and calendar values stand without their wrapping. A value that holds
a whole number with too many digits cannot be shown, nor has it a bare text.
-/

namespace SqlDialects

/-- Items between parentheses; a single one keeps a comma behind it. -/
def tupleText : List String → String
  | [item] => "(" ++ item ++ ",)"
  | items => "(" ++ ", ".intercalate items ++ ")"

/-- A name and fields, each as `field=text`. -/
def fieldsText (name : String) (fields : List (String × String)) : String :=
  name ++ "(" ++ ", ".intercalate (fields.map fun (field, text) => field ++ "=" ++ text) ++ ")"

def boolText (b : Bool) : String := if b then "True" else "False"

def optionalText (s : Option String) : String := (s.map Text.quoted).getD "None"

mutual

/-- A value as it is shown inside messages. -/
def Value.display : Value → String
  | .scalar s => s.display
  | .list items => "[" ++ ", ".intercalate (displayValues items) ++ "]"
  | .tuple items => tupleText (displayValues items)
  | .column name table =>
    fieldsText "HostColumn" [("name", Text.quoted name), ("table", optionalText table)]
  | .call name args named =>
    fieldsText "HostCall"
      [("name", Text.quoted name), ("args", tupleText (displayValues args)),
       ("kwargs", tupleText (displayNamed named))]
  | .fixed pattern => fieldsText "FixedPattern" [("pattern", pattern.display)]
  | .sql e => e.display
  | .window w => w.display

def displayValues : List Value → List String
  | [] => []
  | v :: vs => v.display :: displayValues vs

def displayNamed : List (String × Value) → List String
  | [] => []
  | (name, v) :: vs => tupleText [Text.quoted name, v.display] :: displayNamed vs

def Expr.display : Expr → String
  | .literal v => fieldsText "Literal" [("value", v.display)]
  | .ident name table =>
    fieldsText "Ident" [("name", Text.quoted name), ("table", optionalText table)]
  | .keyword text => fieldsText "Keyword" [("text", Text.quoted text)]
  | .raw text => fieldsText "Raw" [("sql", Text.quoted text)]
  | .star table => fieldsText "Star" [("table", optionalText table)]
  | .call name args distinct =>
    fieldsText "Call"
      [("name", Text.quoted name), ("args", tupleText (displayExprs args)),
       ("distinct", boolText distinct)]
  | .binary op left right =>
    fieldsText "Infix" [("op", Text.quoted op), ("left", left.display), ("right", right.display)]
  | .unary op operand =>
    fieldsText "Prefix" [("op", Text.quoted op), ("operand", operand.display)]
  | .suffixed operand op =>
    fieldsText "Postfix" [("operand", operand.display), ("op", Text.quoted op)]
  | .cast e typeName =>
    fieldsText "Cast" [("expr", e.display), ("type_name", Text.quoted typeName)]
  | .paren e => fieldsText "Paren" [("expr", e.display)]
  | .caseWhen whens none =>
    fieldsText "Case" [("whens", tupleText (displayWhens whens)), ("otherwise", "None")]
  | .caseWhen whens (some otherwise) =>
    fieldsText "Case"
      [("whens", tupleText (displayWhens whens)), ("otherwise", otherwise.display)]
  | .group items => fieldsText "ExprList" [("items", tupleText (displayExprs items))]
  | .ordered e descending =>
    fieldsText "OrderBy" [("expr", e.display), ("descending", boolText descending)]
  | .withinGroup call orderBy =>
    fieldsText "WithinGroup"
      [("call", call.display), ("order_by", tupleText (displayExprs orderBy))]
  | .over e w => fieldsText "Over" [("expr", e.display), ("window", w.display)]
  | .stray v => v.display

def displayExprs : List Expr → List String
  | [] => []
  | e :: es => e.display :: displayExprs es

def displayWhens : List (Expr × Expr) → List String
  | [] => []
  | (condition, result) :: rest =>
    tupleText [condition.display, result.display] :: displayWhens rest

def Window.display : Window → String
  | ⟨partitionBy, orderBy, frame, name⟩ =>
    fieldsText "WindowSpec"
      [("partition_by", tupleText (displayExprs partitionBy)),
       ("order_by", tupleText (displayExprs orderBy)),
       ("frame", displayFrame frame), ("name", optionalText name)]

def displayFrame : Option (List Value) → String
  | none => "None"
  | some bounds => tupleText (displayValues bounds)

end

/-- A value as bare text. -/
def Value.bareText : Value → String
  | .scalar s => s.bareText
  | v => v.display

/-- No whole number that stands in a value has too many digits to be written. -/
def Value.isShowable (v : Value) : Bool :=
  v.everyPart true fun
    | .scalar (.number (.whole n)) => isShort n
    | _ => true

/-- A value that can be shown. -/
def Value.shown? (v : Value) : Option Value := if v.isShowable then some v else none

/-- The values an option allows, as a message lists them. -/
def Value.describeAllowed : Value → String
  | .scalar .null => "no value (argument must be omitted)"
  | .scalar (.bytes bytes) =>
    ", ".intercalate (bytes.map fun b => Nat.repr b.toNat)
  | .list items => ", ".intercalate (items.map Value.display)
  | .tuple items => ", ".intercalate (items.map Value.display)
  | v => v.display

end SqlDialects
