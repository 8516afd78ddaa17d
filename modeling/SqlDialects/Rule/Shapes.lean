-- SUMMARY: Templates and rules of common SQL shapes: operators, calls, casts, aggregates, windows.
import SqlDialects.Rule.Basic

/-!
# Common shapes

Most functions translate by one of a few shapes, each given by a name or an
operator. A shape takes its arguments by the names of its parameters.
-/

namespace SqlDialects

namespace Template

/-- A template that makes an expression without looking at its setting. -/
def pure (signature : Signature) (make : Arguments → Expr) : Template :=
  ⟨signature, fun _ args => .ok (.sql (make args))⟩

/-- A template that makes an expression over the setting's window. -/
def windowed (signature : Signature) (make : Window → Arguments → Expr) : Template :=
  ⟨signature, fun s args => .ok (.sql (make s.window args))⟩

-- ---------------------------------------------------------------------------
-- Scalar shapes
-- ---------------------------------------------------------------------------

/-- `x op y`. -/
def binary (op : String) : Template :=
  pure [.required "x", .required "y"] fun args =>
    .binaryOf op (args.value "x") (args.value "y")

/-- `name(x)`. -/
def call₁ (name : String) : Template :=
  pure [.required "x"] fun args => .callOf name [args.value "x"]

/-- `name(x, y)`. -/
def call₂ (name : String) : Template :=
  pure [.required "x", .required "y"] fun args => .callOf name [args.value "x", args.value "y"]

/-- `name(args…)`. -/
def callAny (name : String) : Template :=
  pure [.rest "args"] fun args => .callOf name (args.rest "args")

/-- A call with as many arguments as are asked for: one, two, or any number. -/
def callWith (name : String) (arity : Value) : Except Error Template := do
  if ← arity.same (.whole 1) then return call₁ name
  if ← arity.same (.whole 2) then return call₂ name
  return callAny name

/-- What a parameter adds to a call that passes everything on: its values, under
    names where it is bound by name. -/
def passedOn (kind : ParamKind) (name : String) : Bound → List Expr
  | .one v => if kind = .named then [.binary "=>" (.keyword name) v.toExpr] else [v.toExpr]
  | .many vs => vs.map Value.toExpr
  | .fields named => named.map fun (n, v) => .binary "=>" (.keyword n) v.toExpr

/-- A call that passes all its arguments on, positional before named. -/
def passOn (name : String) (signature : Signature) : Template :=
  pure signature fun args =>
    .call name ((signature.zip args).flatMap fun (p, n, b) => passedOn p.kind n b) false

/-- A template that gives one value, or fails, whatever its arguments. -/
def constant (signature : Signature) (v : Except Error Value) : Template :=
  ⟨signature, fun _ _ => v⟩

/-- `CAST(x AS typeName)`. -/
def cast (typeName : String) : Template :=
  pure [.required "x"] fun args => .cast (args.value "x").toExpr typeName

/-- The cotangent, as a quotient. -/
def cotangent : Template :=
  pure [.required "x"] fun args =>
    .binaryOf "/" (.whole 1) (.sql (.callOf "TAN" [args.value "x"]))

/-- A function that a backend refuses in a context on purpose. -/
def refused (name : String) : Template :=
  ⟨[.rest "args", .extra "kwargs"], fun s _ =>
    .error (.ambiguous name s.context.text (some s.backend.displayName))⟩

-- ---------------------------------------------------------------------------
-- Aggregate and window shapes
-- ---------------------------------------------------------------------------

/-- An aggregate; missing values are always dropped, so `na_rm` changes nothing. -/
def aggregate (f : String) : Template :=
  pure [.required "x", .optional "na_rm" (.bool false)] fun args => .callOf f [args.value "x"]

/-- An aggregate over the window. -/
def aggregateOver (f : String) : Template :=
  windowed [.required "x", .optional "na_rm" (.bool false)] fun w args =>
    .over (.callOf f [args.value "x"]) w.forAggregate

/-- An aggregate of two arguments over the window. -/
def aggregateOver₂ (f : String) : Template :=
  windowed [.required "x", .required "y"] fun w args =>
    .over (.callOf f [args.value "x", args.value "y"]) w.forAggregate

/-- A rank in the order of `x` where it is given, else in the window's order. -/
def rank (f : String) : Template :=
  windowed [.optional "x" .null] fun w args =>
    match args.value "x" with
    | .scalar .null => .over (.call f [] false) w
    | x => .over (.call f [] false) { partitionBy := w.partitionBy, orderBy := [x.toExpr] }

/-- An aggregate of all rows up to the current one. -/
def cumulative (f : String) : Template :=
  windowed [.required "x"] fun w args =>
    .over (.callOf f [args.value "x"])
      { partitionBy := w.partitionBy
        orderBy := w.orderBy
        frame := some [.null, .whole 0] }

end Template

-- ---------------------------------------------------------------------------
-- Validated shapes
-- ---------------------------------------------------------------------------

namespace Rule

/-- Texts joined with a separator; collapsing is not supported. -/
def paste (separator : Value) : Rule where
  name := "paste"
  template := .pure [.rest "args", .named "sep" separator, .named "collapse" .null] fun args =>
    .callOf "CONCAT_WS" (args.value "sep" :: args.rest "args")
  validators := [("collapse", [.allowed [] false])]

/-- A relative distance of at most a billionth from the base of natural
    logarithms, in double arithmetic. -/
def isNaturalBase (x : Binary64) : Bool :=
  if x = Binary64.e then true
  else if x.isFinite then
    let distance := Number.double (Binary64.e.sub x).abs
    let tolerance := Binary64.ofDecimal false 1 (-9)
    distance.le (.double (tolerance.mul Binary64.e).abs) ||
      distance.le (.double (tolerance.mul x).abs)
  else false

/-- A logarithm: natural, or a quotient of logarithms for another base. -/
def log : Rule where
  name := "log"
  template := ⟨[.required "x", .optional "base" (.double .e)], fun _ args =>
    let x := args.value "x"
    match args.value "base" with
    | .scalar (.number n) =>
      match n.toDouble? with
      | some base =>
        if isNaturalBase base then .ok (.sql (.callOf "ln" [x]))
        else .ok (.sql (.binaryOf "/" (.sql (.callOf "log" [x]))
          (.sql (.callOf "log" [.number n]))))
      | none => .error (.lapse .beyondDoubles)
    | _ => .error (.lapse .argumentShape)⟩
  validators := [("base", [.number none none])]

def aggregate (f : String) : Rule where
  name := f
  template := .aggregate f
  validators := [("na_rm", [.boolean])]

def aggregateOver (f : String) : Rule where
  name := f
  template := .aggregateOver f
  validators := [("na_rm", [.boolean])]

end Rule

end SqlDialects
