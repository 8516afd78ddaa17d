-- SUMMARY: Signatures of rules, binding of arguments to them, and arity.
import SqlDialects.Error
import SqlDialects.Text.Word

/-!
# Signatures

A signature is a list of parameters. Binding walks the positional arguments
along it, then takes the named ones, and fills in defaults last; it fails with
the first fault met on that way.
-/

namespace SqlDialects

inductive ParamKind where
  /-- By position only. -/
  | positional
  /-- By position or by name. -/
  | normal
  /-- All further positional arguments. -/
  | rest
  /-- By name only. -/
  | named
  /-- All further named arguments. -/
  | extra
  deriving DecidableEq

/-- The place of a kind in the order of a signature. -/
def ParamKind.rank : ParamKind → Nat
  | .positional => 0
  | .normal => 1
  | .rest => 2
  | .named => 3
  | .extra => 4

structure Param where
  name : String
  kind : ParamKind
  default : Option Value := none

abbrev Signature := List Param

/-- The name under which a template is handed its setting, before all arguments. Templates
    may call their first parameter as they like; here all of them call it so, and no other
    parameter of a template can have the name. -/
def settingParameter : String := "ctx"

/-- What a parameter is bound to. -/
inductive Bound where
  | one (v : Value)
  | many (vs : List Value)
  | fields (named : List (String × Value))

/-- Bound parameters, in the order of the signature. -/
abbrev Arguments := List (String × Bound)

-- ---------------------------------------------------------------------------
-- Parameters
-- ---------------------------------------------------------------------------

namespace Param

def required (name : String) : Param := { name, kind := .normal }

def optional (name : String) (default : Value) : Param :=
  { name, kind := .normal, default := some default }

def rest (name : String) : Param := { name, kind := .rest }

def named (name : String) (default : Value) : Param :=
  { name, kind := .named, default := some default }

def extra (name : String) : Param := { name, kind := .extra }

/-- The words of the host language, by which no argument can be named. -/
def hostKeywords : List String :=
  ["False", "None", "True", "and", "as", "assert", "async", "await", "break", "class", "continue",
   "def", "del", "elif", "else", "except", "finally", "for", "from", "global", "if", "import", "in",
   "is", "lambda", "nonlocal", "not", "or", "pass", "raise", "return", "try", "while", "with",
   "yield"]

/-- A parameter whose name can name it; only one bound as a whole has no default. -/
def check (p : Param) : Except Error Unit :=
  if p.default.isSome && (p.kind = .rest || p.kind = .extra) then .error (.lapse .badSignature)
  else if p.name = "" then .error (.lapse .emptyName)
  else if hostKeywords.contains p.name && p.kind ≠ .positional then .error (.lapse .badSignature)
  else if Text.isWordList p.name.toList then .ok ()
  else .error (.lapse .badSignature)

/-- A parameter that a positional argument can be bound to. -/
def takesPosition (p : Param) : Bool := p.kind = .positional || p.kind = .normal

end Param

-- ---------------------------------------------------------------------------
-- Arguments
-- ---------------------------------------------------------------------------

namespace Arguments

/-- The value bound to a parameter. -/
def value (args : Arguments) (name : String) : Value :=
  match args.lookup name with
  | some (.one v) => v
  | _ => .null

/-- The values bound to a parameter that takes all further ones. -/
def rest (args : Arguments) (name : String) : List Value :=
  match args.lookup name with
  | some (.many vs) => vs
  | _ => []

/-- The names that a parameter for all further named arguments took. -/
def extraNames (args : Arguments) : List String :=
  args.flatMap fun
    | (_, .fields named) => named.map (·.1)
    | _ => []

end Arguments

-- ---------------------------------------------------------------------------
-- Binding
-- ---------------------------------------------------------------------------

namespace Signature

def names (sig : Signature) : List String := sig.map (·.name)

/-- No name twice, the kinds in their order, and no position to be filled behind a
    parameter that may be left out. -/
def WellFormed (sig : Signature) : Prop :=
  sig.names.Nodup ∧
    sig.Pairwise fun p q =>
      p.kind.rank ≤ q.kind.rank ∧ (q.takesPosition → p.default.isSome → q.default.isSome)

instance (sig : Signature) : Decidable sig.WellFormed := by
  unfold WellFormed
  infer_instance

/-- A signature of parameters that follow a template's setting. -/
def ofParams (params : List Param) : Except Error Signature := do
  params.forM Param.check
  if WellFormed ({ name := settingParameter, kind := .positional } :: params) then return params
  else throw (.lapse .badSignature)

/-- Names with their values, without one name. -/
def without (name : String) (named : List (String × Value)) : List (String × Value) :=
  named.filter (·.1 != name)

/-- No positional argument is left: the next parameter must be able to wait. -/
def stopAt (named : List (String × Value)) : Signature → Except BindFault (Arguments × Signature)
  | [] => .ok ([], [])
  | p :: ps =>
    if p.kind = .rest then .ok ([], ps)
    else if (named.lookup p.name).isSome then
      if p.kind = .positional then .error (.positionalByName p.name) else .ok ([], p :: ps)
    else if p.kind = .extra ∨ p.default.isSome then .ok ([], p :: ps)
    else .error (.missing p.name)

/-- Bind positional arguments; gives what is bound and the parameters left. -/
def bindPositional (named : List (String × Value)) :
    Signature → List Value → Except BindFault (Arguments × Signature)
  | sig, [] => stopAt named sig
  | [], _ :: _ => .error .tooManyPositional
  | p :: ps, v :: vs =>
    match p.kind with
    | .extra => .error .tooManyPositional
    | .named => .error .tooManyPositional
    | .rest => .ok ([(p.name, .many (v :: vs))], ps)
    | .positional => do
      let (bound, left) ← bindPositional named ps vs
      return ((p.name, .one v) :: bound, left)
    | .normal =>
      if (named.lookup p.name).isSome then .error (.repeated p.name)
      else do
        let (bound, left) ← bindPositional named ps vs
        return ((p.name, .one v) :: bound, left)

/-- Bind named arguments to the parameters left; gives what is bound and the
    named arguments left. -/
def bindNamed : Signature → List (String × Value) →
    Except BindFault (Arguments × List (String × Value))
  | [], named => .ok ([], named)
  | p :: ps, named =>
    if p.kind = .rest ∨ p.kind = .extra then bindNamed ps named
    else
      match named.lookup p.name with
      | some v =>
        if p.kind = .positional then .error (.positionalByName p.name)
        else do
          let (bound, left) ← bindNamed ps (without p.name named)
          return ((p.name, .one v) :: bound, left)
      | none => if p.default.isSome then bindNamed ps named else .error (.missing p.name)

/-- Every parameter with what it is bound to, or its default. -/
def fill (bound : Arguments) (left : List (String × Value)) (sig : Signature) : Arguments :=
  sig.map fun p =>
    (p.name,
      match bound.lookup p.name with
      | some b => b
      | none =>
        match p.kind with
        | .rest => .many []
        | .extra => .fields left
        | _ => .one (p.default.getD .null))

/-- Filling in defaults binds every parameter, in the order of the signature. -/
theorem names_fill (bound : Arguments) (left : List (String × Value)) (sig : Signature) :
    (fill bound left sig).map (·.1) = sig.names := by
  simp [fill, names]

/-- Bind arguments to a signature. -/
def bind (sig : Signature) (args : List Value) (named : List (String × Value)) :
    Except BindFault Arguments := do
  let (positional, params) ← bindPositional named sig args
  let (byName, left) ← bindNamed params named
  match left with
  | [] => return fill (positional ++ byName) [] sig
  | (name, _) :: _ =>
    if sig.any (·.kind = .extra) then return fill (positional ++ byName) left sig
    else throw (.unexpected name)

/-- How many positional arguments bind: at least, and at most unless all do. -/
def arity (sig : Signature) : Nat × Option Nat :=
  sig.foldl (fun (least, most) p =>
    match p.kind with
    | .rest => (least, none)
    | .positional => (if p.default.isSome then least else least + 1, most.map (· + 1))
    | .normal => (if p.default.isSome then least else least + 1, most.map (· + 1))
    | _ => (least, most)) (0, some 0)

/-- The parameters that have a default, with it. -/
def defaults (sig : Signature) : List (String × Value) :=
  sig.filterMap fun p => p.default.map fun v => (p.name, v)

end Signature

end SqlDialects
