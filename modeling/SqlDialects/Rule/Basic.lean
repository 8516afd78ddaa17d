-- SUMMARY: Translation rules: templates with signatures, validators of their parameters, and building an expression by a rule.
import SqlDialects.Options
import SqlDialects.Signature
import SqlDialects.Validator
import SqlDialects.Dialect.Basic

/-!
# Rules

A template has a signature and makes a value of bound arguments. A rule is a
template under a name, with validators of its parameters. Building by a rule
binds the arguments, runs every validator on its parameter, each on what the one
before gave back, and expands the template, which must give a SQL expression.
-/

namespace SqlDialects

/-- Where an expression is evaluated. -/
inductive Context where
  | scalar
  | aggregate
  | window
  deriving DecidableEq

namespace Context

def text : Context → String
  | .scalar => "scalar"
  | .aggregate => "aggregate"
  | .window => "window"

def ofText (s : String) : Except Error Context :=
  match [scalar, aggregate, window].find? (·.text == s) with
  | some c => .ok c
  | none => .error (.lapse .unknownContext)

end Context

/-- What a template may look at beside its arguments. -/
structure Setting where
  backend : Backend
  context : Context := .scalar
  window : Window := {}
  options : Options := {}

/-- A signature and what is made of arguments bound to it. -/
structure Template where
  signature : Signature
  expand : Setting → Arguments → Except Error Value

instance : Inhabited Template := ⟨⟨[], fun _ _ => .ok .null⟩⟩

structure Rule where
  name : String
  template : Template
  validators : List (String × List Validator) := []

instance : Inhabited Rule := ⟨⟨"", default, []⟩⟩

namespace Template

/-- Expand with bound arguments. -/
def apply (t : Template) (s : Setting) (args : Arguments) : Except Error Value :=
  if args.extraNames.contains settingParameter then .error (.lapse .argumentShape)
  else t.expand s args

/-- Expand with positional arguments, without validators. -/
def call (t : Template) (s : Setting) (args : List Value) : Except Error Value :=
  match t.signature.bind args [] with
  | .ok bound => t.apply s bound
  | .error _ => .error (.lapse .argumentShape)

end Template

-- ---------------------------------------------------------------------------
-- Validation
-- ---------------------------------------------------------------------------

/-- Run a validator on what a parameter is bound to. Further positional arguments
    are validated as one tuple. -/
def Validator.applyBound (validator : Validator) : Bound → Except Error Bound
  | .one v => do
    let v ← validator.apply v
    return .one v
  | .many vs => do
    let _ ← validator.apply (.tuple vs)
    return .many vs
  | .fields named =>
    match validator with
    | .allowed values _ =>
      if values.any Value.isHost then .ok (.fields named) else reject .namedValues
    | _ => reject .namedValues

/-- The error for an argument that a validator refuses, unless what the validator accepts cannot
    be shown; other errors stay. -/
def Validator.report (validator : Validator) (backend : Backend) (argument : String) :
    Error → Error
  | .rejected _ =>
    if validator.accepted.isShowable then
      .unsupportedArgument argument validator.accepted (some backend.displayName)
    else .lapse .tooManyDigits
  | e => e

/-- Run validators in order, each on what the one before gave back. -/
def runValidators (backend : Backend) (argument : String) :
    List Validator → Bound → Except Error Bound
  | [], b => .ok b
  | v :: vs, b =>
    match v.applyBound b with
    | .ok b => runValidators backend argument vs b
    | .error e => .error (v.report backend argument e)

/-- Bound arguments with a new binding of one parameter. -/
def Arguments.set (args : Arguments) (name : String) (b : Bound) : Arguments :=
  args.map fun (n, old) => (n, if n == name then b else old)

@[simp] theorem Arguments.map_fst_set (args : Arguments) (name : String) (b : Bound) :
    (args.set name b).map (·.1) = args.map (·.1) := by
  simp [set]

/-- Run the validators of every parameter that is bound. -/
def validate (backend : Backend) :
    List (String × List Validator) → Arguments → Except Error Arguments
  | [], args => .ok args
  | (name, validators) :: rest, args =>
    match args.lookup name with
    | none => validate backend rest args
    | some b => do
      let b ← runValidators backend name validators b
      validate backend rest (args.set name b)

-- ---------------------------------------------------------------------------
-- Building
-- ---------------------------------------------------------------------------

namespace Rule

def signature (r : Rule) : Signature := r.template.signature

def parameters (r : Rule) : List String := r.signature.names

/-- Texts in increasing order, each once. -/
def sortedNames (names : List String) : List String :=
  names.eraseDups.mergeSort (· ≤ ·)

/-- A rule whose validators name only known parameters. -/
def make (name : String) (template : Template) (validators : List (String × List Validator)) :
    Except Error Rule :=
  let known := settingParameter :: template.signature.names
  match (validators.map (·.1)).filter (!known.contains ·) with
  | [] => .ok { name, template, validators }
  | unknown => .error (.unknownParameters name (sortedNames unknown))

/-- Build an expression of arguments. -/
def build (r : Rule) (s : Setting) (args : List Value) (named : List (String × Value)) :
    Except Error Expr :=
  match r.signature.bind args named with
  | .error fault =>
    .error (.invalidArgument r.name (.texts r.parameters) (.binding r.signature.arity fault))
  | .ok bound => do
    let bound ← validate s.backend r.validators bound
    match ← r.template.apply s bound with
    | .sql e => .ok e
    | v => .error (.notExpression r.name v.kindName)

end Rule

/-- What may be registered under a name. -/
inductive RuleSource where
  | template (t : Template)
  | rule (r : Rule)

instance : Inhabited RuleSource := ⟨.template default⟩

namespace RuleSource

/-- The rule registered under a name. -/
def named (name : String) : RuleSource → Rule
  | .template t => { name, template := t }
  | .rule r => { r with name }

/-- A rule of a template, under a name and with validators; a finished rule is no
    template. -/
def wrapped (name : String) (validators : List (String × List Validator)) :
    RuleSource → Except Error RuleSource
  | .template t => return .rule (← Rule.make name t validators)
  | .rule _ => .error (.lapse .argumentShape)

/-- The template to call; a finished rule cannot be called as one. -/
def callable : RuleSource → Template
  | .template t => t
  | .rule _ => ⟨[.rest "args"], fun _ _ => .error (.lapse .argumentShape)⟩

end RuleSource

end SqlDialects
