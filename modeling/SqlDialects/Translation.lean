-- SUMMARY: Translating host expressions to SQL expressions, with a trace of the functions resolved.
import SqlDialects.Journal
import SqlDialects.NameTable
import SqlDialects.Registry.Store
import SqlDialects.Render

/-!
# Translation

A call is translated by the rule its name resolves to; its arguments are
translated in the same context first, positional before named. The named ones are
a table: only the last under a name is translated. A column becomes an identifier,
built SQL stays, a sequence of arguments becomes a tuple, and any other value becomes
a literal.

Every resolution is traced before the arguments of its call are translated, so
the trace of a call is the calls of its tree in the order they are written, as
far as translation got.
-/

namespace SqlDialects

/-- A function found in a context. -/
structure Resolution where
  name : String
  context : Context
  backend : Backend

def Resolution.record (r : Resolution) : LogRecord :=
  .debug "translate"
    ("Resolved " ++ r.name ++ " in " ++ r.context.text ++ " context for " ++ r.backend.displayName)

-- ---------------------------------------------------------------------------
-- Traced results
-- ---------------------------------------------------------------------------

/-- A result, or the error that prevents it, and what was resolved until then. -/
structure Traced (α : Type) where
  trace : List Resolution
  outcome : Except Error α

namespace Traced

protected def pure {α : Type} (a : α) : Traced α := ⟨[], .ok a⟩

protected def bind {α β : Type} (x : Traced α) (f : α → Traced β) : Traced β :=
  match x.outcome with
  | .error e => ⟨x.trace, .error e⟩
  | .ok a => ⟨x.trace ++ (f a).trace, (f a).outcome⟩

instance : Monad Traced where
  pure := Traced.pure
  bind := Traced.bind

/-- A result that resolves nothing. -/
def ofExcept {α : Type} (outcome : Except Error α) : Traced α := ⟨[], outcome⟩

def fail {α : Type} (e : Error) : Traced α := ⟨[], .error e⟩

def note (r : Resolution) : Traced Unit := ⟨[r], .ok ()⟩

/-- A table of results, one after the other. -/
def inOrder {α : Type} : NameTable (Traced α) → Traced (NameTable α)
  | [] => return []
  | (name, x) :: rest => do
    let a ← x
    let rest ← inOrder rest
    return (name, a) :: rest

theorem outcome_bind {α β : Type} (x : Traced α) (f : α → Traced β) :
    (x >>= f).outcome = x.outcome.bind fun a => (f a).outcome := by
  obtain ⟨trace, outcome⟩ := x
  cases outcome <;> rfl

/-- A trace grows by what follows a result. -/
theorem trace_bind_of_ok {α β : Type} {x : Traced α} {a : α} (h : x.outcome = .ok a)
    (f : α → Traced β) : (x >>= f).trace = x.trace ++ (f a).trace := by
  obtain ⟨trace, outcome⟩ := x
  subst h
  rfl

/-- A trace ends with an error. -/
theorem trace_bind_of_error {α β : Type} {x : Traced α} {e : Error} (h : x.outcome = .error e)
    (f : α → Traced β) : (x >>= f).trace = x.trace := by
  obtain ⟨trace, outcome⟩ := x
  subst h
  rfl

end Traced

-- ---------------------------------------------------------------------------
-- Translation
-- ---------------------------------------------------------------------------

/-- What translation goes by. -/
structure Translator where
  dialect : Dialect
  options : Options := {}

namespace Translator

def setting (t : Translator) (c : Context) (w : Window) : Setting where
  backend := t.dialect.backend
  context := c
  window := w
  options := t.options

/-- Resolve a name and trace it. -/
def resolve (t : Translator) (c : Context) (name : String) : Traced Rule := do
  let rule ← .ofExcept (t.dialect.backend.variant.resolve name c)
  .note ⟨name, c, t.dialect.backend⟩
  return rule

mutual

/-- Translate a value in the place of an argument. -/
def argument (t : Translator) (c : Context) (w : Window) : Value → Traced Value
  | .call name args named => do
    let rule ← t.resolve c name
    let args ← arguments t c w args
    let named ← Traced.inOrder (NameTable.ofList (eachNamed t c w named))
    let e ← .ofExcept (rule.build (t.setting c w) args named)
    return .sql e
  | .column name table => return .sql (.ident name table)
  | .fixed pattern => do
    let pattern ← argument t c w pattern
    return .fixed pattern
  | .list items => do
    let items ← arguments t c w items
    return .tuple items
  | .tuple items => do
    let items ← arguments t c w items
    return .tuple items
  | v => return v

def arguments (t : Translator) (c : Context) (w : Window) : List Value → Traced (List Value)
  | [] => return []
  | v :: vs => do
    let v ← argument t c w v
    let vs ← arguments t c w vs
    return v :: vs

/-- What each named argument would be translated to. -/
def eachNamed (t : Translator) (c : Context) (w : Window) :
    List (String × Value) → List (String × Traced Value)
  | [] => []
  | (name, v) :: rest => (name, argument t c w v) :: eachNamed t c w rest

end

/-- Translate a call. -/
def call (t : Translator) (c : Context) (w : Window) (name : String) (args : List Value)
    (named : List (String × Value)) : Traced Expr := do
  match ← t.argument c w (.call name args named) with
  | .sql e => return e
  | v => .fail (.notExpression name v.kindName)

/-- Translate a host expression. The context is looked at only for a call. -/
def translate (t : Translator) (c : Except Error Context) (w : Window) : Value → Traced Expr
  | .call name args named => do
    let c ← .ofExcept c
    t.call c w name args named
  | .column name table => return .ident name table
  | .sql e => return e
  | .fixed _ => .fail .misplacedFixed
  | v => return .literal v

/-- The SQL text of a host expression. -/
def toSql (t : Translator) (c : Except Error Context) (w : Window) (v : Value) :
    Except Error String := do
  let e ← (t.translate c w v).outcome
  e.render t.dialect

-- ---------------------------------------------------------------------------
-- Windows
-- ---------------------------------------------------------------------------

/-- A key of a window: a column by its name, or a host expression. -/
def windowKey (t : Translator) : Value → Traced Expr
  | .scalar (.text name) => return .ident name none
  | v => t.translate (.ok .scalar) {} v

def windowKeys (t : Translator) : List Value → Traced (List Expr)
  | [] => return []
  | v :: vs => do
    let e ← t.windowKey v
    let es ← t.windowKeys vs
    return e :: es

/-- A window of column names and host expressions. -/
def window (t : Translator) (partitionBy orderBy : List Value) (frame : Option (List Value))
    (name : Option String) : Traced Window := do
  let partitionBy ← t.windowKeys partitionBy
  let orderBy ← t.windowKeys orderBy
  return { partitionBy, orderBy, frame, name }

end Translator

end SqlDialects
