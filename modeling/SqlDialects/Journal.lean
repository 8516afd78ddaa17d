-- SUMMARY: The journal: levels by number and by name, log records, the state of logging, and what a handler writes.
import SqlDialects.Value.Basic
import SqlDialects.Value.Comparison

/-!
# The journal

A level is a number; eight names stand for six of them. A record names its level
and the part of the library that it comes from.

One level and one handler serve the whole library; the handler is installed by
the first use. Every line a handler writes carries the correlation id that is
bound; where none is, one is generated and stays bound.
-/

namespace SqlDialects

-- ---------------------------------------------------------------------------
-- Levels
-- ---------------------------------------------------------------------------

namespace Level

def debug : Int := 10
def info : Int := 20
def warning : Int := 30

/-- The levels that have names. -/
def named : List (String × Int) :=
  [("CRITICAL", 50), ("FATAL", 50), ("ERROR", 40), ("WARNING", 30), ("WARN", 30), ("INFO", 20),
   ("DEBUG", 10), ("NOTSET", 0)]

/-- The names that configure a level from outside. -/
def configurable : List String := ["CRITICAL", "ERROR", "WARNING", "INFO", "DEBUG"]

def ofName? (name : String) : Option Int := named.lookup name

/-- The first name of a level, or its number. -/
def text (level : Int) : String :=
  match named.find? (·.2 == level) with
  | some (name, _) => name
  | none => "Level " ++ toString level

end Level

-- ---------------------------------------------------------------------------
-- Records
-- ---------------------------------------------------------------------------

/-- The name that all loggers of the library stand under. -/
def rootLogger : String := "sqlvariant"

/-- The full name of the logger of a part. -/
def loggerName (part : String) : String := rootLogger ++ "." ++ part

/-- A record. Those of timed statements carry the statement and its parameters. -/
structure LogRecord where
  level : Int
  logger : String
  message : String
  /-- The timed statement and its parameters. -/
  statement : Option (Value × Value) := none

def LogRecord.debug (part message : String) : LogRecord where
  level := Level.debug
  logger := loggerName part
  message

-- ---------------------------------------------------------------------------
-- State
-- ---------------------------------------------------------------------------

structure Journal where
  installed : Bool := false
  /-- The level of the library; zero takes over the level of the root. -/
  level : Int := 0
  correlation : Option String := none
  /-- How many ids were generated. -/
  generated : Nat := 0

namespace Journal

/-- The level that counts where the library has none. -/
def rootLevel : Int := Level.warning

/-- The level a value names. A column or a call is taken for a name that no level
    has. -/
def levelOf (v : Value) : Except Error Int :=
  match v with
  | .scalar (.number (.whole n)) => .ok n
  | .scalar (.bool b) => .ok (if b then 1 else 0)
  | .scalar (.text name) =>
    match Level.ofName? name with
    | some n => .ok n
    | none => .error (.lapse .unknownLevel)
  | v => .error (.lapse (if v.isHost then .unknownLevel else .levelKind))

/-- Install the handler, and set the level that is given; the first time, the
    level for information if none is. -/
def configure (j : Journal) (level : Value) : Journal × Except Error Unit :=
  let first := { j with installed := true }
  match level with
  | .scalar .null =>
    (if j.installed then j else { first with level := Level.info }, .ok ())
  | level =>
    match levelOf level with
    | .ok n => ({ first with level := n }, .ok ())
    | .error e => (first, .error e)

/-- Make sure that there is a handler. -/
def ready (j : Journal) : Journal := (j.configure .null).1

-- ---------------------------------------------------------------------------
-- Correlation
-- ---------------------------------------------------------------------------

/-- The id generated after some others. -/
def generatedId (count : Nat) : String := "generated-" ++ Nat.repr (count + 1)

/-- Bind an id; a missing or empty one is generated. -/
def bind (j : Journal) (id : Option String) : Journal × String :=
  match id with
  | some s =>
    if s = "" then
      ({ j with correlation := some (generatedId j.generated), generated := j.generated + 1 },
       generatedId j.generated)
    else ({ j with correlation := some s }, s)
  | none =>
    ({ j with correlation := some (generatedId j.generated), generated := j.generated + 1 },
     generatedId j.generated)

/-- The bound id; one is generated where none is bound. -/
def current (j : Journal) : Journal × String :=
  match j.correlation with
  | some s => (j, s)
  | none => j.bind none

/-- Enter a scope: the id given, else the one bound, else a new one. -/
def enter (j : Journal) (id : Option String) : Journal × String :=
  j.bind (match id with
    | some s => if s = "" then j.correlation else some s
    | none => j.correlation)

/-- Leave a scope: what was bound before it is bound again. -/
def leave (j before : Journal) : Journal := { j with correlation := before.correlation }

@[simp] theorem correlation_bind (j : Journal) (id : Option String) :
    (j.bind id).1.correlation = some (j.bind id).2 := by
  unfold bind
  split
  · split <;> rfl
  · rfl

theorem current_of_bound {j : Journal} {id : String} (h : j.correlation = some id) :
    j.current = (j, id) := by
  simp [current, h]

@[simp] theorem correlation_enter (j : Journal) (id : Option String) :
    (j.enter id).1.correlation = some (j.enter id).2 := correlation_bind j _

/-- A scope without an id of its own keeps the one that is bound. -/
theorem enter_of_bound {j : Journal} {id : String} (h : j.correlation = some id) (hid : id ≠ "") :
    j.enter none = (j, id) := by
  cases j
  simp_all [enter, bind]

-- ---------------------------------------------------------------------------
-- Lines
-- ---------------------------------------------------------------------------

/-- Whether a record of a level is written. -/
def isEnabled (j : Journal) (level : Int) : Bool :=
  0 < level && (if j.level = 0 then rootLevel else j.level) ≤ level

/-- The line of a record. -/
def line (id : String) (r : LogRecord) : String :=
  " | ".intercalate [Level.text r.level, id, r.logger, r.message]

/-- Write a record, if its level is enabled. -/
def write (j : Journal) (r : LogRecord) : Journal × List String :=
  let j := j.ready
  if j.isEnabled r.level then
    let (j, id) := j.current
    (j, [line id r])
  else (j, [])

end Journal

-- ---------------------------------------------------------------------------
-- Timing
-- ---------------------------------------------------------------------------

namespace Timing

/-- Milliseconds between two readings of a clock in seconds. -/
def elapsedMs (start stop : Number) : Number :=
  match start, stop with
  | .whole a, .whole b => .whole ((b - a) * 1000)
  | start, stop =>
    let difference := (stop.toDouble?.getD .nan).sub (start.toDouble?.getD .nan)
    .double (difference.mul (.ofRat 1000))

/-- How long a step took; a slow one is a warning. -/
def record (part name : String) (failed slow : Bool) (elapsed : Number) : LogRecord where
  level := if slow then Level.warning else Level.debug
  logger := loggerName part
  message := name ++ (if failed then " failed after " else " took ") ++
    (elapsed.toDouble?.getD .nan).fixedText 2 ++ "ms"

end Timing

/-- Log how long a step took, under its own logger: a warning from a threshold on.
    The handler is there even when the threshold is in no order with a number. -/
def Journal.timed (j : Journal) (part name : String) (failed : Bool) (elapsed : Number)
    (threshold : Value) : Journal × Except Error (List String) :=
  match elapsed.isAtLeast threshold with
  | .ok slow =>
    let (j, lines) := j.write (Timing.record part name failed slow elapsed)
    (j, .ok lines)
  | .error e => (j.ready, .error e)

end SqlDialects
