-- SUMMARY: What happens during a probe, event by event, and what statements and records it leaves.
import SqlDialects.Journal
import SqlDialects.Probe.Connection

/-!
# Sessions

A session keeps the events of a probe in order: cursors opened and closed,
statements run, records logged. Statements and records happen under the
correlation id that is bound at the time.
-/

namespace SqlDialects

inductive ProbeEvent where
  | opened
  | ran (id sql : String) (params : Value)
  | logged (id : String) (r : LogRecord)
  | closed

namespace ProbeEvent

/-- The statement run, with its parameters. -/
def statement? : ProbeEvent → Option (String × Value)
  | .ran _ sql params => some (sql, params)
  | _ => none

/-- The correlation id under which a statement was run. -/
def statementId? : ProbeEvent → Option String
  | .ran id _ _ => some id
  | _ => none

def record? : ProbeEvent → Option LogRecord
  | .logged _ r => some r
  | _ => none

/-- The correlation id of a statement or record. -/
def id? : ProbeEvent → Option String
  | .ran id _ _ => some id
  | .logged id _ => some id
  | _ => none

def isClosed : ProbeEvent → Bool
  | .closed => true
  | _ => false

end ProbeEvent

structure ProbeSession where
  journal : Journal
  /-- Readings of the clock still to come; afterwards it reads zero. -/
  clock : List Number := []
  events : List ProbeEvent := []

namespace ProbeSession

-- ---------------------------------------------------------------------------
-- Views
-- ---------------------------------------------------------------------------

def statements (s : ProbeSession) : List (String × Value) := s.events.filterMap (·.statement?)

def correlations (s : ProbeSession) : List String := s.events.filterMap (·.statementId?)

def records (s : ProbeSession) : List LogRecord := s.events.filterMap (·.record?)

/-- How often a cursor was closed. -/
def closed (s : ProbeSession) : Nat := s.events.countP (·.isClosed)

-- ---------------------------------------------------------------------------
-- Steps
-- ---------------------------------------------------------------------------

def emit (s : ProbeSession) (e : ProbeEvent) : ProbeSession := { s with events := s.events ++ [e] }

/-- Add an event that happens under the bound id. -/
def emitUnder (s : ProbeSession) (event : String → ProbeEvent) : ProbeSession :=
  let (journal, id) := s.journal.current
  { s with journal }.emit (event id)

/-- Read the clock. -/
def tick (s : ProbeSession) : ProbeSession × Number :=
  match s.clock with
  | [] => (s, .double (.finite false ⟨0, by decide⟩))
  | now :: rest => ({ s with clock := rest }, now)

def log (s : ProbeSession) (r : LogRecord) : ProbeSession := s.emitUnder (.logged · r)

/-- Run a statement; gives whether it succeeds. -/
def execute (s : ProbeSession) (c : Connection) (sql : String) (params : Value) :
    ProbeSession × Bool :=
  let s := s.emitUnder (.ran · sql params)
  (s, c.failing != some s.statements.length)

/-- Where the records of a probe come from. -/
def part : String := "adapters.postgres"

/-- Run a statement and log how long it took; `logged` are the parameters in the
    record. -/
def timed (s : ProbeSession) (threshold : Number) (c : Connection) (name sql : String)
    (params logged : Value) : ProbeSession × Bool :=
  let (s, start) := s.tick
  let (s, succeeded) := s.execute c sql params
  let (s, stop) := s.tick
  let elapsed := Timing.elapsedMs start stop
  let r := Timing.record part name (!succeeded) (threshold.le elapsed) elapsed
  (s.log { r with statement := some (.text sql, logged) }, succeeded)

-- ---------------------------------------------------------------------------
-- What a step does
-- ---------------------------------------------------------------------------

@[simp] theorem events_tick (s : ProbeSession) : s.tick.1.events = s.events := by
  unfold tick
  split <;> rfl

@[simp] theorem journal_tick (s : ProbeSession) : s.tick.1.journal = s.journal := by
  unfold tick
  split <;> rfl

theorem emitUnder_of_bound {s : ProbeSession} {id : String} (h : s.journal.correlation = some id)
    (event : String → ProbeEvent) : s.emitUnder event = s.emit (event id) := by
  simp [emitUnder, Journal.current_of_bound h]

/-- Under a bound id a timed statement is run and then logged, both under that id. -/
theorem events_timed {s : ProbeSession} {id : String} (h : s.journal.correlation = some id)
    (threshold : Number) (c : Connection) (name sql : String) (params logged : Value) :
    ∃ r, (s.timed threshold c name sql params logged).1.events =
      s.events ++ [.ran id sql params, .logged id r] := by
  simp [timed, execute, log, emitUnder, emit, Journal.current_of_bound, h]

theorem journal_timed {s : ProbeSession} {id : String} (h : s.journal.correlation = some id)
    (threshold : Number) (c : Connection) (name sql : String) (params logged : Value) :
    (s.timed threshold c name sql params logged).1.journal = s.journal := by
  simp [timed, execute, log, emitUnder, emit, Journal.current_of_bound, h]

end ProbeSession

end SqlDialects
