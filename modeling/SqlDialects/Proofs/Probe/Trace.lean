-- SUMMARY: The lookup of column types leaves no trace: its cursor is closed once and last, it works under one correlation id, and the binding before it is restored.
import SqlDialects.Proofs.Probe.ColumnTypes

/-!
# What a lookup leaves behind

Every way through a lookup does the same three things. It enters a scope for a
correlation id, opens a cursor, and works with it: statements and records, all under
the id of the scope. It closes the cursor and leaves the scope, whichever statement
failed and whichever type stays without a name.
-/

namespace SqlDialects

/-! ## Ids of scopes -/

namespace Journal

variable (j : Journal)

/-- The id of a scope without an id of its own is the caller's where one is bound. -/
theorem id_enter_of_bound {bound : String} (h : j.correlation = some bound) (hbound : bound ≠ "") :
    (j.enter none).2 = bound := by
  rw [enter_of_bound h hbound]

end Journal

/-! ## Work under an id -/

namespace ProbeSession

/-- From one session to another only statements are run and records logged, all under
    one id. -/
structure Works (id : String) (s s' : ProbeSession) : Prop where
  journal : s'.journal = s.journal
  events : ∃ work, s'.events = s.events ++ work ∧ ∀ e ∈ work, e.id? = some id

namespace Works

variable {id : String} {s s' s'' : ProbeSession}

theorem refl (id : String) (s : ProbeSession) : Works id s s := ⟨rfl, [], by simp, by simp⟩

theorem trans (h : Works id s s') (h' : Works id s' s'') : Works id s s'' := by
  obtain ⟨hjournal, first, hfirst, hids⟩ := h
  obtain ⟨hjournal', second, hsecond, hids'⟩ := h'
  refine ⟨hjournal'.trans hjournal, first ++ second, ?_, ?_⟩
  · rw [hsecond, hfirst, List.append_assoc]
  · exact List.forall_mem_append.2 ⟨hids, hids'⟩

/-- The id stays bound while the work goes on. -/
theorem bound (h : Works id s s') (hs : s.journal.correlation = some id) :
    s'.journal.correlation = some id := by
  rw [h.journal, hs]

end Works

variable {s : ProbeSession} {id : String} (h : s.journal.correlation = some id)
include h

theorem works_log (r : LogRecord) : Works id s (s.log r) := by
  rw [log, emitUnder_of_bound h]
  exact ⟨rfl, [.logged id r], rfl, by simp [ProbeEvent.id?]⟩

theorem works_timed (threshold : Number) (c : Connection) (name sql : String)
    (params logged : Value) : Works id s (s.timed threshold c name sql params logged).1 := by
  obtain ⟨r, hevents⟩ := events_timed h threshold c name sql params logged
  exact ⟨journal_timed h .., _, hevents, by simp [ProbeEvent.id?]⟩

end ProbeSession

/-! ## Lookups -/

namespace Prober

open ProbeSession (Works works_log works_timed)

section

variable (p : Prober) {s : ProbeSession} {id : String} (h : s.journal.correlation = some id)
  (c : Connection) (driver : TypeNames) (table : String)
include h

theorem works_lookUp (known : TypeNames) (columns : List (String × Int)) :
    Works id s (p.lookUp s c known columns).1 := by
  rw [lookUp]
  generalize namelessTypes known columns = missing
  cases missing with
  | nil => exact .refl id s
  | cons oid rest =>
    have hlog := works_log h (.debug ProbeSession.part
      ("Resolving " ++ Nat.repr (oid :: rest).length ++ " type OIDs through pg_type"))
    exact hlog.trans (works_timed (hlog.bound h) ..)

theorem works_read : Works id s (p.read s c driver table).1 := by
  have hselected : Works id s (p.selected s c table) := works_timed h ..
  cases hfirst : c.fails (s.statements.length + 1) with
  | true =>
    rw [read_of_fails p s c driver table hfirst]
    exact hselected
  | false =>
    rw [read_of_succeeds p s c driver table hfirst]
    exact hselected.trans (p.works_lookUp (hselected.bound h) c _ _)

end

section

variable (p : Prober) {s : ProbeSession} {id : String} {c : Connection} (driver : TypeNames)
  (table : String)

/-- Between opening and closing its cursor a probe only works. -/
theorem events_probe (h : s.journal.correlation = some id) (hopens : c.opens = true) :
    (p.probe s c driver table).1.journal = s.journal ∧
      ∃ work, (p.probe s c driver table).1.events = s.events ++ .opened :: (work ++ [.closed]) ∧
        ∀ e ∈ work, e.id? = some id := by
  obtain ⟨hjournal, work, hevents, hids⟩ := p.works_read (s := s.emit .opened) h c driver table
  rw [probe, if_pos hopens]
  refine ⟨hjournal, work, ?_, hids⟩
  have hclosed : ((p.read (s.emit .opened) c driver table).1.emit .closed).events =
    (p.read (s.emit .opened) c driver table).1.events ++ [.closed] := rfl
  have hopened : (s.emit .opened).events = s.events ++ [.opened] := rfl
  dsimp only
  rw [hclosed, hevents, hopened]
  simp

theorem probe_of_unopened (hopens : c.opens = false) :
    p.probe s c driver table = (s, none) := by
  rw [probe, if_neg (by simp [hopens])]

/-- Whatever comes of the names found, a lookup is a probe in a scope of its own. -/
theorem session_columnTypes (hdriver : p.driver = some driver) :
    (p.columnTypes s c table).1 =
      let scope := { s with journal := (s.journal.enter none).1 }
      let probed := (p.probe scope c driver table).1
      { probed with journal := probed.journal.leave s.journal } := by
  rw [columnTypes, hdriver]
  dsimp only
  split
  next => rfl
  next =>
    split
    · rfl
    · rfl

theorem columnTypes_of_noDriver (hdriver : p.driver = none) :
    p.columnTypes s c table = (s, .error .noDriver) := by
  rw [columnTypes, hdriver]

end

/-- However a lookup ends, the correlation binding is what it was before. A cursor is
    opened when there is a driver and the connection opens one; it is closed exactly once,
    and nothing happens behind that. In between only the statements of the lookup are run
    and records are logged, all under one id, which is the caller's where one is bound. -/
theorem columnTypes_leavesNoTrace (p : Prober) (s : ProbeSession) (c : Connection)
    (table : String) :
    ∃ (id : String) (work : List ProbeEvent),
      (p.columnTypes s c table).1.journal.correlation = s.journal.correlation ∧
      (p.columnTypes s c table).1.events = s.events ++
        (if p.driver.isSome = true ∧ c.opens = true then .opened :: (work ++ [.closed]) else []) ∧
      (∀ e ∈ work, e.id? = some id) ∧
      (∀ driver, p.driver = some driver → c.opens = true →
        work.filterMap (·.statement?) = statementsRun s.statements.length c driver table) ∧
      ∀ bound, s.journal.correlation = some bound → bound ≠ "" → id = bound := by
  refine ⟨(s.journal.enter none).2, ?_⟩
  have hbound (bound : String) (h : s.journal.correlation = some bound) (hne : bound ≠ "") :
      (s.journal.enter none).2 = bound := s.journal.id_enter_of_bound h hne
  cases hdriver : p.driver with
  | none =>
    refine ⟨[], ?_⟩
    rw [columnTypes_of_noDriver p table hdriver]
    exact ⟨rfl, by simp, by simp, nofun, hbound⟩
  | some driver =>
    rw [session_columnTypes p driver table hdriver]
    cases hopens : c.opens with
    | false =>
      refine ⟨[], ?_⟩
      dsimp only
      rw [probe_of_unopened p driver table hopens]
      exact ⟨rfl, by simp, by simp, by simp, hbound⟩
    | true =>
      -- the scope's binding is what the work goes on under
      obtain ⟨_, work, hevents, hids⟩ := p.events_probe driver table
        (s := { s with journal := (s.journal.enter none).1 })
        (Journal.correlation_enter s.journal none) hopens
      refine ⟨work, rfl, ?_, hids, ?_, hbound⟩
      · simpa using hevents
      · intro driver' hdriver' _
        cases hdriver'
        have hrun := p.statements_columnTypes s c driver table hdriver hopens
        rw [session_columnTypes p driver table hdriver, ProbeSession.statements] at hrun
        dsimp only at hrun
        rw [hevents] at hrun
        simpa [ProbeSession.statements, ProbeEvent.statement?] using hrun

end Prober

end SqlDialects
