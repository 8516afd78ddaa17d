-- SUMMARY: Calendar literals are read back as they were, but the offset of a time of day is cast away.
import SqlDialects.Dialect.Literal
import SqlDialects.Proofs.Lexing.Identifier
import SqlDialects.Proofs.Readers.Basic

/-!
# Reading calendar literals

The ISO text of a date, a time of day or a moment is read field by field, with
microseconds, an offset and its seconds only where they are written. A literal is
read as a quoted text and the name of the type that it is cast to. An offset counts
only under a type with a time zone, which the literal of a moment names exactly when
there is an offset; the literal of a time of day never does.
-/

namespace SqlDialects

/-- The digits of a number are digits. -/
theorem isDigit_of_mem_fixedDigits {count n : Nat} {c : Char} (h : c ∈ fixedDigits count n) :
    c.isDigit = true := by
  induction count generalizing n with
  | zero => cases h
  | succ count ih =>
    rcases List.mem_append.1 h with h | h
    · exact ih h
    · rw [List.mem_singleton.1 h, Nat.isDigit_digitChar]
      exact decide_eq_true (Nat.mod_lt n (by decide))

namespace Reader

variable {rest : List Char}

/-! ## Parts of ISO text -/

/-- A number behind a mark, which counts as zero when the mark is not there. -/
def part (mark : Char) (count bound : Nat) [NeZero bound] : Reader (Fin bound) := do
  let n ← optional do
    expect (String.singleton mark)
    field count bound
  return n.getD 0

def sign : Reader Int
  | '+' :: cs => some (1, cs)
  | '-' :: cs => some (-1, cs)
  | _ => none

def offset : Reader Offset := do
  let sign ← sign
  let hour ← field 2 24
  expect ":"
  let minute ← field 2 60
  let second ← part ':' 2 60
  given (Offset.ofSeconds? (sign * (hour.val * 3600 + minute.val * 60 + second.val : Nat)))

def timeOfDay : Reader TimeOfDay := do
  let hour ← field 2 24
  expect ":"
  let minute ← field 2 60
  expect ":"
  let second ← field 2 60
  let microsecond ← part '.' 6 1000000
  let offset ← optional offset
  return ⟨hour, minute, second, microsecond, offset⟩

def date : Reader Date := do
  let year ← field 4 10000
  expect "-"
  let month ← field 2 13
  expect "-"
  let day ← field 2 32
  return ⟨year, month, day⟩

/-- Nothing is there of a part whose mark is not there. -/
theorem takes_part_zero {mark : Char} (h : StartsWithout (· == mark) rest) (count bound : Nat)
    [NeZero bound] : (part mark count bound).Takes [] 0 rest := by
  have hmark : (String.singleton mark).toList.head? = some mark := by
    rw [String.toList_singleton]
    rfl
  have hnone : Takes (optional do expect (String.singleton mark); field count bound) [] none rest :=
    takes_optional_none (expect_bind_eq_none hmark h _)
  exact hnone.bind_pure

/-- A part is written when it is not zero. -/
theorem takes_part {mark : Char} {count bound : Nat} [NeZero bound] (h : bound ≤ 10 ^ count)
    (n : Fin bound) (hrest : StartsWithout (· == mark) rest) :
    (part mark count bound).Takes
      (if n.val = 0 then [] else mark :: fixedDigits count n) n rest := by
  split
  next hzero =>
    obtain rfl : n = 0 := Fin.ext (by simpa using hzero)
    exact takes_part_zero hrest count bound
  next =>
    have hn : Takes (do expect (String.singleton mark); field count bound)
        ((String.singleton mark).toList ++ fixedDigits count n) n rest :=
      (takes_field h n rest).expect_bind
    rw [String.toList_singleton] at hn
    exact Takes.bind_pure (f := fun n => n.getD 0) hn.optional_some

theorem takes_sign (seconds : Int) (rest : List Char) :
    sign.Takes [if seconds < 0 then '-' else '+'] (if seconds < 0 then -1 else 1) rest := by
  split <;> rfl

theorem takes_offset (o : Offset) : offset.Takes o.isoList o [] := by
  obtain ⟨seconds, hbounded⟩ := o
  set n := seconds.natAbs with hn
  have hsum : (if seconds < 0 then -1 else 1) *
      (n / 3600 * 3600 + n / 60 % 60 * 60 + n % 60 : Nat) = seconds := by
    split <;> omega
  have hvalue : Offset.ofSeconds? ((if seconds < 0 then -1 else 1) *
      (n / 3600 * 3600 + n / 60 % 60 * 60 + n % 60 : Nat)) = some ⟨seconds, hbounded⟩ := by
    rw [hsum, Offset.ofSeconds?, dif_pos hbounded]
  rw [Offset.isoList]
  simp only [List.append_assoc, List.cons_append]
  exact (takes_sign seconds _).bind <|
    (takes_field (by decide) (⟨n / 3600, by omega⟩ : Fin 24) _).bind <| .expect_bind <|
      (takes_field (by decide) (⟨n / 60 % 60, by omega⟩ : Fin 60) _).bind <|
        (takes_part (by decide) (⟨n % 60, by omega⟩ : Fin 60) .nil).bind_given hvalue

/-- The text of an offset that there may be. -/
theorem takes_optional_offset (o : Option Offset) :
    (optional offset).Takes ((o.map Offset.isoList).getD []) o [] := by
  cases o with
  | none => exact takes_optional_none rfl
  | some o => exact (takes_offset o).optional_some

theorem startsWithout_point (o : Option Offset) :
    StartsWithout (· == '.') ((o.map Offset.isoList).getD [] ++ []) := by
  cases o with
  | none => exact .nil
  | some o =>
    refine .cons ?_ _
    split <;> rfl

theorem takes_timeOfDay (t : TimeOfDay) : timeOfDay.Takes t.isoList t [] := by
  have hmicrosecond := takes_part (show 1000000 ≤ 10 ^ 6 by decide) t.microsecond
    (startsWithout_point t.offset)
  rw [TimeOfDay.isoList]
  simp only [List.append_assoc, List.cons_append]
  exact (takes_field (by decide) t.hour _).bind <| .expect_bind <|
    (takes_field (by decide) t.minute _).bind <| .expect_bind <|
      (takes_field (by decide) t.second _).bind <|
        hmicrosecond.bind (takes_optional_offset t.offset).bind_pure

theorem takes_date (d : Date) (rest : List Char) : date.Takes d.isoList d rest := by
  rw [Date.isoList]
  simp only [List.append_assoc, List.cons_append]
  exact (takes_field (by decide) d.year _).bind <| .expect_bind <|
    (takes_field (by decide) d.month _).bind <| .expect_bind <|
      (takes_field (by decide) d.day rest).bind_pure

/-- A quoted text and the name of the type that it is cast to. -/
def cast : Reader (List Char × String) := do
  let body ← token '\''
  expect "::"
  let type ← Identifier.read
  return (body, type.name)

theorem takes_cast {body : List Char} (hbody : '\'' ∉ body) {type : String}
    (htype : Identifier.read type.toList = some (.unquoted type.toList, [])) :
    cast.Takes ('\'' :: body ++ ['\''] ++ ("::".toList ++ type.toList)) (body, type) [] := by
  have hquoted : (token '\'').Takes ('\'' :: doubled '\'' body ++ ['\'']) body
      ("::".toList ++ type.toList ++ []) := takes_token (.cons (by decide) _) body
  rw [doubled_of_not_mem hbody] at hquoted
  have hread : Takes Identifier.read type.toList (.unquoted type.toList) [] := by
    rwa [Takes, List.append_nil]
  have hname := hread.bind_pure (f := fun spelling => (body, spelling.name))
  rw [Identifier.Spelling.name, String.ofList_toList] at hname
  exact hquoted.bind hname.expect_bind

end Reader

/-! ## Calendar values -/

/-- A value of the calendar. -/
inductive Temporal where
  | date (d : Date)
  | time (t : TimeOfDay)
  | moment (d : Date) (t : TimeOfDay)
  deriving DecidableEq

namespace Temporal

inductive Kind where
  | date
  | time
  | moment
  deriving DecidableEq

def kind : Temporal → Kind
  | .date _ => .date
  | .time _ => .time
  | .moment .. => .moment

def scalar : Temporal → Scalar
  | .date d => .date d
  | .time t => .time t
  | .moment d t => .moment d t

def offset? : Temporal → Option Offset
  | .date _ => none
  | .time t => t.offset
  | .moment _ t => t.offset

def isoList : Temporal → List Char
  | .date d => d.isoList
  | .time t => t.isoList
  | .moment d t => d.isoList ++ ' ' :: t.isoList

/-- The ISO text of a kind of value. -/
def Kind.reader : Kind → Reader Temporal
  | .date => do
    let d ← Reader.date
    return .date d
  | .time => do
    let t ← Reader.timeOfDay
    return .time t
  | .moment => do
    let d ← Reader.date
    Reader.expect " "
    let t ← Reader.timeOfDay
    return .moment d t

/-- The type that the literal of a value names. -/
def typeName : Temporal → String
  | .date _ => "date"
  | .time _ => "time"
  | .moment _ t => Backend.momentCast t

/-- A type whose values have an offset. -/
def isZoned (type : String) : Bool := type = "timetz" || type = "timestamptz"

/-- A time of day with an offset. -/
def isZonedTime : Temporal → Bool
  | .time t => t.offset.isSome
  | _ => false

variable (v : Temporal)

theorem takes_isoList : v.kind.reader.Takes v.isoList v [] := by
  cases v with
  | date d => exact (Reader.takes_date d []).bind_pure
  | time t => exact (Reader.takes_timeOfDay t).bind_pure
  | moment d t =>
    exact (Reader.takes_date d _).bind (Reader.takes_timeOfDay t).bind_pure.expect_bind

/-- Every name of a type is a word. -/
theorem read_typeName :
    Identifier.read v.typeName.toList = some (.unquoted v.typeName.toList, []) := by
  cases v with
  | date => rw [typeName]; rfl
  | time => rw [typeName]; rfl
  | moment _ t =>
    rw [typeName, Backend.momentCast]
    split <;> rfl

theorem quote_not_mem : '\'' ∉ v.isoList := by
  have hdigits (count n : Nat) : '\'' ∉ fixedDigits count n := fun h =>
    absurd (isDigit_of_mem_fixedDigits h) (by decide)
  have hdate (d : Date) : '\'' ∉ d.isoList := by simp [Date.isoList, hdigits]
  have hoffset (o : Offset) : '\'' ∉ o.isoList := by
    unfold Offset.isoList
    dsimp only
    split_ifs <;> simp [hdigits]
  have htime (t : TimeOfDay) : '\'' ∉ t.isoList := by
    unfold TimeOfDay.isoList
    cases t.offset with
    | none => split_ifs <;> simp [hdigits]
    | some o => split_ifs <;> simp [hdigits, hoffset]
  cases v with
  | date d => exact hdate d
  | time t => exact htime t
  | moment d t => simp [isoList, hdate, htime]

theorem literal_eq : Backend.postgres.literal (.scalar v.scalar) = .ok (String.ofList
    ('\'' :: v.isoList ++ ['\''] ++ ("::".toList ++ v.typeName.toList))) := by
  cases v <;> simp [Backend.literal, Backend.scalarLiteral, Backend.tagged, scalar, isoList,
    typeName, Date.iso, TimeOfDay.iso, isoMoment, ← String.toList_inj]

/-- The type of a literal fits its offset, but for a time of day with one. -/
theorem isZoned_typeName_iff :
    (isZoned v.typeName = true ↔ v.offset?.isSome = true) ↔ v.isZonedTime = false := by
  cases v with
  | date => simp [isZoned, typeName, offset?, isZonedTime]
  | time t => simp [isZoned, typeName, offset?, isZonedTime]
  | moment _ t =>
    rw [typeName, Backend.momentCast]
    split
    next h => simp [isZoned, offset?, isZonedTime, h]
    next h => simp [isZoned, offset?, isZonedTime, h]

theorem readAll_cast_of_literal {v : Temporal} {text : String}
    (h : Backend.postgres.literal (.scalar v.scalar) = .ok text) :
    Reader.cast.readAll text.toList = some (v.isoList, v.typeName) := by
  rw [v.literal_eq] at h
  cases h
  rw [String.toList_ofList]
  exact (Reader.takes_cast v.quote_not_mem v.read_typeName).readAll

/-- The literal of a value keeps all of it but the offset of a time of day: its body is
    read back as the value, and its type has an offset exactly when the value has one,
    unless that is a time of day with an offset. So values of one kind with the same
    literal are the same. -/
theorem literal_keeps :
    ∃ text body type, Backend.postgres.literal (.scalar v.scalar) = .ok text ∧
      Reader.cast.readAll text.toList = some (body, type) ∧
      v.kind.reader.readAll body = some v ∧
      ((isZoned type = true ↔ v.offset?.isSome = true) ↔ v.isZonedTime = false) ∧
      ∀ w : Temporal, w.kind = v.kind →
        Backend.postgres.literal (.scalar w.scalar) = .ok text → w = v := by
  have hcast := readAll_cast_of_literal v.literal_eq
  refine ⟨_, v.isoList, v.typeName, v.literal_eq, hcast, v.takes_isoList.readAll,
    v.isZoned_typeName_iff, fun w hkind hw => ?_⟩
  have hbody : w.isoList = v.isoList := by
    have hpair := (readAll_cast_of_literal hw).symm.trans hcast
    exact congrArg Prod.fst (Option.some.inj hpair)
  have hread := w.takes_isoList.readAll
  rw [hkind, hbody, v.takes_isoList.readAll] at hread
  exact (Option.some.inj hread).symm

/-- A second past one, an hour ahead of universal time. -/
def pastOne : Temporal := .time ⟨1, 0, 1, 0, some ⟨3600, by decide⟩⟩

/-- The offset of this time stands under a type without offsets. -/
theorem not_isZoned_pastOne :
    ∃ text body type, Backend.postgres.literal (.scalar pastOne.scalar) = .ok text ∧
      Reader.cast.readAll text.toList = some (body, type) ∧
      ¬ (isZoned type = true ↔ pastOne.offset?.isSome = true) :=
  ⟨"'01:00:01+01:00'::time", "01:00:01+01:00".toList, "time", rfl, by decide, by decide⟩

end Temporal

end SqlDialects
