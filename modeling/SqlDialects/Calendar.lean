-- SUMMARY: Dates, times of day and offsets from universal time, their ISO text and the instants they name.
import SqlDialects.Number.Shortest

/-!
# Calendar

Fields are bounded by their types, so every value has one ISO text of fixed
width: four digits of a year, two of every other field, and six of the
microseconds where there are any.
-/

namespace SqlDialects

structure Date where
  year : Fin 10000
  month : Fin 13
  day : Fin 32
  deriving DecidableEq

/-- A distance from universal time of less than a day. -/
structure Offset where
  seconds : Int
  bounded : -86400 < seconds ∧ seconds < 86400
  deriving DecidableEq

structure TimeOfDay where
  hour : Fin 24
  minute : Fin 60
  second : Fin 60
  microsecond : Fin 1000000
  offset : Option Offset
  deriving DecidableEq

def Offset.ofSeconds? (seconds : Int) : Option Offset :=
  if h : -86400 < seconds ∧ seconds < 86400 then some ⟨seconds, h⟩ else none

def isLeapYear (year : Nat) : Bool :=
  year % 4 = 0 && (year % 100 ≠ 0 || year % 400 = 0)

/-- How many days a month has. -/
def daysInMonth (year month : Nat) : Nat :=
  if month = 2 then (if isLeapYear year then 29 else 28)
  else if month = 4 ∨ month = 6 ∨ month = 9 ∨ month = 11 then 30
  else 31

/-- `none` unless the calendar has the day. -/
def Date.ofFields? (year month day : Nat) : Option Date :=
  if h : year < 10000 ∧ month < 13 ∧ day < 32 then
    if year = 0 ∨ month = 0 ∨ day = 0 ∨ daysInMonth year month < day then none
    else some ⟨⟨year, h.1⟩, ⟨month, h.2.1⟩, ⟨day, h.2.2⟩⟩
  else none

/-- `none` unless every field is in range. -/
def TimeOfDay.ofFields? (hour minute second microsecond : Nat) (offset : Option Offset) :
    Option TimeOfDay :=
  if h : hour < 24 ∧ minute < 60 ∧ second < 60 ∧ microsecond < 1000000 then
    some ⟨⟨hour, h.1⟩, ⟨minute, h.2.1⟩, ⟨second, h.2.2.1⟩, ⟨microsecond, h.2.2.2⟩, offset⟩
  else none

-- ---------------------------------------------------------------------------
-- ISO text
-- ---------------------------------------------------------------------------

/-- The low `count` decimal digits of a number, highest first. -/
def fixedDigits : Nat → Nat → List Char
  | 0, _ => []
  | count + 1, n => fixedDigits count (n / 10) ++ [Nat.digitChar (n % 10)]

def Date.isoList (d : Date) : List Char :=
  fixedDigits 4 d.year ++ '-' :: fixedDigits 2 d.month ++ '-' :: fixedDigits 2 d.day

/-- Hours and minutes under a sign, and seconds where there are any. -/
def Offset.isoList (o : Offset) : List Char :=
  let n := o.seconds.natAbs
  (if o.seconds < 0 then '-' else '+') :: fixedDigits 2 (n / 3600) ++
    ':' :: fixedDigits 2 (n / 60 % 60) ++
    (if n % 60 = 0 then [] else ':' :: fixedDigits 2 (n % 60))

def TimeOfDay.isoList (t : TimeOfDay) : List Char :=
  fixedDigits 2 t.hour ++ ':' :: fixedDigits 2 t.minute ++ ':' :: fixedDigits 2 t.second ++
    (if t.microsecond.val = 0 then [] else '.' :: fixedDigits 6 t.microsecond) ++
    ((t.offset.map Offset.isoList).getD [])

def Date.iso (d : Date) : String := String.ofList d.isoList

def TimeOfDay.iso (t : TimeOfDay) : String := String.ofList t.isoList

/-- Date and time with a blank between them. -/
def isoMoment (d : Date) (t : TimeOfDay) : String :=
  String.ofList (d.isoList ++ ' ' :: t.isoList)

-- ---------------------------------------------------------------------------
-- Instants
-- ---------------------------------------------------------------------------

/-- Days from the first of March of year zero. -/
def Date.dayNumber (d : Date) : Int :=
  let year : Int := if d.month.val ≤ 2 then (d.year.val : Int) - 1 else d.year.val
  let month : Int := (d.month.val + 9 : Nat) % 12
  365 * year + year.fdiv 4 - year.fdiv 100 + year.fdiv 400 + (153 * month + 2) / 5 + d.day.val - 1

/-- Microseconds since midnight in universal time; without an offset, as written. -/
def TimeOfDay.microseconds (t : TimeOfDay) : Int :=
  let seconds : Int := (t.hour.val * 3600 + t.minute.val * 60 + t.second.val : Nat)
  (seconds - ((t.offset.map Offset.seconds).getD 0)) * 1000000 + t.microsecond.val

/-- Two times of day are the same moment of it; one with an offset and one
    without never are. -/
def TimeOfDay.same (s t : TimeOfDay) : Bool :=
  s.offset.isSome == t.offset.isSome && s.microseconds == t.microseconds

/-- Two moments are the same instant. -/
def sameMoment (d : Date) (s : TimeOfDay) (e : Date) (t : TimeOfDay) : Bool :=
  s.offset.isSome == t.offset.isSome &&
    d.dayNumber * 86400000000 + s.microseconds == e.dayNumber * 86400000000 + t.microseconds

-- ---------------------------------------------------------------------------
-- Field display
-- ---------------------------------------------------------------------------

/-- A length of time as whole days and the seconds of a started day. -/
def Offset.display (o : Offset) : String :=
  if o.seconds = 0 then "datetime.timezone.utc"
  else if 0 < o.seconds then
    "datetime.timezone(datetime.timedelta(seconds=" ++ toString o.seconds ++ "))"
  else
    "datetime.timezone(datetime.timedelta(days=-1, seconds=" ++
      toString (o.seconds + 86400) ++ "))"

def Date.fields (d : Date) : List String :=
  [Nat.repr d.year, Nat.repr d.month, Nat.repr d.day]

/-- Hour and minute, then seconds and microseconds up to the last that is not
    zero, then the offset. -/
def TimeOfDay.fields (t : TimeOfDay) : List String :=
  [Nat.repr t.hour, Nat.repr t.minute] ++
    (if t.microsecond.val ≠ 0 then [Nat.repr t.second, Nat.repr t.microsecond]
     else if t.second.val ≠ 0 then [Nat.repr t.second] else []) ++
    (match t.offset with
     | some o => ["tzinfo=" ++ o.display]
     | none => [])

def Date.display (d : Date) : String :=
  "datetime.date(" ++ ", ".intercalate d.fields ++ ")"

def TimeOfDay.display (t : TimeOfDay) : String :=
  "datetime.time(" ++ ", ".intercalate t.fields ++ ")"

def displayMoment (d : Date) (t : TimeOfDay) : String :=
  "datetime.datetime(" ++ ", ".intercalate (d.fields ++ t.fields) ++ ")"

end SqlDialects
