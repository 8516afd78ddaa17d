-- SUMMARY: Plain values: their kinds, their truth, their equality and their text.
import SqlDialects.Number.Basic
import SqlDialects.Text.Quoted
import SqlDialects.Calendar

/-!
# Scalars

A scalar is a plain value that holds no other value. Equality follows what a
scalar stands for: a truth value equals the number zero or one, and numbers of
different kinds are equal when they are the same number.
-/

namespace SqlDialects

inductive Scalar where
  | null
  | bool (b : Bool)
  | number (n : Number)
  | text (s : String)
  | bytes (bytes : List UInt8)
  | date (d : Date)
  | time (t : TimeOfDay)
  | moment (d : Date) (t : TimeOfDay)
  /-- The mark of an operand that was left out. -/
  | omitted
  deriving DecidableEq, Inhabited

namespace Scalar

/-- The name of a scalar's kind, as messages give it. -/
def kindName : Scalar → String
  | .null => "NoneType"
  | .bool _ => "bool"
  | .number (.whole _) => "int"
  | .number (.double _) => "float"
  | .number (.decimal _) => "Decimal"
  | .text _ => "str"
  | .bytes _ => "bytes"
  | .date _ => "date"
  | .time _ => "time"
  | .moment .. => "datetime"
  | .omitted => "object"

/-- False, zero and the empty texts count as no value. -/
def isTruthy : Scalar → Bool
  | .null => false
  | .bool b => b
  | .number n => !n.eq (.whole 0)
  | .text s => s ≠ ""
  | .bytes bs => !bs.isEmpty
  | _ => true

/-- A scalar as a number; a truth value is zero or one. -/
def toNumber? : Scalar → Option Number
  | .bool b => some (.whole (if b then 1 else 0))
  | .number n => some n
  | _ => none

/-- Two scalars stand for the same value. -/
def same (s t : Scalar) : Bool :=
  match s.toNumber?, t.toNumber? with
  | some m, some n => m.eq n
  | some _, none => false
  | none, some _ => false
  | none, none =>
    match s, t with
    | .null, .null => true
    | .text a, .text b => a = b
    | .bytes a, .bytes b => a = b
    | .date a, .date b => a = b
    | .time a, .time b => a.same b
    | .moment d a, .moment e b => sameMoment d a e b
    | .omitted, .omitted => true
    | _, _ => false

def isSignaling : Scalar → Bool
  | .number (.decimal d) => d.isSignaling
  | _ => false

/-- A signaling NaN beside a number: the two must not be compared. -/
def isRefused (s t : Scalar) : Bool :=
  s.toNumber?.isSome && t.toNumber?.isSome && (s.isSignaling || t.isSignaling)

/-- A scalar as it is shown inside messages. -/
def display : Scalar → String
  | .null => "None"
  | .bool b => if b then "True" else "False"
  | .number (.decimal d) => "Decimal('" ++ d.text ++ "')"
  | .number n => n.text
  | .text s => Text.quoted s
  | .bytes bs => Text.quotedBytes bs
  | .date d => d.display
  | .time t => t.display
  | .moment d t => displayMoment d t
  | .omitted => "object()"

/-- A scalar as bare text: texts, decimals and calendar values without their wrapping. -/
def bareText : Scalar → String
  | .text s => s
  | .number n => n.text
  | .date d => d.iso
  | .time t => t.iso
  | .moment d t => isoMoment d t
  | s => s.display

end Scalar

end SqlDialects
