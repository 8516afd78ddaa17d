-- SUMMARY: Numbers of three kinds, compared by the number each one stands for.
import SqlDialects.Number.Decimal
import SqlDialects.Number.Shortest

/-!
# Numbers

Whole numbers, doubles and decimals are compared exactly, as rational numbers
or infinities; a NaN is neither less than, nor equal to, nor greater than any
number.
-/

namespace SqlDialects

/-- The most digits a whole number is read from or written with. -/
def wholeDigitLimit : Nat := 4300

/-- Whether a whole number has few enough digits to be written. -/
def isShort (n : Int) : Bool := n.natAbs < Nat.pow 10 wholeDigitLimit

inductive Number where
  | whole (n : Int)
  | double (x : Binary64)
  | decimal (d : Decimal)
  deriving DecidableEq, Inhabited

/-- A point of the extended number line. -/
inductive Extended where
  | below
  | rat (x : Rat)
  | above

namespace Extended

def ofInfinite (negative : Bool) : Extended := if negative then .below else .above

def compare : Extended → Extended → Ordering
  | .below, .below => .eq
  | .below, _ => .lt
  | .above, .above => .eq
  | .above, _ => .gt
  | .rat _, .below => .gt
  | .rat _, .above => .lt
  | .rat x, .rat y => if x < y then .lt else if x = y then .eq else .gt

end Extended

namespace Number

/-- Where a number stands on the extended line; a NaN stands nowhere. -/
def extended? : Number → Option Extended
  | .whole n => some (.rat n)
  | .double (.infinite negative) => some (.ofInfinite negative)
  | .double x => x.toRat?.map .rat
  | .decimal (.infinite negative) => some (.ofInfinite negative)
  | .decimal d => d.toRat?.map .rat

def isDecimal : Number → Bool
  | .decimal _ => true
  | _ => false

/-- The same number as a decimal. -/
def toDecimal : Number → Decimal
  | .whole n => .finite (n < 0) n.natAbs 0
  | .double x => x.toDecimal
  | .decimal d => d

/-- Compare two numbers; none is comparable with a NaN. Beside a decimal both are
    compared as decimals, whose exponents may be too large to be written out. -/
def compare? (x y : Number) : Option Ordering :=
  if x.isDecimal || y.isDecimal then x.toDecimal.compare? y.toDecimal
  else do return (← x.extended?).compare (← y.extended?)

def lt (x y : Number) : Bool := x.compare? y == some .lt

def le (x y : Number) : Bool := x.lt y || x.compare? y == some .eq

def eq (x y : Number) : Bool := x.compare? y == some .eq

/-- A whole number less a number, in the subtrahend's kind; `none` when a decimal
    difference is too large. -/
def subFrom? (n : Int) : Number → Option Number
  | .whole m => some (.whole (n - m))
  | .double x => some (.double ((Binary64.ofRat n).sub x))
  | .decimal d => (d.subFrom? n).map .decimal

/-- The nearest double; `none` when a whole number is too large for one. -/
def toDouble? : Number → Option Binary64
  | .whole n => Binary64.ofInt? n
  | .double x => some x
  | .decimal (.finite negative coefficient exponent) =>
    some (.ofDecimal negative coefficient exponent)
  | .decimal (.infinite negative) => some (.infinite negative)
  | .decimal (.nan ..) => some .nan

def text : Number → String
  | .whole n => toString n
  | .double x => x.text
  | .decimal d => d.text

end Number

end SqlDialects
