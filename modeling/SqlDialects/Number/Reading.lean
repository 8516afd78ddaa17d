-- SUMMARY: Reading whole numbers, doubles and decimals from text.
import SqlDialects.Number.Basic
import SqlDialects.Text.Characters

/-!
# Numbers in text

A number may stand between white space and carry a sign; single underscores may
separate digits, and digits of every script count.
-/

namespace SqlDialects

open Text

/-- A sign and what it stands before: `true` for minus. -/
def signed : List Char → Bool × List Char
  | '-' :: cs => (true, cs)
  | '+' :: cs => (false, cs)
  | cs => (false, cs)

-- ---------------------------------------------------------------------------
-- Whole numbers
-- ---------------------------------------------------------------------------

/-- Read a whole number. -/
def readWhole? (s : String) : Option Int :=
  let (negative, cs) := signed (trimList isBlankAroundNumber s.toList)
  match digitRun cs with
  | (d :: ds, []) =>
    if (d :: ds).length ≤ wholeDigitLimit then
      some (if negative then -(ofDigits (d :: ds) : Int) else ofDigits (d :: ds))
    else none
  | _ => none

-- ---------------------------------------------------------------------------
-- Fractions and exponents
-- ---------------------------------------------------------------------------

/-- A written number: `coefficient · 10 ^ exponent` under a sign. -/
structure Numeral where
  negative : Bool
  coefficient : Nat
  exponent : Int

/-- The power of ten that ends a number; nothing stands for zero. -/
def readExponent? : List Char → Option Int
  | [] => some 0
  | c :: rest =>
    if c = 'e' ∨ c = 'E' then
      let (negative, cs) := signed rest
      match digitRun cs with
      | (d :: ds, []) => some (if negative then -(ofDigits (d :: ds) : Int) else ofDigits (d :: ds))
      | _ => none
    else none

/-- Read digits, a point among them if there is one, and an exponent. -/
def Numeral.ofList? (negative : Bool) (cs : List Char) : Option Numeral :=
  let (whole, rest) := digitRun cs
  let (fraction, rest) := match rest with
    | '.' :: more => digitRun more
    | rest => ([], rest)
  if whole.isEmpty && fraction.isEmpty then none
  else (readExponent? rest).map fun e =>
    ⟨negative, ofDigits (whole ++ fraction), e - fraction.length⟩

/-- The same word, in any mixture of cases. -/
def isWord (word : String) (cs : List Char) : Bool :=
  cs.map Char.toLower == word.toList

/-- Read the double nearest to a written number. -/
def Binary64.ofText? (s : String) : Option Binary64 :=
  let (negative, cs) := signed (trimList isBlankAroundNumber s.toList)
  if isWord "inf" cs || isWord "infinity" cs then some (.infinite negative)
  else if isWord "nan" cs then some .nan
  else (Numeral.ofList? negative cs).map fun n =>
    .ofDecimal n.negative n.coefficient n.exponent

/-- The greatest exponent the first digit of a decimal may have, and the least its
    last digit may have. -/
def Decimal.exponentBounds : Int × Int := (999999999999999999, -1999999999999999997)

/-- A decimal from its digits, when its exponents are within their bounds; the
    digits of zero have only the one. -/
def Decimal.ofNumeral? (n : Numeral) : Option Decimal :=
  let (greatest, least) := exponentBounds
  let digits := if n.coefficient = 0 then 1 else digitCount n.coefficient
  if least ≤ n.exponent ∧ n.exponent + digits - 1 ≤ greatest then
    some (.finite n.negative n.coefficient n.exponent)
  else none

/-- Read a decimal, digit for digit. -/
def Decimal.ofText? (s : String) : Option Decimal :=
  let (negative, cs) := signed ((trimList isBlank s.toList).filter (· ≠ '_'))
  let diagnostic? (rest : List Char) : Option Nat :=
    match digitRun rest with
    | (ds, []) => some (ofDigits ds)
    | _ => none
  if isWord "inf" cs || isWord "infinity" cs then some (.infinite negative)
  else if isWord "nan" (cs.take 3) then (diagnostic? (cs.drop 3)).map (.nan negative false)
  else if isWord "snan" (cs.take 4) then (diagnostic? (cs.drop 4)).map (.nan negative true)
  else (Numeral.ofList? negative cs).bind ofNumeral?

end SqlDialects
