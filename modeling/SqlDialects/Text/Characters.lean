-- SUMMARY: Classes of characters as ranges of code points: white space and stripping it, ends of lines, and the digits of every script.

/-!
# Classes of characters

A class of characters is a list of inclusive ranges of code points in increasing
order. White space is stripped from both ends of a text, ends of lines cut it into
lines, and digits write a number in any script.
-/

namespace SqlDialects

/-- Inclusive ranges of code points, in increasing order. -/
abbrev CodeRanges := List (Nat × Nat)

namespace CodeRanges

def contains (ranges : CodeRanges) (c : Char) : Bool :=
  ranges.any fun range => range.1 ≤ c.toNat && c.toNat ≤ range.2

end CodeRanges

namespace Text

-- ---------------------------------------------------------------------------
-- White space
-- ---------------------------------------------------------------------------

/-- The separators of Unicode, the controls from tab to carriage return, the four
    information separators and the next-line control. -/
def blanks : CodeRanges :=
  [(9, 13), (28, 32), (133, 133), (160, 160), (5760, 5760), (8192, 8202),
   (8232, 8233), (8239, 8239), (8287, 8287), (12288, 12288)]

def isBlank (c : Char) : Bool := blanks.contains c

/-- White space that a number may stand in: the information separators are not of it. -/
def isBlankAroundNumber (c : Char) : Bool :=
  isBlank c && !(28 ≤ c.toNat && c.toNat ≤ 31)

/-- Without the characters of a class at both ends. -/
def trimList (p : Char → Bool) (cs : List Char) : List Char :=
  ((cs.dropWhile p).reverse.dropWhile p).reverse

/-- Without white space at both ends. -/
def strip (s : String) : String := String.ofList (trimList isBlank s.toList)

-- ---------------------------------------------------------------------------
-- Lines
-- ---------------------------------------------------------------------------

/-- The characters that end a line. -/
def isLineEnd (c : Char) : Bool :=
  [10, 11, 12, 13, 28, 29, 30, 133, 8232, 8233].contains c.toNat

/-- The lines of a text, without their ends. A carriage return before a line feed ends
    a line together with the feed, and the last line needs no end. -/
def lines : List Char → List (List Char)
  | [] => []
  | '\r' :: '\n' :: rest => [] :: lines rest
  | c :: rest =>
    if isLineEnd c then [] :: lines rest
    else match lines rest with
      | [] => [[c]]
      | line :: more => (c :: line) :: more

/-- Two blanks before every line, and a line feed between lines. -/
def indent (s : String) : String :=
  "\n".intercalate ((lines s.toList).map fun line => "  " ++ String.ofList line)

-- ---------------------------------------------------------------------------
-- Decimal digits
-- ---------------------------------------------------------------------------

/-- The zero of every script in Unicode 14.0; the digits of a script are ten
    consecutive code points from it on. -/
def zeroDigits : List Nat :=
  [48, 1632, 1776, 1984, 2406, 2534, 2662, 2790, 2918, 3046, 3174, 3302,
   3430, 3558, 3664, 3792, 3872, 4160, 4240, 6112, 6160, 6470, 6608, 6784,
   6800, 6992, 7088, 7232, 7248, 42528, 43216, 43264, 43472, 43504, 43600, 44016,
   65296, 66720, 68912, 69734, 69872, 69942, 70096, 70384, 70736, 70864, 71248, 71360,
   71472, 71904, 72016, 72784, 73040, 73120, 92768, 92864, 93008, 120782, 120792, 120802,
   120812, 120822, 123200, 123632, 125264, 130032]

/-- The value of a decimal digit. -/
def digitValue? (c : Char) : Option Nat :=
  (zeroDigits.find? fun first => first ≤ c.toNat && c.toNat < first + 10).map (c.toNat - ·)

/-- Digits, single underscores allowed between them, and what follows. -/
def digitRun : List Char → List Nat × List Char
  | [] => ([], [])
  | c :: rest =>
    match digitValue? c with
    | none => ([], c :: rest)
    | some d =>
      match rest with
      | '_' :: next :: more =>
        if (digitValue? next).isSome then
          let (ds, left) := digitRun (next :: more)
          (d :: ds, left)
        else ([d], '_' :: next :: more)
      | rest =>
        let (ds, left) := digitRun rest
        (d :: ds, left)

/-- The natural that decimal digits write. -/
def ofDigits (digits : List Nat) : Nat :=
  digits.foldl (fun n d => 10 * n + d) 0

end Text

end SqlDialects
