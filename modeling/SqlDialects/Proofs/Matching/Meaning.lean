-- SUMMARY: What expressions on texts denote: literals, concatenation, comparison, matching by LIKE and by position, and negation, with NULL passed on.
import SqlDialects.Number.Reading
import SqlDialects.Proofs.Matching.Like

/-!
# The meaning of expressions on texts

An expression denotes a datum. A literal denotes the value it writes, and the operators
and functions on texts take every operand by its text and give NULL of a NULL. How a
regular expression matches, and what all other expressions denote, is left open.
-/

namespace SqlDialects

-- ---------------------------------------------------------------------------
-- Data
-- ---------------------------------------------------------------------------

inductive Datum where
  | null
  | truth (b : Bool)
  | whole (n : Int)
  | text (s : List Char)
  /-- A value of another type, by its text. -/
  | other (s : List Char)
  deriving DecidableEq

namespace Datum

/-- The text that a datum contributes where a text is asked for; NULL has none. -/
def text? : Datum → Option (List Char)
  | .null => none
  | .truth b => some (if b then "true" else "false").toList
  | .whole n => some (toString n).toList
  | .text s => some s
  | .other s => some s

/-- A function of two texts; it gives NULL of a NULL. -/
def ofTexts (f : List Char → List Char → Datum) (a b : Datum) : Datum :=
  match a.text?, b.text? with
  | some s, some t => f s t
  | _, _ => .null

def concat : Datum → Datum → Datum := ofTexts fun s t => .text (s ++ t)

def like : Datum → Datum → Datum := ofTexts fun s pattern => .truth (likeMatches pattern s)

def position : Datum → Datum → Datum := ofTexts fun s p => .whole (strpos s p)

def length (a : Datum) : Datum :=
  match a.text? with
  | some s => .whole s.length
  | none => .null

/-- The last characters of a text, as many as a whole number from zero on says. -/
def right? (a : Datum) : Datum → Option Datum
  | .whole (.ofNat n) => some (match a.text? with
    | some s => .text (lastChars n s)
    | none => .null)
  | .null => some .null
  | _ => none

/-- Two whole numbers are compared as numbers, and a text with the text of the other datum. -/
def equals? : Datum → Datum → Option Datum
  | .null, _ => some .null
  | _, .null => some .null
  | .whole m, .whole n => some (.truth (m = n))
  | .text s, b => some (ofTexts (fun s t => .truth (s = t)) (.text s) b)
  | _, _ => none

def not? : Datum → Option Datum
  | .null => some .null
  | .truth b => some (.truth !b)
  | _ => none

@[simp] theorem text?_text (s : List Char) : (text s).text? = some s := rfl

theorem eq_null_or_text? (d : Datum) : d = .null ∨ ∃ s, d.text? = some s := by
  cases d with
  | null => exact .inl rfl
  | truth b => exact .inr ⟨_, rfl⟩
  | whole n => exact .inr ⟨_, rfl⟩
  | text s => exact .inr ⟨_, rfl⟩
  | other s => exact .inr ⟨_, rfl⟩

variable {a b : Datum} {s t : List Char}

theorem ofTexts_of_text? (ha : a.text? = some s) (hb : b.text? = some t)
    (f : List Char → List Char → Datum) : ofTexts f a b = f s t := by
  rw [ofTexts, ha, hb]

theorem ofTexts_null (a : Datum) (f : List Char → List Char → Datum) :
    ofTexts f a .null = .null := by
  unfold ofTexts
  split
  next hnone => cases hnone
  next => rfl

/-- A text is compared with the text of a datum that is not NULL. -/
theorem equals?_text (hb : b.text? = some t) : (text s).equals? b = some (.truth (s = t)) := by
  cases b with
  | null => cases hb
  | truth => exact congrArg some (ofTexts_of_text? (text?_text s) hb _)
  | whole => exact congrArg some (ofTexts_of_text? (text?_text s) hb _)
  | text => exact congrArg some (ofTexts_of_text? (text?_text s) hb _)
  | other => exact congrArg some (ofTexts_of_text? (text?_text s) hb _)

end Datum

/-! ## Numeric constants -/

/-- Digits with the decimal point behind the first of them; no point is written where no
    digit would follow it. -/
def placedDigits (digits : List Char) (point : Int) : List Char :=
  if point ≤ 0 then '0' :: '.' :: (List.replicate (-point).toNat '0' ++ digits)
  else
    let whole := digits.take point.toNat ++ List.replicate (point.toNat - digits.length) '0'
    match digits.drop point.toNat with
    | [] => whole
    | fraction => whole ++ '.' :: fraction

/-- The whole number that an exponent writes behind its letter. -/
def exponentValue (cs : List Char) : Int :=
  let (negative, digits) := signed cs
  let n : Nat := digits.foldl (fun n d => 10 * n + (d.toNat - '0'.toNat)) 0
  if negative then -n else n

/-- The text of the number that a constant writes. It has no exponent, and zero has no sign. -/
def numericText (constant : List Char) : List Char :=
  let (negative, cs) := signed constant
  let (mantissa, exponent) := cs.span (· ≠ 'e')
  let (whole, fraction) := mantissa.span (· ≠ '.')
  let digits := whole ++ fraction.drop 1
  (if negative && digits.any (· ≠ '0') then ['-'] else []) ++
    placedDigits digits (whole.length + exponentValue (exponent.drop 1))

example : numericText "-1.5e-07".toList = "-0.00000015".toList ∧
    numericText "1.5e+16".toList = "15000000000000000".toList := by decide

-- ---------------------------------------------------------------------------
-- Literals
-- ---------------------------------------------------------------------------

/-- The text of the number that the literal of a double writes. -/
def Binary64.sqlText : Binary64 → List Char
  | .finite negative place => numericText (Binary64.finite negative place).text.toList
  | .infinite negative => (if negative then "-Infinity" else "Infinity").toList
  | .nan => "NaN".toList

/-- What the literal of a scalar denotes. Times, moments and decimals, whose text depends on
    more than their literal, are left open. -/
def Scalar.datum? : Scalar → Option Datum
  | .null => some .null
  | .bool b => some (.truth b)
  | .number (.whole n) => some (.whole n)
  | .number (.double x) => some (.other x.sqlText)
  | .text s => some (.text s.toList)
  | .date d => some (.other d.isoList)
  | _ => none

def Value.datum? : Value → Option Datum
  | .scalar s => s.datum?
  | _ => none

-- ---------------------------------------------------------------------------
-- Expressions
-- ---------------------------------------------------------------------------

/-- What is left open: which texts match a regular expression, and what all other
    expressions denote, `none` where they raise an error. -/
structure Interpretation where
  regex : (pattern s : List Char) → Bool
  other : Expr → Option Datum

namespace Expr

variable (i : Interpretation)

/-- What an expression denotes. -/
def meaning : Expr → Option Datum
  | .literal v => v.datum?
  | .paren e => e.meaning
  | .unary "NOT" e => do (← e.meaning).not?
  | .binary "||" l r => do return (← l.meaning).concat (← r.meaning)
  | .binary "~" l r => do
    return .ofTexts (fun s pattern => .truth (i.regex pattern s)) (← l.meaning) (← r.meaning)
  | .binary "LIKE" l r => do return (← l.meaning).like (← r.meaning)
  | .binary "NOT LIKE" l r => do ((← l.meaning).like (← r.meaning)).not?
  | .binary "=" l r => do (← l.meaning).equals? (← r.meaning)
  | .binary "!=" l r => do (← (← l.meaning).equals? (← r.meaning)).not?
  | .call "STRPOS" [s, p] false => do return (← s.meaning).position (← p.meaning)
  | .call "LENGTH" [s] false => do return (← s.meaning).length
  | .call "RIGHT" [s, n] false => do (← s.meaning).right? (← n.meaning)
  | e => i.other e

variable {i} {e l r : Expr} {a b : Datum}

@[simp] theorem meaning_literal (v : Value) : (literal v).meaning i = v.datum? := rfl

theorem meaning_not (he : e.meaning i = some a) : (unary "NOT" e).meaning i = a.not? := by
  change (do (← e.meaning i).not?) = a.not?
  rw [he]
  rfl

theorem meaning_length (he : e.meaning i = some a) :
    (call "LENGTH" [e] false).meaning i = some a.length := by
  change (do return (← e.meaning i).length) = some a.length
  rw [he]
  rfl

section

variable (hl : l.meaning i = some a) (hr : r.meaning i = some b)
include hl hr

theorem meaning_concat : (binary "||" l r).meaning i = some (a.concat b) := by
  change (do return (← l.meaning i).concat (← r.meaning i)) = some (a.concat b)
  rw [hl, hr]
  rfl

theorem meaning_regex : (binary "~" l r).meaning i =
    some (.ofTexts (fun s pattern => .truth (i.regex pattern s)) a b) := by
  change (do
    return Datum.ofTexts (fun s pattern => .truth (i.regex pattern s)) (← l.meaning i)
      (← r.meaning i)) = _
  rw [hl, hr]
  rfl

theorem meaning_like : (binary "LIKE" l r).meaning i = some (a.like b) := by
  change (do return (← l.meaning i).like (← r.meaning i)) = some (a.like b)
  rw [hl, hr]
  rfl

theorem meaning_notLike : (binary "NOT LIKE" l r).meaning i = (a.like b).not? := by
  change (do ((← l.meaning i).like (← r.meaning i)).not?) = (a.like b).not?
  rw [hl, hr]
  rfl

theorem meaning_eq : (binary "=" l r).meaning i = a.equals? b := by
  change (do (← l.meaning i).equals? (← r.meaning i)) = a.equals? b
  rw [hl, hr]
  rfl

theorem meaning_ne : (binary "!=" l r).meaning i = (a.equals? b).bind Datum.not? := by
  change (do (← (← l.meaning i).equals? (← r.meaning i)).not?) = (a.equals? b).bind Datum.not?
  rw [hl, hr]
  rfl

theorem meaning_strpos : (call "STRPOS" [l, r] false).meaning i = some (a.position b) := by
  change (do return (← l.meaning i).position (← r.meaning i)) = some (a.position b)
  rw [hl, hr]
  rfl

theorem meaning_right : (call "RIGHT" [l, r] false).meaning i = a.right? b := by
  change (do (← l.meaning i).right? (← r.meaning i)) = a.right? b
  rw [hl, hr]
  rfl

end

end Expr

end SqlDialects
