-- SUMMARY: Texts and byte strings between quotes, as messages show them.
import SqlDialects.Text.Printable

/-!
# Quoted text

A text is shown between single quotes, or between double quotes when it holds a
single quote and no double one. The quote, the backslash and every unprintable
character are escaped.
-/

namespace SqlDialects.Text

/-- The low `count` hexadecimal digits of a number, highest first. -/
def hexDigits : Nat → Nat → List Char
  | 0, _ => []
  | count + 1, n => hexDigits count (n / 16) ++ [Nat.digitChar (n % 16)]

/-- An escape by code point, as short as the code point allows. -/
def codeEscape (code : Nat) : List Char :=
  if code < 256 then '\\' :: 'x' :: hexDigits 2 code
  else if code < 65536 then '\\' :: 'u' :: hexDigits 4 code
  else '\\' :: 'U' :: hexDigits 8 code

def escapeChar (quote : Char) (printable : Char → Bool) (c : Char) : List Char :=
  if c = quote ∨ c = '\\' then ['\\', c]
  else if c = '\n' then ['\\', 'n']
  else if c = '\r' then ['\\', 'r']
  else if c = '\t' then ['\\', 't']
  else if printable c then [c]
  else codeEscape c.toNat

/-- The quote that needs no escape, where there is one. -/
def quoteFor (cs : List Char) : Char :=
  if cs.contains '\'' && !cs.contains '"' then '"' else '\''

def quotedList (printable : Char → Bool) (cs : List Char) : List Char :=
  let quote := quoteFor cs
  quote :: cs.flatMap (escapeChar quote printable) ++ [quote]

/-- A text between quotes. -/
def quoted (s : String) : String := String.ofList (quotedList isPrintable s.toList)

/-- Bytes between quotes after a `b`; the ASCII ones are shown as characters. -/
def quotedBytes (bytes : List UInt8) : String :=
  String.ofList ('b' ::
    quotedList (fun c => 32 ≤ c.toNat && c.toNat < 127) (bytes.map fun b => Char.ofNat b.toNat))

end SqlDialects.Text
