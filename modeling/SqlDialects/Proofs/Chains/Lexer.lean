-- SUMMARY: Cutting the text of a chain into lexemes: words, quoted tokens, numbers, rows of operator characters and marks.
import SqlDialects.Proofs.Chains.Parser
import SqlDialects.Proofs.Lexing.Lexer
import SqlDialects.Proofs.Vocabulary
import SqlDialects.Render

/-!
# Lexemes of written chains

Between double quotes stands a name and between single quotes a text. A word is a name
unless it is a reserved word of the grammar; the two operators that are no reserved words
are written in capitals, and no name without quotes is. A row of operator characters is
one operator, whatever it consists of.

A line feed behind a word is read as part of it. Only a name that ends in one is written
so; outside of quotes there are no other line feeds.
-/

namespace SqlDialects.Chains

open Identifier (continuesWord)
open Lexer (Continues LexesTo)

/-! ## Reading -/

/-- The reserved words of the grammar, in lower case. -/
def keywords : List (List Char × Lexeme) :=
  [("and".toList, .op .and), ("or".toList, .op .or), ("in".toList, .op .among),
   ("from".toList, .op .partOf), ("not".toList, .not), ("null".toList, .null),
   ("true".toList, .truth true), ("false".toList, .truth false), ("cast".toList, .cast),
   ("as".toList, .as), ("distinct".toList, .distinct)]

/-- Operators that a name without quotes could be too, but for their case. -/
def capitals : List (List Char × Lexeme) :=
  [("LIKE".toList, .op .like), ("ILIKE".toList, .op .ilike)]

/-- The lexeme of a word without quotes. -/
def wordLexeme (letters : List Char) : Lexeme :=
  ((keywords.lookup (letters.map Char.toLower)).or (capitals.lookup letters)).getD
    (.name (String.ofList letters))

/-- What a word goes on with. -/
def continuesName (c : Char) : Bool := continuesWord c || c = '\n'

/-- The operator of a row of operator characters. -/
def rowOperator (row : List Char) : Operator :=
  if row = ['-'] then .minus else .symbols (String.ofList row)

/-- The lexemes of a chain. -/
def lexer : Lexer Lexeme where
  blanks := [' ']
  quotes := [('"', .name), ('\'', .text)]
  continuesWord := continuesName
  word := wordLexeme
  number := .number
  row letters := some (.op (rowOperator letters))
  marks := [('(', .opening), (')', .closing), (',', .comma), ('.', .dot)]

/-- Read the text of a chain as the expression it stands for. -/
def read (s : String) : Option Expr := ((lexer.lex s.toList).bind parse).map Chain.expr

/-! ## Words and operators -/

/-- The operator with the text. -/
def Operator.ofText (s : String) : Operator :=
  ([("-", .minus), ("AND", .and), ("OR", .or), ("IN", .among), ("FROM", .partOf), ("LIKE", .like),
    ("ILIKE", .ilike)].lookup s).getD (.symbols s)

def Connector.ofText (s : String) : Connector :=
  if s = "NOT LIKE" then .notLike else .op (.ofText s)

/-- The operators of the vocabulary are words and rows, but for one of two words. -/
theorem cases_of_mem_binaryOperators : ∀ op ∈ Vocabulary.binaryOperators, op = "NOT LIKE" ∨
    (op ≠ "NOT LIKE" ∧ (lexer.isWord op (.op (.ofText op)) = true ∨
      lexer.isRow op (.op (.ofText op)) = true)) := by
  decide

/-- Every operator of the vocabulary is read as what stands between two operands. -/
theorem lexesTo_connector {op : String} (h : op ∈ Vocabulary.binaryOperators) :
    lexer.LexesTo op (Connector.ofText op).lexemes := by
  rcases cases_of_mem_binaryOperators op h with rfl | ⟨hop, hlexeme⟩
  · have hnot : lexer.LexesTo "NOT" [.not] := .of_isWord (by decide)
    have hlike : lexer.LexesTo "LIKE" [.op .like] := .of_isWord (by decide)
    exact hnot.append (.blank hlike)
  · rw [Connector.ofText, if_neg hop]
    rcases hlexeme with hword | hrow
    · exact .of_isWord hword
    · exact .of_isRow hrow

theorem Connector.text_ofText : ∀ op ∈ Vocabulary.binaryOperators,
    (Connector.ofText op).text = op := by
  decide

theorem lexesTo_function {name : String} (h : name ∈ Vocabulary.functions) :
    lexer.LexesTo name [.name name] := by
  have hnames : ∀ name ∈ Vocabulary.functions, lexer.isWord name (.name name) = true := by
    decide
  exact .of_isWord (hnames name h)

theorem lexesTo_castType {name : String} (h : name ∈ Vocabulary.castTypes) :
    lexer.LexesTo name [.name name] := by
  have hnames : ∀ name ∈ Vocabulary.castTypes, lexer.isWord name (.name name) = true := by
    decide
  exact .of_isWord (hnames name h)

/-! ## Names and literals -/

/-- A plain name that is not reserved is no word of the grammar. -/
theorem wordLexeme_of_not_reserved {name : String} (hplain : Identifier.isPlain name.toList = true)
    (hreserved : Identifier.isReserved name = false) : wordLexeme name.toList = .name name := by
  have hkeys : ∀ key ∈ keywords, Identifier.isReserved (String.ofList key.1) = true := by decide
  have hupper : ∀ key ∈ capitals, key.1.any (fun c => !Identifier.isPart c && c ≠ '\n') = true := by
    decide
  have hlower : ∀ d ∈ name.toList, d.toLower = id d := by
    intro d hd
    rcases Identifier.isPart_or_eq_of_isPlain hplain d hd with hpart | rfl
    · exact Identifier.toLower_of_isPart hpart
    · rfl
  have hkeyword : keywords.lookup name.toList = none := by
    refine List.lookup_eq_none_iff.2 fun key hkey => bne_iff_ne.2 fun heq => ?_
    have hkeyReserved := hkeys key hkey
    rw [← heq, String.ofList_toList, hreserved] at hkeyReserved
    cases hkeyReserved
  have hcapital : capitals.lookup name.toList = none := by
    refine List.lookup_eq_none_iff.2 fun key hkey => bne_iff_ne.2 fun heq => ?_
    have hbad := hupper key hkey
    rw [← heq, List.any_eq_true] at hbad
    obtain ⟨d, hd, hbad⟩ := hbad
    rcases Identifier.isPart_or_eq_of_isPlain hplain d hd with hpart | rfl
    · simp [hpart] at hbad
    · simp at hbad
  rw [wordLexeme, List.map_congr_left hlower, List.map_id, hkeyword, hcapital]
  exact congrArg Lexeme.name String.ofList_toList

/-- Every name is read back. -/
theorem lexesTo_escaped (name : String) :
    lexer.LexesTo (Identifier.escaped name) [.name name] := by
  rw [Identifier.escaped]
  split
  next hplain =>
    obtain ⟨hplain, hreserved⟩ := Bool.and_eq_true_iff.1 hplain
    have hword := wordLexeme_of_not_reserved hplain (by simpa using hreserved)
    cases hname : name.toList with
    | nil =>
      rw [hname] at hplain
      cases hplain
    | cons c ds =>
      rw [hname] at hplain hword
      have hds : ∀ d ∈ ds, continuesName d = true := by
        intro d hd
        rcases Identifier.isPart_or_eq_of_isPlain hplain d (List.mem_cons_of_mem c hd) with
          hpart | rfl
        · rw [continuesName, Identifier.continuesWord_of_isPart hpart, Bool.true_or]
        · decide
      have hc := Identifier.startsWord_of_isFirst (Bool.and_eq_true_iff.1 hplain).1
      rw [← hword]
      exact .word hname hc hds
  next => exact .quoted rfl name

/-- A name behind that of a table. -/
theorem lexesTo_qualified (table name : String) :
    lexer.LexesTo (Identifier.escaped table ++ "." ++ Identifier.escaped name)
      [.name table, .dot, .name name] := by
  have hdot : lexer.Continues ("." ++ Identifier.escaped name) [.dot, .name name] :=
    .mark rfl rfl (lexesTo_escaped name)
  rw [String.append_assoc]
  exact (lexesTo_escaped table).append hdot

/-- A negative number is read as a minus and its amount. -/
theorem lexesTo_whole (n : Int) : lexer.LexesTo (toString n) (wholeLexemes n) := by
  cases n with
  | ofNat n => exact .repr n
  | negSucc n => exact .row_append (s := "-") (by decide) (startsWithout_repr (n + 1)) (.repr _)

/-- A text is read back whatever it holds. -/
theorem lexesTo_text {backend : Backend} {s t : String} (h : backend.textLiteral s = .ok t) :
    lexer.LexesTo t [.text s] := by
  rw [Backend.textLiteral] at h
  split at h
  · cases h
  · cases h
    have hquoted : lexer.LexesTo (String.ofList ('\'' :: (doubled '\'' s.toList ++ ['\''])))
        [.text s] := .quoted rfl s
    simpa using hquoted

end SqlDialects.Chains
