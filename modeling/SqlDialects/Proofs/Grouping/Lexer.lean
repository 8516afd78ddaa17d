-- SUMMARY: Cutting the text of an operation into lexemes, and texts whose lexemes start with a minus as they do.
import SqlDialects.Proofs.Grouping.Parser
import SqlDialects.Proofs.Lexing.Lexer
import SqlDialects.Render

/-!
# Lexemes in text

A text is an identifier or a keyword, digits, a row of operator characters, or a single
mark after the other, with white space between them. Two minus signs side by side are one
row of operator characters, and no operator.
-/

namespace SqlDialects.Grouping

open Identifier (continuesWord)
open Lexer (Continues LexesTo)

/-! ## Reading -/

/-- Words that are no names, in lower case. -/
def keywords : List (List Char × Lexeme) :=
  [("or".toList, .op .or), ("and".toList, .op .and), ("not".toList, .not), ("is".toList, .is),
   ("null".toList, .null), ("in".toList, .among), ("true".toList, .truth true),
   ("false".toList, .truth false)]

/-- The lexeme of an unquoted word. -/
def wordLexeme (letters : List Char) : Lexeme :=
  (keywords.lookup (letters.map Char.toLower)).getD (.name (String.ofList letters))

/-- No word is a minus. -/
theorem wordLexeme_ne_sub (letters : List Char) : wordLexeme letters ≠ .op .sub := by
  have hkeywords : ∀ keyword ∈ keywords, keyword.2 ≠ .op .sub := by decide
  rw [wordLexeme]
  cases hlookup : keywords.lookup (letters.map Char.toLower) with
  | none => simp
  | some l => exact hkeywords _ (mem_of_lookup hlookup)

/-- The lexeme a name is read back as: a plain one without the line feed that may
    end it, and as a keyword when that is one. -/
def nameLexeme (name : String) : Lexeme :=
  if Identifier.isPlain name.toList && !Identifier.isReserved name then
    wordLexeme (name.toList.filter (· ≠ '\n'))
  else .name name

/-- A plain name is a word, but for the line feed that may end it. -/
theorem filter_word {name : String} {c : Char} {ds : List Char}
    (hc : Identifier.isFirst c = true) (hds : ∀ d ∈ ds, Identifier.isPart d = true)
    (hname : name.toList = c :: ds ∨ name.toList = c :: ds ++ ['\n']) :
    name.toList.filter (· ≠ '\n') = c :: ds := by
  have hkeep : (c :: ds).filter (· ≠ '\n') = c :: ds := by
    rw [List.filter_eq_self]
    intro d hd
    exact decide_eq_true
      (Identifier.ne_lineFeed_of_isPart (Identifier.isPart_of_mem_word hc hds hd))
  rcases hname with hname | hname
  · rw [hname, hkeep]
  · rw [hname, List.filter_append, hkeep, List.filter_cons_of_neg (by decide), List.filter_nil,
      List.append_nil]

/-- A lexeme as it is read back. -/
def Lexeme.asWritten : Lexeme → Lexeme
  | .name s => nameLexeme s
  | l => l

/-- The operators that are written with symbols. -/
def symbolic : List (List Char × Operator) :=
  [Operator.eq, .ne, .lt, .le, .gt, .ge, .add, .sub, .mul, .div, .mod].map fun op =>
    (op.text.toList, op)

/-- The lexemes of an operation. -/
def lexer : Lexer Lexeme where
  blanks := [' ', '\t', '\r', '\n']
  quotes := [('"', .name)]
  continuesWord := continuesWord
  word := wordLexeme
  number := .number
  row letters := (symbolic.lookup letters).map .op
  marks := [('(', .opening), (')', .closing), (',', .comma), ('.', .dot)]

/-- Read an operation by the precedence of its operators. -/
def read (s : String) : Option Tree := (lexer.lex s.toList).bind parse

/-! ## Texts that lex on their own -/

theorem lexesTo_operator (op : Operator) : lexer.LexesTo op.text [.op op] := by
  cases op with
  | or => exact .of_isWord (by decide)
  | and => exact .of_isWord (by decide)
  | _ => exact .of_isRow (by decide)

/-- A text that lexes on its own, and starts with a minus when its lexemes do. -/
structure Lexes (s : String) (w : List Lexeme) : Prop where
  starts : ∃ c cs l ls, s.toList = c :: cs ∧ w = l :: ls ∧
    (isSymbol c = true → c = '-') ∧ (c = '-' ↔ l = .op .sub)
  lexes : lexer.LexesTo s w

namespace Lexes

variable {s t : String} {v w : List Lexeme}

theorem startsMinus_iff (h : Lexes s w) :
    s.toList.head? = some '-' ↔ w.head? = some (.op .sub) := by
  obtain ⟨c, cs, l, ls, hs, rfl, _, hminus⟩ := h.starts
  simpa [hs] using hminus

theorem append (h : Lexes s v) (ht : lexer.Continues t w) : Lexes (s ++ t) (v ++ w) := by
  obtain ⟨c, cs, l, ls, hs, rfl, hstart⟩ := h.starts
  refine ⟨⟨c, cs ++ t.toList, l, ls ++ w, ?_, rfl, hstart⟩, h.lexes.append ht⟩
  rw [String.toList_append, hs, List.cons_append]

/-- Text that starts with no operator character, and whose first lexeme is no minus. -/
theorem of_lexesTo {c : Char} {l : Lexeme} (hs : s.toList.head? = some c)
    (hc : isSymbol c = false) (hl : l ≠ .op .sub) (h : lexer.LexesTo s (l :: w)) :
    Lexes s (l :: w) := by
  obtain ⟨cs, hs⟩ := List.head?_eq_some_iff.1 hs
  refine ⟨⟨c, cs, l, w, hs, rfl, fun hsymbol => ?_, fun hminus => ?_, fun hsub => ?_⟩, h⟩
  · rw [hc] at hsymbol
    cases hsymbol
  · rw [hminus] at hc
    cases hc
  · exact absurd hsub hl

theorem parenthesised (h : Lexes s w) :
    Lexes (parenthesised s) (.opening :: (w ++ [.closing])) := by
  have hclosing : lexer.Continues ")" [.closing] := .last rfl rfl
  have hopening : lexer.Continues ("(" ++ (s ++ ")")) (.opening :: (w ++ [.closing])) :=
    .mark rfl rfl (h.append hclosing).lexes
  rw [SqlDialects.parenthesised, String.append_assoc]
  refine of_lexesTo (c := '(') ?_ (by decide) (by simp) hopening.lexes
  rw [String.toList_append]
  rfl

theorem binary (h : Lexes s v) (op : Operator) (ht : Lexes t w) :
    Lexes (s ++ " " ++ op.text ++ " " ++ t) (v ++ .op op :: w) := by
  have hright := (Continues.blank (lexesTo_operator op)).append (.blank ht.lexes)
  simpa [String.append_assoc] using h.append hright

theorem isNull (h : Lexes s w) : Lexes (s ++ " " ++ "IS NULL") (w ++ [.is, .null]) := by
  have his : lexer.LexesTo "IS" [.is] := .of_isWord (by decide)
  have hnull : lexer.LexesTo "NULL" [.null] := .of_isWord (by decide)
  have hright := (Continues.blank his).append (.blank hnull)
  rw [String.append_assoc]
  exact h.append hright

theorem not (h : Lexes s w) : Lexes ("NOT" ++ " " ++ s) (.not :: w) := by
  have hnot : lexer.LexesTo "NOT" [.not] := .of_isWord (by decide)
  have hall := hnot.append (.blank h.lexes)
  rw [String.append_assoc]
  refine of_lexesTo (c := 'N') ?_ (by decide) (by simp) hall
  rw [String.toList_append]
  rfl

theorem among (h : Lexes s v) (ht : Lexes t w) :
    Lexes (s ++ " " ++ "IN" ++ " " ++ t) (v ++ .among :: w) := by
  have hin : lexer.LexesTo "IN" [.among] := .of_isWord (by decide)
  have hright := (Continues.blank hin).append (.blank ht.lexes)
  simp only [String.append_assoc] at hright ⊢
  exact h.append hright

/-- A minus is an operator in front of what does not start with one. -/
theorem neg (h : Lexes s w) (hs : s.toList.head? ≠ some '-') :
    Lexes ("-" ++ s) (.op .sub :: w) := by
  have hminus : ("-" ++ s).toList = '-' :: s.toList := by rw [String.toList_append]; rfl
  refine ⟨⟨'-', s.toList, .op .sub, w, hminus, rfl, fun _ => rfl, by simp⟩, ?_⟩
  refine .row_append (by decide) (fun rest => ?_) h.lexes
  -- a longer row of operator characters would be another lexeme
  obtain ⟨c, cs, _, _, hcs, _, hsymbol, _⟩ := h.starts
  rw [hcs] at hs ⊢
  refine .cons ?_ _
  rw [Bool.eq_false_iff]
  intro hc
  exact hs (congrArg some (hsymbol hc))

theorem truth (b : Bool) : Lexes (if b then "TRUE" else "FALSE") [.truth b] := by
  cases b with
  | true =>
    have hword : lexer.LexesTo "TRUE" [.truth true] := .of_isWord (by decide)
    exact of_lexesTo (c := 'T') rfl (by decide) (by simp) hword
  | false =>
    have hword : lexer.LexesTo "FALSE" [.truth false] := .of_isWord (by decide)
    exact of_lexesTo (c := 'F') rfl (by decide) (by simp) hword

theorem repr (n : Nat) : Lexes n.repr [.number n] := by
  obtain ⟨c, ds, hlist, hc, _⟩ := exists_digits n
  refine of_lexesTo (c := c) ?_ (not_isSymbol_of_isDigit hc) (by simp) (.repr n)
  rw [Nat.toList_repr, hlist]
  rfl

/-- A negative number is read as a minus and its amount. -/
theorem whole (n : Int) : Lexes (toString n) (wholeLexemes n) := by
  cases n with
  | ofNat n => exact repr n
  | negSucc n =>
    have hdigits := repr (n + 1)
    refine neg hdigits fun hminus => ?_
    cases hdigits.startsMinus_iff.1 hminus

theorem word {c : Char} {ds : List Char} (hs : s.toList = c :: ds ∨ s.toList = c :: ds ++ ['\n'])
    (hc : Identifier.isFirst c = true) (hds : ∀ d ∈ ds, Identifier.isPart d = true) :
    Lexes s [wordLexeme (c :: ds)] := by
  have hstart := Identifier.startsWord_of_isFirst hc
  have hparts : ∀ d ∈ ds, continuesWord d = true :=
    fun d hd => Identifier.continuesWord_of_isPart (hds d hd)
  refine of_lexesTo (c := c) ?_ (not_isSymbol_of_startsWord hstart) (wordLexeme_ne_sub _) ?_
  · rcases hs with hs | hs <;> rw [hs] <;> rfl
  · rcases hs with hs | hs
    · exact .word hs hstart hparts
    · intro rest hrest
      -- the line feed is blank, so it is lost
      rw [hs, List.append_assoc, List.singleton_append,
        Lexer.lex_word (L := lexer) hstart hparts (.cons (by decide) rest),
        Lexer.lex_blank (by decide)]
      rfl

theorem escaped (name : String) : Lexes (Identifier.escaped name) [nameLexeme name] := by
  rw [Identifier.escaped, nameLexeme]
  split
  next hplain =>
    obtain ⟨c, ds, hc, hds, hname⟩ :=
      Identifier.word_of_isPlain (Bool.and_eq_true_iff.1 hplain).1
    rw [filter_word hc hds hname]
    exact word hname hc hds
  next =>
    refine of_lexesTo (c := '"') ?_ (by decide) (by simp) ?_
    · simp [Identifier.quoted]
    · exact .quoted rfl name

/-- A name behind that of a table. -/
theorem qualified (table name : String) :
    Lexes (Identifier.escaped table ++ "." ++ Identifier.escaped name)
      [nameLexeme table, .dot, nameLexeme name] := by
  have hdot : lexer.Continues ("." ++ Identifier.escaped name) [.dot, nameLexeme name] :=
    .mark rfl rfl (escaped name).lexes
  rw [String.append_assoc]
  exact (escaped table).append hdot

end Lexes

end SqlDialects.Grouping
