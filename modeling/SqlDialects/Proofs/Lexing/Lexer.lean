-- SUMMARY: Lexers that cut a text into lexemes, what each way of starting a lexeme reads, and texts that are cut the same way whatever follows them.
import Mathlib
import SqlDialects.Proofs.Lexing.Identifier
import SqlDialects.Proofs.Steps

/-!
# Lexers

A text is read lexeme by lexeme, each as long as it can be: what stands between two
quotes, a word, digits, a row of operator characters, or a single mark. Blanks stand
between lexemes. Which lexemes these are, and which characters are blanks, quotes and
marks, is what one lexer differs in from another.

A text lexes on its own when the lexemes of a longer text that starts with it are
its own and then those of what follows.
-/

namespace SqlDialects

open Identifier (startsWord Follows isDelimiter)

/-- The characters of which operators are made. -/
def symbols : List Char :=
  ['+', '-', '*', '/', '<', '>', '=', '~', '!', '@', '#', '%', '^', '&', '|', Char.ofNat 96, '?']

def isSymbol (c : Char) : Bool := symbols.contains c

/-- A character that starts a word, a number or a row of operator characters. -/
def startsRun (c : Char) : Bool := startsWord c || c.isDigit || isSymbol c

/-- What the lexemes of a text are. Blanks, quotes and marks are different characters, and
    none of them starts anything else. -/
structure Lexer (α : Type) where
  blanks : List Char
  /-- Each quote, and the lexeme of what stands between two of it. -/
  quotes : List (Char × (String → α))
  continuesWord : Char → Bool
  word : List Char → α
  number : Nat → α
  row : List Char → Option α
  marks : List (Char × α)
  distinct : (blanks ++ quotes.map (·.1) ++ marks.map (·.1)).Nodup := by decide
  apart : (blanks ++ quotes.map (·.1) ++ marks.map (·.1)).any startsRun = false := by decide
  blank_mem : ' ' ∈ blanks := by decide
  quotesDelimitNothing : (quotes.map (·.1)).any isDelimiter = false := by decide
  marksDelimit : (marks.map (·.1)).all isDelimiter = true := by decide
  wordEnds : [' ', '.', ',', '(', ')'].any continuesWord = false := by decide

/-! ## Characters -/

theorem startsWord_of_isDigit {c : Char} (h : c.isDigit = true) : startsWord c = false := by
  have hdigit : 48 ≤ c.toNat ∧ c.toNat ≤ 57 := by
    simpa [Char.isDigit, UInt32.le_iff_toNat_le] using h
  have hunderscore : c ≠ '_' := by
    rintro rfl
    exact absurd h (by decide)
  rw [Bool.eq_false_iff]
  intro hword
  -- letters are the code points of the alphabet and all beyond ASCII
  have hletter : (65 ≤ c.toNat ∧ c.toNat ≤ 90 ∨ 97 ≤ c.toNat ∧ c.toNat ≤ 122) ∨
      128 ≤ c.toNat := by
    simpa [startsWord, Char.isAlpha, Char.isUpper, Char.isLower, UInt32.le_iff_toNat_le,
      hunderscore] using hword
  omega

theorem not_startsWord_of_isSymbol {c : Char} (h : isSymbol c = true) :
    startsWord c = false ∧ c.isDigit = false := by
  have hsymbols : (symbols.all fun c => !startsWord c && !c.isDigit) = true := by decide
  have hc := List.all_eq_true.1 hsymbols c (List.contains_iff_mem.1 h)
  simpa using hc

theorem not_isSymbol_of_isDigit {c : Char} (h : c.isDigit = true) : isSymbol c = false := by
  rw [Bool.eq_false_iff]
  intro hsymbol
  rw [(not_startsWord_of_isSymbol hsymbol).2] at h
  cases h

theorem not_isSymbol_of_startsWord {c : Char} (h : startsWord c = true) : isSymbol c = false := by
  rw [Bool.eq_false_iff]
  intro hsymbol
  rw [(not_startsWord_of_isSymbol hsymbol).1] at h
  cases h

/-- A number is written with a digit and further digits. -/
theorem exists_digits (n : Nat) : ∃ c ds, Nat.toDigits 10 n = c :: ds ∧ c.isDigit = true ∧
    ∀ d ∈ ds, d.isDigit = true := by
  have hdigits : ∀ d ∈ Nat.toDigits 10 n, d.isDigit = true :=
    fun d hd => Nat.isDigit_of_mem_toDigits (by decide) (by decide) hd
  obtain ⟨c, ds, hlist⟩ := List.exists_cons_of_ne_nil (Nat.toDigits_ne_nil (n := n) (b := 10))
  rw [hlist] at hdigits
  obtain ⟨hc, hds⟩ := List.forall_mem_cons.1 hdigits
  exact ⟨c, ds, hlist, hc, hds⟩

/-- So no row of operator characters runs into it. -/
theorem startsWithout_repr (n : Nat) (rest : List Char) :
    StartsWithout isSymbol (n.repr.toList ++ rest) := by
  obtain ⟨c, ds, hlist, hc, _⟩ := exists_digits n
  rw [Nat.toList_repr, hlist]
  exact .cons (not_isSymbol_of_isDigit hc) _

/-- What follows a lexeme starts with no character that could go on with it. -/
theorem Identifier.Follows.startsWithout {p : Char → Bool} {rest : List Char} (h : Follows rest)
    (hdelimiters : [' ', '.', ',', '(', ')'].any p = false) : StartsWithout p rest := by
  intro c hc
  have hmem : c ∈ [' ', '.', ',', '(', ')'] := by
    simpa [isDelimiter, or_assoc] using h c hc
  rw [Bool.eq_false_iff]
  intro hp
  exact Bool.false_ne_true (hdelimiters.symm.trans (List.any_eq_true.2 ⟨c, hmem, hp⟩))

namespace Lexer

variable {α : Type} (L : Lexer α)

/-! ## Reading -/

/-- The lexeme a text starts with, and what is left behind it. -/
def readLexeme (c : Char) (cs : List Char) : Option (α × List Char) :=
  match L.quotes.lookup c with
  | some lexeme =>
    (readQuoted c cs).map fun (content, rest) => (lexeme (String.ofList content), rest)
  | none =>
    if startsWord c then
      some (L.word (c :: cs.takeWhile L.continuesWord), cs.dropWhile L.continuesWord)
    else if c.isDigit then
      some (L.number (Nat.ofDigitChars 10 (c :: cs.takeWhile Char.isDigit) 0),
        cs.dropWhile Char.isDigit)
    else if isSymbol c then
      (L.row (c :: cs.takeWhile isSymbol)).map fun l => (l, cs.dropWhile isSymbol)
    else (L.marks.lookup c).map fun l => (l, cs)

theorem length_of_readLexeme {c : Char} {cs rest : List Char} {l : α}
    (h : L.readLexeme c cs = some (l, rest)) : rest.length ≤ cs.length := by
  have hrun (p : Char → Bool) : (cs.dropWhile p).length ≤ cs.length :=
    (List.dropWhile_suffix p).length_le
  rw [readLexeme] at h
  split at h
  · obtain ⟨⟨content, rest'⟩, hread, heq⟩ := Option.map_eq_some_iff.1 h
    cases heq
    exact Nat.le_of_lt (length_of_readQuoted hread)
  · split_ifs at h
    · cases h
      exact hrun _
    · cases h
      exact hrun _
    · obtain ⟨l', _, heq⟩ := Option.map_eq_some_iff.1 h
      cases heq
      exact hrun _
    · obtain ⟨l', _, heq⟩ := Option.map_eq_some_iff.1 h
      cases heq
      exact Nat.le_refl _

/-- The lexemes of a text. -/
def lex : List Char → Option (List α)
  | [] => some []
  | c :: cs =>
    if c ∈ L.blanks then lex cs
    else
      match _h : L.readLexeme c cs with
      | some (l, rest) => (lex rest).map (l :: ·)
      | none => none
termination_by cs => cs.length
decreasing_by
  · exact Nat.lt_succ_self _
  · exact Nat.lt_succ_of_le (L.length_of_readLexeme _h)

/-! ## Single lexemes -/

theorem lex_nil : L.lex [] = some [] := by rw [lex]

variable {L}

theorem lex_blank {c : Char} (h : c ∈ L.blanks) (cs : List Char) : L.lex (c :: cs) = L.lex cs := by
  rw [lex, if_pos h]

theorem lex_cons {c : Char} {cs rest : List Char} {l : α} (hblank : c ∉ L.blanks)
    (h : L.readLexeme c cs = some (l, rest)) : L.lex (c :: cs) = (L.lex rest).map (l :: ·) := by
  rw [lex, if_neg hblank]
  split
  next l' rest' hread =>
    rw [h] at hread
    cases hread
    rfl
  next hread =>
    rw [h] at hread
    cases hread

/-- What starts a word, a number or a row is neither a blank nor a quote. -/
theorem of_startsRun {c : Char} (h : startsRun c = true) :
    c ∉ L.blanks ∧ L.quotes.lookup c = none := by
  have hnone : c ∉ L.blanks ++ L.quotes.map (·.1) ++ L.marks.map (·.1) := fun hmem =>
    List.any_eq_false.1 L.apart c hmem h
  simp only [List.mem_append, not_or] at hnone
  refine ⟨hnone.1.1, ?_⟩
  rw [← Option.not_isSome_iff_eq_none, ← mem_names_iff_lookup]
  exact hnone.1.2

theorem lex_quoted {quote : Char} {lexeme : String → α} {rest : List Char}
    (hquote : L.quotes.lookup quote = some lexeme) (s : String)
    (hrest : StartsWithout (· == quote) rest) :
    L.lex (quote :: (doubled quote s.toList ++ quote :: rest)) =
      (L.lex rest).map (lexeme s :: ·) := by
  obtain ⟨hleft, _, _⟩ := List.nodup_append.1 L.distinct
  obtain ⟨_, _, hapart⟩ := List.nodup_append.1 hleft
  have hmem : quote ∈ L.quotes.map (·.1) := List.mem_map.2 ⟨_, mem_of_lookup hquote, rfl⟩
  have hblank : quote ∉ L.blanks := fun h => hapart quote h quote hmem rfl
  refine lex_cons hblank ?_
  rw [readLexeme, hquote, readQuoted_doubled hrest]
  simp

theorem lex_word {c : Char} {ds rest : List Char} (hc : startsWord c = true)
    (hds : ∀ d ∈ ds, L.continuesWord d = true) (hrest : StartsWithout L.continuesWord rest) :
    L.lex (c :: ds ++ rest) = (L.lex rest).map (L.word (c :: ds) :: ·) := by
  obtain ⟨hblank, hquote⟩ := of_startsRun (L := L) (c := c) (by simp [startsRun, hc])
  obtain ⟨htake, hdrop⟩ := Identifier.run_append hds hrest
  rw [List.cons_append]
  refine lex_cons hblank ?_
  simp only [readLexeme, hquote, hc, if_true, htake, hdrop]

theorem lex_digits {c : Char} {ds rest : List Char} (hc : c.isDigit = true)
    (hds : ∀ d ∈ ds, d.isDigit = true) (hrest : StartsWithout Char.isDigit rest) :
    L.lex (c :: ds ++ rest) =
      (L.lex rest).map (L.number (Nat.ofDigitChars 10 (c :: ds) 0) :: ·) := by
  obtain ⟨hblank, hquote⟩ := of_startsRun (L := L) (c := c) (by simp [startsRun, hc])
  obtain ⟨htake, hdrop⟩ := Identifier.run_append hds hrest
  rw [List.cons_append]
  refine lex_cons hblank ?_
  simp only [readLexeme, hquote, startsWord_of_isDigit hc, Bool.false_eq_true, if_false, hc,
    if_true, htake, hdrop]

theorem lex_row {c : Char} {ds rest : List Char} {l : α} (hrow : (c :: ds).all isSymbol = true)
    (hl : L.row (c :: ds) = some l) (hrest : StartsWithout isSymbol rest) :
    L.lex (c :: ds ++ rest) = (L.lex rest).map (l :: ·) := by
  obtain ⟨hc, hds⟩ := Bool.and_eq_true_iff.1 hrow
  obtain ⟨hblank, hquote⟩ := of_startsRun (L := L) (c := c) (by simp [startsRun, hc])
  obtain ⟨hword, hdigit⟩ := not_startsWord_of_isSymbol hc
  obtain ⟨htake, hdrop⟩ := Identifier.run_append (List.all_eq_true.1 hds) hrest
  rw [List.cons_append]
  refine lex_cons hblank ?_
  simp only [readLexeme, hquote, hword, hdigit, Bool.false_eq_true, if_false, hc, if_true, htake,
    hdrop, hl, Option.map_some]

theorem lex_mark {c : Char} {l : α} (hmark : L.marks.lookup c = some l) (rest : List Char) :
    L.lex (c :: rest) = (L.lex rest).map (l :: ·) := by
  obtain ⟨_, _, hapart⟩ := List.nodup_append.1 L.distinct
  have hmem : c ∈ L.marks.map (·.1) := List.mem_map.2 ⟨_, mem_of_lookup hmark, rfl⟩
  have hother : c ∉ L.blanks ++ L.quotes.map (·.1) := fun h => hapart c h c hmem rfl
  have hrun : ¬ startsRun c = true := List.any_eq_false.1 L.apart c (List.mem_append_right _ hmem)
  simp only [Bool.not_eq_true, startsRun, Bool.or_eq_false_iff] at hrun
  rw [List.mem_append, not_or] at hother
  have hquote : L.quotes.lookup c = none := by
    rw [← Option.not_isSome_iff_eq_none, ← mem_names_iff_lookup]
    exact hother.2
  refine lex_cons hother.1 ?_
  simp only [readLexeme, hquote, hrun.1.1, hrun.1.2, hrun.2, Bool.false_eq_true, if_false,
    hmark, Option.map_some]

/-! ## Words and rows -/

variable (L)

/-- A word that is read as the lexeme. -/
def isWord [DecidableEq α] (s : String) (l : α) : Bool :=
  match s.toList with
  | [] => false
  | c :: ds => startsWord c && ds.all L.continuesWord && L.word (c :: ds) = l

/-- A row of operator characters that is read as the lexeme. -/
def isRow [DecidableEq α] (s : String) (l : α) : Bool :=
  match s.toList with
  | [] => false
  | c :: ds => (c :: ds).all isSymbol && L.row (c :: ds) = some l

variable {L}

theorem lex_of_isRow [DecidableEq α] {s : String} {l : α} {rest : List Char}
    (h : L.isRow s l = true) (hrest : StartsWithout isSymbol rest) :
    L.lex (s.toList ++ rest) = (L.lex rest).map (l :: ·) := by
  rw [isRow] at h
  split at h
  next => cases h
  next c ds hs =>
    simp only [Bool.and_eq_true, decide_eq_true_eq] at h
    rw [hs, lex_row h.1 h.2 hrest]

/-! ## Texts that lex on their own -/

variable (L)

/-- The lexemes of a longer text that starts with this one, if what follows ends it. -/
def LexesTo (s : String) (w : List α) : Prop :=
  ∀ rest, Follows rest → L.lex (s.toList ++ rest) = (L.lex rest).map (w ++ ·)

/-- A text that lexes on its own behind another one. -/
structure Continues (s : String) (w : List α) : Prop where
  follows : ∀ rest, Follows rest → Follows (s.toList ++ rest)
  lexes : L.LexesTo s w

variable {L} {s t : String} {v w : List α} {c : Char} {ds : List Char} {l : α}

namespace LexesTo

theorem lex_eq (h : L.LexesTo s w) : L.lex s.toList = some w := by
  have hlex := h [] .nil
  simpa [lex_nil] using hlex

theorem append (h : L.LexesTo s v) (ht : L.Continues t w) : L.LexesTo (s ++ t) (v ++ w) := by
  intro rest hrest
  rw [String.toList_append, List.append_assoc, h _ (ht.follows rest hrest), ht.lexes rest hrest,
    Option.map_map]
  congr 1
  funext u
  exact (List.append_assoc v w u).symm

theorem empty : L.LexesTo "" [] := by
  intro rest _
  simp

theorem word (hs : s.toList = c :: ds) (hc : startsWord c = true)
    (hds : ∀ d ∈ ds, L.continuesWord d = true) : L.LexesTo s [L.word (c :: ds)] := by
  intro rest hrest
  rw [hs, lex_word hc hds (hrest.startsWithout L.wordEnds)]
  rfl

theorem quoted {quote : Char} {lexeme : String → α}
    (hquote : L.quotes.lookup quote = some lexeme) (s : String) :
    L.LexesTo (String.ofList (quote :: (doubled quote s.toList ++ [quote]))) [lexeme s] := by
  intro rest hrest
  have hend : StartsWithout (· == quote) rest := by
    intro c hc
    rw [beq_eq_false_iff_ne]
    rintro rfl
    have hmem : c ∈ L.quotes.map (·.1) := List.mem_map.2 ⟨_, mem_of_lookup hquote, rfl⟩
    exact List.any_eq_false.1 L.quotesDelimitNothing c hmem (hrest c hc)
  have hlex := lex_quoted hquote s hend
  simpa using hlex

theorem of_isWord [DecidableEq α] (h : L.isWord s l = true) : L.LexesTo s [l] := by
  rw [isWord] at h
  split at h
  next => cases h
  next c ds hs =>
    simp only [Bool.and_eq_true, decide_eq_true_eq] at h
    obtain ⟨⟨hc, hds⟩, rfl⟩ := h
    exact word hs hc (List.all_eq_true.1 hds)

/-- A row of operator characters ends where a text starts with no further one. -/
theorem row_append [DecidableEq α] (h : L.isRow s l = true)
    (ht : ∀ rest, StartsWithout isSymbol (t.toList ++ rest)) (hw : L.LexesTo t w) :
    L.LexesTo (s ++ t) (l :: w) := by
  intro rest hrest
  rw [String.toList_append, List.append_assoc, lex_of_isRow h (ht rest), hw rest hrest,
    Option.map_map]
  rfl

theorem of_isRow [DecidableEq α] (h : L.isRow s l = true) : L.LexesTo s [l] := by
  intro rest hrest
  rw [lex_of_isRow h (hrest.startsWithout (by decide))]
  rfl

/-- Digits are read back as the number they were written for. -/
theorem repr (n : Nat) : L.LexesTo n.repr [L.number n] := by
  have hvalue : Nat.ofDigitChars 10 (Nat.toDigits 10 n) 0 = n := Nat.ofDigitChars_ten_toDigits
  obtain ⟨c, ds, hlist, hc, hds⟩ := exists_digits n
  rw [hlist] at hvalue
  intro rest hrest
  rw [Nat.toList_repr, hlist, lex_digits hc hds (hrest.startsWithout (by decide)), hvalue]
  rfl

end LexesTo

namespace Continues

theorem append (h : L.Continues s v) (ht : L.Continues t w) : L.Continues (s ++ t) (v ++ w) := by
  refine ⟨?_, h.lexes.append ht⟩
  intro rest hrest
  rw [String.toList_append, List.append_assoc]
  exact h.follows _ (ht.follows rest hrest)

/-- A blank sets a text off from the one in front. -/
theorem blank (h : L.LexesTo s w) : L.Continues (" " ++ s) w := by
  have hs : (" " ++ s).toList = ' ' :: s.toList := by rw [String.toList_append]; rfl
  constructor
  · intro rest _
    rw [hs]
    exact .cons (by decide) _
  · intro rest hrest
    rw [hs, List.cons_append, lex_blank L.blank_mem, h rest hrest]

/-- So does a mark. -/
theorem mark {m : String} (hm : m.toList = [c]) (hl : L.marks.lookup c = some l)
    (h : L.LexesTo s w) : L.Continues (m ++ s) (l :: w) := by
  have hs : (m ++ s).toList = c :: s.toList := by
    rw [String.toList_append, hm, List.singleton_append]
  constructor
  · intro rest _
    rw [hs]
    exact .cons (List.all_eq_true.1 L.marksDelimit c (List.mem_map.2 ⟨_, mem_of_lookup hl, rfl⟩)) _
  · intro rest hrest
    rw [hs, List.cons_append, lex_mark hl, h rest hrest, Option.map_map]
    rfl

theorem comma (hl : L.marks.lookup ',' = some l) (h : L.LexesTo s w) :
    L.Continues (", " ++ s) (l :: w) := by
  have hcomma := mark (m := ",") rfl hl (blank h).lexes
  rwa [← String.append_assoc] at hcomma

/-- A mark that nothing follows. -/
theorem last {m : String} (hm : m.toList = [c]) (hl : L.marks.lookup c = some l) :
    L.Continues m [l] := by
  have hmark := mark hm hl (LexesTo.empty (L := L))
  rwa [String.append_empty] at hmark

end Continues

end Lexer

end SqlDialects
