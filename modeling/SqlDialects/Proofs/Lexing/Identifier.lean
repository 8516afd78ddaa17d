-- SUMMARY: Reading identifiers back: every name survives escaping but a plain one that ends in a line feed.
import Mathlib
import SqlDialects.Proofs.Lexing.Quoted

/-!
# Identifiers

SQL reads an identifier either between double quotes, where a double quote is
written twice, or without quotes, as a letter or underscore and all letters,
digits, underscores and dollar signs behind it. An unquoted identifier stands
for a reserved word when it is one in any case.

A name that is written without quotes is read back as it is, except for the one
line feed that may end it: a line feed is white space, so it is left unread.
-/

namespace SqlDialects

namespace Identifier

/-! ## Identifiers in SQL text -/

/-- A letter of any script or an underscore. -/
def startsWord (c : Char) : Bool := c.isAlpha || c = '_' || 128 ≤ c.toNat

def continuesWord (c : Char) : Bool := startsWord c || c.isDigit || c = '$'

/-- An identifier as it stands in SQL text. -/
inductive Spelling where
  | unquoted (letters : List Char)
  | quoted (content : List Char)
  deriving DecidableEq

namespace Spelling

/-- The name an identifier denotes; an unquoted one is taken as it is written. -/
def name : Spelling → String
  | .unquoted letters => String.ofList letters
  | .quoted content => String.ofList content

/-- Quotes keep a name from being a reserved word. -/
def isReserved : Spelling → Bool
  | .unquoted letters => Identifier.isReserved (String.ofList (letters.map Char.toLower))
  | .quoted _ => false

end Spelling

/-- The identifier a text starts with, and what is left behind it. -/
def read : List Char → Option (Spelling × List Char)
  | [] => none
  | c :: cs =>
    if c = '"' then (readQuoted '"' cs).map fun (content, rest) => (.quoted content, rest)
    else if startsWord c then
      some (.unquoted (c :: cs.takeWhile continuesWord), cs.dropWhile continuesWord)
    else none

/-- A character that stands behind a name without being part of it. -/
def isDelimiter (c : Char) : Bool := c = ' ' || c = '.' || c = ',' || c = '(' || c = ')'

/-- A text that may follow an identifier. -/
def Follows (rest : List Char) : Prop := ∀ c ∈ rest.head?, isDelimiter c = true

/-- A name written without quotes together with a line feed at its end. -/
def EndsInLineFeed (name : String) : Prop :=
  isPlain name.toList = true ∧ name.toList.getLast? = some '\n'

instance (name : String) : Decidable (EndsInLineFeed name) :=
  inferInstanceAs (Decidable (_ ∧ _))

/-! ## Characters -/

theorem isFirst_iff {c : Char} :
    isFirst c = true ↔ (97 ≤ c.toNat ∧ c.toNat ≤ 122) ∨ c = '_' := by
  simp [isFirst, Char.le_def, UInt32.le_iff_toNat_le]

theorem isPart_iff {c : Char} :
    isPart c = true ↔
      ((97 ≤ c.toNat ∧ c.toNat ≤ 122) ∨ c = '_') ∨ (48 ≤ c.toNat ∧ c.toNat ≤ 57) := by
  simp [isPart, isFirst_iff, Char.le_def, UInt32.le_iff_toNat_le]

theorem startsWord_of_isFirst {c : Char} (h : isFirst c = true) : startsWord c = true := by
  rcases isFirst_iff.1 h with ⟨hlow, hhigh⟩ | rfl
  · have : c.isLower = true := by
      simp [Char.isLower, UInt32.le_iff_toNat_le, hlow, hhigh]
    simp [startsWord, Char.isAlpha, this]
  · decide

theorem continuesWord_of_isPart {c : Char} (h : isPart c = true) : continuesWord c = true := by
  rcases isPart_iff.1 h with hfirst | ⟨hlow, hhigh⟩
  · simp [continuesWord, startsWord_of_isFirst (isFirst_iff.2 hfirst)]
  · simp [continuesWord, Char.isDigit, UInt32.le_iff_toNat_le, hlow, hhigh]

theorem toLower_of_isPart {c : Char} (h : isPart c = true) : c.toLower = c := by
  have hupper : ¬ (c.val ≥ 'A'.val ∧ c.val ≤ 'Z'.val) := by
    rintro ⟨hA, hZ⟩
    have hA : 65 ≤ c.toNat := hA
    have hZ : c.toNat ≤ 90 := hZ
    rcases isPart_iff.1 h with (⟨hlow, _⟩ | rfl) | ⟨_, hhigh⟩
    · omega
    · exact absurd hZ (by decide)
    · omega
  simp only [Char.toLower, dif_neg hupper]

theorem ne_lineFeed_of_isPart {c : Char} (h : isPart c = true) : c ≠ '\n' := by
  rintro rfl
  exact absurd h (by decide)

theorem ne_quote_of_startsWord {c : Char} (h : startsWord c = true) : c ≠ '"' := by
  rintro rfl
  exact absurd h (by decide)

theorem not_continuesWord_of_isDelimiter {c : Char} (h : isDelimiter c = true) :
    continuesWord c = false := by
  simp only [isDelimiter, Bool.or_eq_true, decide_eq_true_eq] at h
  rcases h with (((rfl | rfl) | rfl) | rfl) | rfl <;> decide

/-! ## Plain names -/

theorem parts_of_isPlainRest {cs : List Char} (h : isPlainRest cs = true) :
    ∃ ds, (∀ d ∈ ds, isPart d = true) ∧ (cs = ds ∨ cs = ds ++ ['\n']) := by
  fun_induction isPlainRest cs with
  | case1 => exact ⟨[], by simp, .inl rfl⟩
  | case2 => exact ⟨[], by simp, .inr rfl⟩
  | case3 c cs _ ih =>
    obtain ⟨hc, hcs⟩ := Bool.and_eq_true_iff.1 h
    obtain ⟨ds, hds, hcase⟩ := ih hcs
    refine ⟨c :: ds, ?_, ?_⟩
    · intro d hd
      rcases List.mem_cons.1 hd with rfl | hd
      · exact hc
      · exact hds d hd
    · rcases hcase with rfl | rfl
      · exact .inl rfl
      · exact .inr rfl

/-- A plain name is a word, or a word and a line feed. -/
theorem word_of_isPlain {cs : List Char} (h : isPlain cs = true) :
    ∃ c ds, isFirst c = true ∧ (∀ d ∈ ds, isPart d = true) ∧
      (cs = c :: ds ∨ cs = c :: ds ++ ['\n']) := by
  cases cs with
  | nil => cases h
  | cons c cs =>
    obtain ⟨hc, hcs⟩ := Bool.and_eq_true_iff.1 h
    obtain ⟨ds, hds, hcase⟩ := parts_of_isPlainRest hcs
    refine ⟨c, ds, hc, hds, ?_⟩
    rcases hcase with rfl | rfl
    · exact .inl rfl
    · exact .inr rfl

/-- Every character of a word may stand behind its first one. -/
theorem isPart_of_mem_word {c d : Char} {ds : List Char} (hc : isFirst c = true)
    (hds : ∀ d ∈ ds, isPart d = true) (hd : d ∈ c :: ds) : isPart d = true := by
  rcases List.mem_cons.1 hd with rfl | hd
  · simp [isPart, hc]
  · exact hds d hd

/-- A plain name has no other characters but a line feed. -/
theorem isPart_or_eq_of_isPlain {cs : List Char} (h : isPlain cs = true) :
    ∀ d ∈ cs, isPart d = true ∨ d = '\n' := by
  intro d hd
  obtain ⟨c, ds, hc, hds, rfl | rfl⟩ := word_of_isPlain h
  · exact .inl (isPart_of_mem_word hc hds hd)
  · rcases List.mem_append.1 hd with hd | hd
    · exact .inl (isPart_of_mem_word hc hds hd)
    · exact .inr (List.mem_singleton.1 hd)

theorem map_toLower_word {c : Char} {ds : List Char} (hc : isFirst c = true)
    (hds : ∀ d ∈ ds, isPart d = true) : (c :: ds).map Char.toLower = c :: ds := by
  have hlower : ∀ d ∈ c :: ds, d.toLower = id d :=
    fun d hd => toLower_of_isPart (isPart_of_mem_word hc hds hd)
  rw [List.map_congr_left hlower, List.map_id]

theorem getLast?_ne_lineFeed {c : Char} {ds : List Char} (hc : isFirst c = true)
    (hds : ∀ d ∈ ds, isPart d = true) : (c :: ds).getLast? ≠ some '\n' := by
  intro hlast
  exact ne_lineFeed_of_isPart (isPart_of_mem_word hc hds (List.mem_of_getLast? hlast)) rfl

theorem not_endsInLineFeed_of_word {name : String} {c : Char} {ds : List Char}
    (hname : name.toList = c :: ds) (hc : isFirst c = true) (hds : ∀ d ∈ ds, isPart d = true) :
    ¬ EndsInLineFeed name := by
  rintro ⟨_, hlast⟩
  exact getLast?_ne_lineFeed hc hds (hname ▸ hlast)

theorem endsInLineFeed_of_word {name : String} {c : Char} {ds : List Char}
    (hname : name.toList = c :: ds ++ ['\n']) (hplain : isPlain name.toList = true) :
    EndsInLineFeed name :=
  ⟨hplain, by rw [hname]; exact List.getLast?_concat⟩

/-- No reserved word has a line feed in it. -/
theorem not_isReserved_of_lineFeed {name : String} (h : name.toList.getLast? = some '\n') :
    isReserved name = false := by
  have hwords : ∀ word ∈ reservedWords, word.toList.getLast? ≠ some '\n' := by decide
  rw [isReserved, List.contains_eq_mem, decide_eq_false_iff_not]
  intro hmem
  exact hwords name hmem h

/-! ## Reading -/

/-- A run of characters ends where what follows does not lengthen it. -/
theorem run_append {p : Char → Bool} {ds rest : List Char} (hds : ∀ d ∈ ds, p d = true)
    (hrest : StartsWithout p rest) :
    (ds ++ rest).takeWhile p = ds ∧ (ds ++ rest).dropWhile p = rest := by
  have hnone : rest.takeWhile p = [] ∧ rest.dropWhile p = rest := by
    cases rest with
    | nil => exact ⟨rfl, rfl⟩
    | cons d rest => simp [hrest d rfl]
  rw [List.takeWhile_append_of_pos hds, List.dropWhile_append_of_pos hds, hnone.1, hnone.2,
    List.append_nil]
  exact ⟨rfl, rfl⟩

theorem read_letters {c : Char} {ds rest : List Char} (hc : startsWord c = true)
    (hds : ∀ d ∈ ds, continuesWord d = true) (hrest : StartsWithout continuesWord rest) :
    read (c :: ds ++ rest) = some (.unquoted (c :: ds), rest) := by
  obtain ⟨htake, hdrop⟩ := run_append hds hrest
  rw [List.cons_append, read, if_neg (ne_quote_of_startsWord hc), if_pos hc, htake, hdrop]

theorem read_word {c : Char} {ds rest : List Char} (hc : isFirst c = true)
    (hds : ∀ d ∈ ds, isPart d = true) (hrest : StartsWithout continuesWord rest) :
    read (c :: ds ++ rest) = some (.unquoted (c :: ds), rest) :=
  read_letters (startsWord_of_isFirst hc) (fun d hd => continuesWord_of_isPart (hds d hd)) hrest

theorem read_quoted {rest : List Char} (name : String) (h : StartsWithout (· == '"') rest) :
    read ((quoted name).toList ++ rest) = some (.quoted name.toList, rest) := by
  have hread := readQuoted_doubled h name.toList
  simp [quoted, read, hread]

theorem Follows.not_continuesWord {rest : List Char} (h : Follows rest) :
    StartsWithout continuesWord rest :=
  fun c hc => not_continuesWord_of_isDelimiter (h c hc)

theorem Follows.not_quote {rest : List Char} (h : Follows rest) :
    StartsWithout (· == '"') rest := by
  intro c hc
  have hdelimiter := h c hc
  rw [beq_eq_false_iff_ne]
  rintro rfl
  exact absurd hdelimiter (by decide)

theorem Follows.nil : Follows [] := by
  intro c hc
  cases hc

theorem Follows.cons {c : Char} (h : isDelimiter c = true) (cs : List Char) :
    Follows (c :: cs) := by
  intro d hd
  cases hd
  exact h

/-- A name in quotes is read back whatever it holds. -/
theorem read_of_quoted {name : String} {rest : List Char} (h : Follows rest) :
    ∃ t, read ((quoted name).toList ++ rest) = some (t, rest) ∧ t.isReserved = false ∧
      t.name = name :=
  ⟨.quoted name.toList, read_quoted name h.not_quote, rfl, by simp [Spelling.name]⟩

/-- A word that is not reserved is read back without quotes. -/
theorem read_of_word {c : Char} {ds rest : List Char} {name : String}
    (hname : name.toList = c :: ds) (hc : isFirst c = true) (hds : ∀ d ∈ ds, isPart d = true)
    (hreserved : isReserved name = false) (h : Follows rest) :
    ∃ t, read (name.toList ++ rest) = some (t, rest) ∧ t.isReserved = false ∧ t.name = name := by
  have hback : String.ofList (c :: ds) = name := by rw [← hname, String.ofList_toList]
  refine ⟨.unquoted (c :: ds), ?_, ?_, hback⟩
  · rw [hname]
    exact read_word hc hds h.not_continuesWord
  · rw [Spelling.isReserved, map_toLower_word hc hds, hback, hreserved]

/-- The line feed behind a word is left unread. -/
theorem read_of_lineFeed {c : Char} {ds : List Char} (rest : List Char) (hc : isFirst c = true)
    (hds : ∀ d ∈ ds, isPart d = true) :
    read (c :: ds ++ ['\n'] ++ rest) = some (.unquoted (c :: ds), '\n' :: rest) := by
  rw [List.append_assoc]
  exact read_word hc hds (.cons (by decide) rest)

/-- Every escaped name is read back as one identifier that denotes it and is no
    reserved word, with nothing of what follows read, exactly when it is not a
    plain name that ends in a line feed. -/
theorem read_escaped_iff (name : String) {rest : List Char} (h : Follows rest) :
    (∃ t, read ((escaped name).toList ++ rest) = some (t, rest) ∧ t.isReserved = false ∧
      t.name = name) ↔ ¬ EndsInLineFeed name := by
  by_cases hplain : isPlain name.toList = true
  · obtain ⟨c, ds, hc, hds, hname | hname⟩ := word_of_isPlain hplain
    · refine iff_of_true ?_ (not_endsInLineFeed_of_word hname hc hds)
      cases hreserved : isReserved name with
      | true => simpa [escaped, hplain, hreserved] using read_of_quoted h
      | false =>
        simpa [escaped, hplain, hreserved] using read_of_word hname hc hds hreserved h
    · have hends := endsInLineFeed_of_word hname hplain
      refine iff_of_false ?_ (not_not_intro hends)
      rintro ⟨t, hread, _⟩
      have hescaped : escaped name = name := by
        simp [escaped, hplain, not_isReserved_of_lineFeed hends.2]
      rw [hescaped, hname, read_of_lineFeed rest hc hds] at hread
      -- what is left is longer than what was to be left
      have hrest : ('\n' :: rest).length = rest.length := by
        rw [(Prod.mk.inj (Option.some.inj hread)).2]
      simp at hrest
  · have hends : ¬ EndsInLineFeed name := fun hends => hplain hends.1
    refine iff_of_true ?_ hends
    simpa [escaped, hplain] using read_of_quoted h

/-- A reserved word between quotes, in front of a blank. -/
theorem read_escaped_reserved :
    Follows " x".toList ∧
      ((∃ t, read ((escaped "order").toList ++ " x".toList) = some (t, " x".toList) ∧
        t.isReserved = false ∧ t.name = "order") ↔ ¬ EndsInLineFeed "order") :=
  have hrest : Follows " x".toList := .cons (by decide) ['x']
  ⟨hrest, read_escaped_iff "order" hrest⟩

/-- The name `a` and a line feed is written so that `a` is read. -/
theorem not_read_escaped_lineFeed :
    Follows [] ∧
      ¬ ∃ t, read ((escaped "a\n").toList ++ []) = some (t, []) ∧ t.isReserved = false ∧
        t.name = "a\n" := by
  refine ⟨.nil, ?_⟩
  rintro ⟨t, hread, _⟩
  have hleft : read ((escaped "a\n").toList ++ []) = some (.unquoted ['a'], ['\n']) := by decide
  rw [hleft] at hread
  cases hread

end Identifier

end SqlDialects
