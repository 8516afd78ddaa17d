-- SUMMARY: Written names, whole numbers and plain literals are read back: what is quoted by its quotes, what is bare up to a delimiter.
import SqlDialects.Dialect.Literal
import SqlDialects.Proofs.Lexing.Pieces
import SqlDialects.Proofs.Readers.Basic

/-!
# Reading what is written out

A name or a literal stands between quotes or is bare. Bare text ends in front of the
next blank, dot, comma or parenthesis, and is taken as it is. Read this way every name
is read back, also a plain one that ends in a line feed, and so is every null, truth
value, whole number and text.
-/

namespace SqlDialects

/-- A null, a truth value, a whole number, or a text without a NUL character. -/
inductive Scalar.IsCell : Scalar → Prop
  | null : IsCell .null
  | bool (b : Bool) : IsCell (.bool b)
  | whole (n : Int) : IsCell (.number (.whole n))
  | text {s : String} (hs : Char.ofNat 0 ∉ s.toList) : IsCell (.text s)

namespace Identifier

/-- A character that bare text goes on with. -/
def isUndelimited (c : Char) : Bool := !isDelimiter c

theorem isUndelimited_of_isPlain {cs : List Char} (h : isPlain cs = true) :
    ∀ c ∈ cs, isUndelimited c = true := by
  intro c hc
  rw [isUndelimited, Bool.not_eq_true', ← Bool.not_eq_true]
  intro hdelimiter
  rcases isPart_or_eq_of_isPlain h c hc with hpart | rfl
  · have hword := continuesWord_of_isPart hpart
    rw [not_continuesWord_of_isDelimiter hdelimiter] at hword
    cases hword
  · exact absurd hdelimiter (by decide)

/-- A written name starts with a quote or with a character that a plain name may start with. -/
theorem startsWithout_escaped {c : Char} (hfirst : isFirst c = false) (hquote : c ≠ '"')
    (name : String) (rest : List Char) :
    StartsWithout (· == c) ((escaped name).toList ++ rest) := by
  rw [escaped]
  split
  next h =>
    obtain ⟨d, ds, hd, -, hname⟩ := word_of_isPlain (Bool.and_eq_true_iff.1 h).1
    have hne : d ≠ c := by
      rintro rfl
      rw [hd] at hfirst
      cases hfirst
    have hhead : name.toList.head? = some d := by
      rcases hname with hname | hname <;> rw [hname] <;> rfl
    exact .append (by simp [hhead, hne]) rest
  next => exact .append (by simp [quoted, Ne.symm hquote]) rest

end Identifier

open Identifier (isUndelimited)

namespace Reader

variable {α : Type} {cs rest : List Char}

/-! ## Bare words -/

/-- The characters in front of the next delimiter, and at least one. -/
def word : Reader (List Char) := fun cs =>
  match cs.takeWhile isUndelimited with
  | [] => none
  | c :: word => some (c :: word, cs.dropWhile isUndelimited)

theorem takes_word (hne : cs ≠ []) (hcs : ∀ c ∈ cs, isUndelimited c = true)
    (hrest : StartsWithout isUndelimited rest) : word.Takes cs cs rest := by
  obtain ⟨htake, hdrop⟩ := Identifier.run_append hcs hrest
  obtain ⟨c, ds, rfl⟩ := List.exists_cons_of_ne_nil hne
  rw [Takes, StateT.run, word, htake, hdrop]

/-- A token is not there where the text does not start with its quote. -/
theorem token_bind_eq_none {quote : Char} (h : StartsWithout (· == quote) cs)
    (f : List Char → Reader α) : (token quote >>= f).run cs = none := by
  have hhead : (String.singleton quote).toList.head? = some quote := by simp
  rw [token, bind_assoc]
  exact expect_bind_eq_none hhead h _

/-! ## Names -/

/-- A name, between double quotes or bare. -/
def written : Reader String :=
  (do return String.ofList (← token '"')) <|> (do return String.ofList (← word))

/-- Every name is read back, whatever it holds. -/
theorem takes_written (name : String) (hrest : StartsWithout isUndelimited rest) :
    written.Takes (Identifier.escaped name).toList name rest := by
  rw [Identifier.escaped]
  split
  next h =>
    have hplain := (Bool.and_eq_true_iff.1 h).1
    have hbare := Identifier.isUndelimited_of_isPlain hplain
    have hne : name.toList ≠ [] := by
      intro hnil
      rw [hnil] at hplain
      cases hplain
    have hstart : StartsWithout (· == '"') (name.toList ++ rest) := by
      refine .append ?_ rest
      obtain ⟨c, ds, hc, -, hname | hname⟩ := Identifier.word_of_isPlain hplain <;>
        simp [hname, Identifier.ne_quote_of_startsWord (Identifier.startsWord_of_isFirst hc)]
    have hword := (takes_word hne hbare hrest).bind_pure (f := String.ofList)
    rw [String.ofList_toList] at hword
    exact hword.orElse_right (token_bind_eq_none hstart _)
  next =>
    have hquote : StartsWithout (· == '"') rest := hrest.single (by decide)
    have htoken := (takes_token hquote name.toList).bind_pure (f := String.ofList)
    rw [String.ofList_toList] at htoken
    rw [Identifier.quoted, String.toList_ofList]
    exact htoken.orElse_left

/-! ## Whole numbers -/

/-- A run of digits. -/
def natural : Reader Nat := fun cs =>
  match cs.takeWhile Char.isDigit with
  | [] => none
  | c :: digits =>
    some (Nat.ofDigitChars 10 (c :: digits) 0, cs.dropWhile Char.isDigit)

/-- A whole number, with a minus when it is negative. -/
def whole : Reader Int := do
  let sign ← optional (expect "-")
  let n ← natural
  return if sign.isSome then -n else n

theorem takes_natural (n : Nat) (hrest : StartsWithout Char.isDigit rest) :
    natural.Takes n.repr.toList n rest := by
  have hdigits : ∀ d ∈ Nat.toDigits 10 n, d.isDigit = true :=
    fun d hd => Nat.isDigit_of_mem_toDigits (by decide) (by decide) hd
  have hvalue : Nat.ofDigitChars 10 (Nat.toDigits 10 n) 0 = n := Nat.ofDigitChars_ten_toDigits
  obtain ⟨htake, hdrop⟩ := Identifier.run_append hdigits hrest
  obtain ⟨c, ds, hlist⟩ := List.exists_cons_of_ne_nil (Nat.toDigits_ne_nil (n := n) (b := 10))
  rw [Takes, StateT.run, natural, Nat.toList_repr, htake, hdrop]
  simp only [hlist] at hvalue ⊢
  rw [hvalue]

theorem startsWithout_minus (n : Nat) : StartsWithout (· == '-') (n.repr.toList ++ rest) := by
  refine .append ?_ rest
  cases hlist : n.repr.toList with
  | nil => exact absurd (String.toList_eq_nil_iff.1 hlist) Nat.repr_ne_empty
  | cons c cs =>
    have hc := ne_of_isDigit (isDigit_of_mem_repr (hlist ▸ List.mem_cons_self))
    simp [hc.2.2.1]

theorem takes_whole (n : Int) (hrest : StartsWithout Char.isDigit rest) :
    whole.Takes (toString n).toList n rest := by
  rw [Int.toString_eq_repr, Int.repr_eq_if]
  split
  next hn =>
    have hsign : (optional (expect "-")).Takes [] none (n.toNat.repr.toList ++ rest) :=
      takes_optional_none (expect_eq_none rfl (startsWithout_minus n.toNat))
    have hwhole : whole.Takes ([] ++ n.toNat.repr.toList) (n.toNat : Int) rest :=
      hsign.bind (takes_natural n.toNat hrest).bind_pure
    rwa [List.nil_append, Int.toNat_of_nonneg hn] at hwhole
  next hn =>
    have hsign : (optional (expect "-")).Takes "-".toList (some ())
        ((-n).toNat.repr.toList ++ rest) := (takes_expect "-" _).optional_some
    have hwhole : whole.Takes ("-" ++ (-n).toNat.repr).toList (-((-n).toNat : Int)) rest :=
      hsign.next (takes_natural (-n).toNat hrest).bind_pure
    rwa [Int.toNat_of_nonneg (by omega), neg_neg] at hwhole

/-! ## Literals -/

/-- The scalar that a bare literal writes. -/
def scalarOfWord? (cs : List Char) : Option Scalar :=
  ((readAll whole cs).map fun n => .number (.whole n)) <|>
    [("NULL".toList, .null), ("TRUE".toList, .bool true), ("FALSE".toList, .bool false)].lookup cs

/-- A text between single quotes, or a bare literal. -/
def literal : Reader Scalar :=
  (do return .text (String.ofList (← token '\''))) <|> (do given (scalarOfWord? (← word)))

/-- Text that is neither quoted nor delimited. -/
def isBareWord (cs : List Char) : Bool := cs ≠ [] && cs.all fun c => isUndelimited c && c ≠ '\''

theorem takes_literal_bare {c : Scalar} (hcs : isBareWord cs = true)
    (hc : scalarOfWord? cs = some c) (hrest : StartsWithout isUndelimited rest) :
    literal.Takes cs c rest := by
  have ⟨hne, hchars⟩ : cs ≠ [] ∧ ∀ d ∈ cs, isUndelimited d = true ∧ d ≠ '\'' := by
    simpa [isBareWord] using hcs
  have hstart : StartsWithout (· == '\'') (cs ++ rest) := by
    obtain ⟨d, ds, rfl⟩ := List.exists_cons_of_ne_nil hne
    exact .cons (by simpa using (hchars d List.mem_cons_self).2) _
  have hword := (takes_word hne (fun d hd => (hchars d hd).1) hrest).bind_given hc
  exact hword.orElse_right (token_bind_eq_none hstart _)

theorem isUndelimited_of_isDigit {c : Char} (h : c.isDigit = true) : isUndelimited c = true := by
  rw [isUndelimited, Bool.not_eq_true', ← Bool.not_eq_true]
  intro hdelimiter
  simp only [Identifier.isDelimiter, Bool.or_eq_true, decide_eq_true_eq] at hdelimiter
  rcases hdelimiter with (((rfl | rfl) | rfl) | rfl) | rfl <;> exact absurd h (by decide)

theorem isBareWord_repr (n : Nat) : isBareWord n.repr.toList = true := by
  have hne : n.repr.toList ≠ [] := fun hnil =>
    Nat.repr_ne_empty (String.toList_eq_nil_iff.1 hnil)
  have hchars : ∀ c ∈ n.repr.toList, isUndelimited c = true ∧ c ≠ '\'' := fun c hc =>
    ⟨isUndelimited_of_isDigit (isDigit_of_mem_repr hc), (ne_of_isDigit (isDigit_of_mem_repr hc)).1⟩
  simpa [isBareWord, hne] using hchars

/-- A whole number is written in digits, with a minus at most before them. -/
theorem isBareWord_toString (n : Int) : isBareWord (toString n).toList = true := by
  rw [Int.toString_eq_repr, Int.repr_eq_if]
  split
  · exact isBareWord_repr n.toNat
  · have hdigits := isBareWord_repr (-n).toNat
    rw [isBareWord, Bool.and_eq_true] at hdigits
    rw [String.toList_append]
    simpa [isBareWord, isUndelimited, Identifier.isDelimiter] using hdigits.2

/-- The literals of nulls, truth values, whole numbers and texts are read back. -/
theorem takes_literal {backend : Backend} {c : Scalar} {s : String} (hc : c.IsCell)
    (h : backend.scalarLiteral c = .ok s) (hrest : StartsWithout isUndelimited rest) :
    literal.Takes s.toList c rest := by
  cases hc with
  | null =>
    cases h
    exact takes_literal_bare (by decide) rfl hrest
  | bool b =>
    cases h
    cases b <;> exact takes_literal_bare (by decide) rfl hrest
  | whole n =>
    rw [Backend.scalarLiteral, Backend.numberLiteral, wholeText_eq_ok_iff] at h
    obtain ⟨-, rfl⟩ := h
    have hvalue : scalarOfWord? (toString n).toList = some (.number (.whole n)) := by
      rw [scalarOfWord?, (takes_whole n .nil).readAll]
      rfl
    exact takes_literal_bare (isBareWord_toString n) hvalue hrest
  | @text content hs =>
    rw [Backend.scalarLiteral, Backend.textLiteral] at h
    split at h
    · cases h
    · cases h
      have hquote : StartsWithout (· == '\'') rest := hrest.single (by decide)
      rw [String.toList_ofList]
      have htoken := (takes_token hquote content.toList).bind_pure
        (f := fun cs => Scalar.text (String.ofList cs))
      rw [String.ofList_toList] at htoken
      exact htoken.orElse_left

/-! ## Lists in parentheses -/

def tuple (p : Reader α) : Reader (List α) := do
  expect "("
  let items ← separated ", " p
  expect ")"
  return items

theorem takes_tuple {p : Reader α} {texts : List String} {values : List α}
    (h : TakesEach p (StartsWithout isUndelimited) texts values) (hne : texts ≠ [])
    (rest : List Char) :
    (tuple p).Takes (parenthesised (commaSeparated texts)).toList values rest := by
  have hcomma : StartsWithout (· == ',') (")".toList ++ rest) := .append (by decide) rest
  have hitems : (separated ", " p).Takes (commaSeparated texts).toList values
      (")".toList ++ rest) :=
    h.separated hne (fun _ _ => .append (by decide) _) (by decide) (.append (by decide) rest)
      (expect_bind_eq_none rfl hcomma _)
  rw [parenthesised, String.append_assoc]
  exact .expect_next <| hitems.next <| (takes_expect ")" rest).bind_pure

end Reader

end SqlDialects
