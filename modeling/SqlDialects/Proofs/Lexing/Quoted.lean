-- SUMMARY: Reading a quoted token back: the quote written twice stands for itself, and a single one ends the token.
import SqlDialects.Dialect.Identifier

/-!
# Quoted tokens

A quoted token ends at the first quote that no second one follows. Reading is
the inverse of writing every quote twice, whatever comes behind the token, as
long as that does not start with the same quote.
-/

namespace SqlDialects

/-- The content of a quoted token and what is left behind its closing quote, given
    the characters behind the opening one; `none` when no quote closes the token. -/
def readQuoted (quote : Char) : List Char → Option (List Char × List Char)
  | [] => none
  | [c] => if c = quote then some ([], []) else none
  | c :: d :: cs =>
    if c = quote then
      if d = quote then (readQuoted quote cs).map fun (content, rest) => (quote :: content, rest)
      else some ([], d :: cs)
    else (readQuoted quote (d :: cs)).map fun (content, rest) => (c :: content, rest)

/-- What follows a token does not start with a character that would lengthen it. -/
def StartsWithout (bad : Char → Bool) (rest : List Char) : Prop :=
  ∀ c ∈ rest.head?, bad c = false

theorem StartsWithout.nil {bad : Char → Bool} : StartsWithout bad [] := by
  intro c hc
  cases hc

theorem StartsWithout.cons {bad : Char → Bool} {c : Char} (h : bad c = false) (cs : List Char) :
    StartsWithout bad (c :: cs) := by
  intro d hd
  cases hd
  exact h

theorem StartsWithout.append {bad : Char → Bool} {cs : List Char}
    (h : cs.head?.map bad = some false) (ds : List Char) : StartsWithout bad (cs ++ ds) := by
  cases cs with
  | nil => cases h
  | cons c cs => exact .cons (Option.some.inj h) _

theorem StartsWithout.text {bad : Char → Bool} {word : String}
    (h : word.toList.head?.map bad = some false) (s : String) (rest : List Char) :
    StartsWithout bad ((word ++ s).toList ++ rest) := by
  rw [String.toList_append, List.append_assoc]
  exact .append h _

/-- What starts with none of some characters does not start with one of them. -/
theorem StartsWithout.single {bad : Char → Bool} {rest : List Char} {c : Char}
    (h : StartsWithout bad rest) (hc : bad c = true) : StartsWithout (· == c) rest := by
  intro d hd
  rw [beq_eq_false_iff_ne]
  rintro rfl
  rw [h d hd] at hc
  cases hc

/-- A character that is no quote belongs to the content. -/
theorem readQuoted_cons {quote c : Char} (hc : c ≠ quote) (cs : List Char) :
    readQuoted quote (c :: cs) =
      (readQuoted quote cs).map fun (content, rest) => (c :: content, rest) := by
  cases cs with
  | nil => simp [readQuoted, hc]
  | cons d cs => simp [readQuoted, hc]

/-- A quote with none behind it ends the token. -/
theorem readQuoted_quote {quote : Char} {rest : List Char}
    (h : StartsWithout (· == quote) rest) :
    readQuoted quote (quote :: rest) = some ([], rest) := by
  cases rest with
  | nil => simp [readQuoted]
  | cons d cs =>
    have hd : d ≠ quote := by simpa using h d rfl
    simp [readQuoted, hd]

theorem readQuoted_doubled {quote : Char} {rest : List Char}
    (h : StartsWithout (· == quote) rest) (cs : List Char) :
    readQuoted quote (doubled quote cs ++ quote :: rest) = some (cs, rest) := by
  induction cs with
  | nil => simpa [doubled] using readQuoted_quote h
  | cons c cs ih =>
    by_cases hc : c = quote
    · subst hc
      simp [doubled, readQuoted, ih]
    · simp [doubled, hc, readQuoted_cons hc, ih]

/-- Reading a token consumes at least its closing quote. -/
theorem length_of_readQuoted {quote : Char} {cs content rest : List Char}
    (h : readQuoted quote cs = some (content, rest)) : rest.length < cs.length := by
  fun_induction readQuoted quote cs generalizing content rest with
  | case1 => cases h
  | case2 => cases h; simp
  | case3 => cases h
  | case4 cs ih =>
    obtain ⟨⟨content', rest'⟩, hread, heq⟩ := Option.map_eq_some_iff.1 h
    cases heq
    have := ih hread
    simp only [List.length_cons]
    omega
  | case5 d cs hd => cases h; simp
  | case6 c d cs hc ih =>
    obtain ⟨⟨content', rest'⟩, hread, heq⟩ := Option.map_eq_some_iff.1 h
    cases heq
    have := ih hread
    simp only [List.length_cons] at this ⊢
    omega

end SqlDialects
