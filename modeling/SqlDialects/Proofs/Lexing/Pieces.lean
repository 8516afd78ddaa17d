-- SUMMARY: The pieces of rendered text scan on their own: words, names, numbers, calls, casts, frames and windows.
import SqlDialects.Render
import SqlDialects.Proofs.Lexing.Identifier
import SqlDialects.Proofs.Lexing.Scan
import SqlDialects.Proofs.Steps
import SqlDialects.Proofs.Vocabulary

/-!
# Scanning the pieces of rendered text

Rendering puts texts together from words of the vocabulary, escaped names,
numbers and other texts. Each way of putting them together keeps them scanning on
their own: words between two texts start and end with a blank or a parenthesis,
and a minus is never written in front of another one.
-/

namespace SqlDialects

/-! ## Words, names and numbers -/

theorem isBare_of_mem_functions :
    ∀ word ∈ Vocabulary.functions, isBare word.toList = true := by decide

theorem isBare_of_mem_keywords :
    ∀ word ∈ Vocabulary.keywords, isBare word.toList = true := by decide

theorem isBare_of_mem_castTypes :
    ∀ word ∈ Vocabulary.castTypes, isBare word.toList = true := by decide

theorem isSeparator_of_mem_binaryOperators :
    ∀ op ∈ Vocabulary.binaryOperators, isSeparator (" " ++ op ++ " ").toList = true := by decide

theorem isSeparator_of_mem_suffixOperators :
    ∀ op ∈ Vocabulary.suffixOperators, isSeparator (" " ++ op).toList = true := by decide

/-- Letters, digits and line feeds of a plain name open nothing. -/
theorem isBare_of_isPlain {cs : List Char} (h : Identifier.isPlain cs = true) :
    isBare cs = true := by
  have hpart : ∀ c, Identifier.isPart c = true → c ≠ '\'' ∧ c ≠ '"' ∧ c ≠ '-' ∧ c ≠ '/' := by
    intro c hc
    refine ⟨?_, ?_, ?_, ?_⟩ <;>
      · rintro rfl
        exact absurd hc (by decide)
  refine isBare_of_forall fun d hd => ?_
  rcases Identifier.isPart_or_eq_of_isPlain h d hd with hd | rfl
  · exact hpart d hd
  · decide

theorem scans_escaped (name : String) : Scans (Identifier.escaped name) [] := by
  unfold Identifier.escaped
  split
  next h => exact .bare (isBare_of_isPlain (Bool.and_eq_true_iff.1 h).1)
  next => exact .name name

theorem scans_qualifiedName (table : Option String) {s : String} {ts : List String}
    (h : Scans s ts) : Scans (qualifiedName table s) ts := by
  cases table with
  | none => exact h
  | some table =>
    rw [qualifiedName]
    split
    · exact h
    · exact (scans_escaped table).between "." (by decide) h

theorem ne_of_isDigit {c : Char} (h : c.isDigit = true) :
    c ≠ '\'' ∧ c ≠ '"' ∧ c ≠ '-' ∧ c ≠ '/' := by
  refine ⟨?_, ?_, ?_, ?_⟩ <;>
    · rintro rfl
      exact absurd h (by decide)

theorem isDigit_of_mem_repr {n : Nat} {c : Char} (h : c ∈ n.repr.toList) : c.isDigit = true := by
  rw [Nat.toList_repr] at h
  exact Nat.isDigit_of_mem_toDigits (by decide) (by decide) h

theorem isBare_minus {c : Char} {cs : List Char} (hc : c ≠ '-') (h : isBare (c :: cs) = true) :
    isBare ('-' :: c :: cs) = true := by
  rw [isBare, h]
  simp [hc]

/-- Digits follow the minus of a negative number. -/
theorem isBare_toString (n : Int) : isBare (toString n).toList = true := by
  rw [Int.toString_eq_repr, Int.repr_eq_if]
  split
  · exact isBare_of_forall fun c hc => ne_of_isDigit (isDigit_of_mem_repr hc)
  · have hdigits : isBare (-n).toNat.repr.toList = true :=
      isBare_of_forall fun c hc => ne_of_isDigit (isDigit_of_mem_repr hc)
    rw [String.toList_append]
    cases hlist : (-n).toNat.repr.toList with
    | nil => exact absurd (String.toList_eq_nil_iff.1 hlist) Nat.repr_ne_empty
    | cons c cs =>
      have hc := ne_of_isDigit (isDigit_of_mem_repr (hlist ▸ List.mem_cons_self))
      exact isBare_minus hc.2.2.1 (hlist ▸ hdigits)

/-- A whole number that has few enough digits to be written. -/
def IsWritable (n : Int) : Prop := n.natAbs < Nat.pow 10 wholeDigitLimit

theorem isShort_iff {n : Int} : isShort n = true ↔ IsWritable n := decide_eq_true_iff

theorem isWritable_of_lt_ten {n : Int} (h : n.natAbs < 10) : IsWritable n := by
  have hpow (k : Nat) (hk : k ≠ 0) : 10 ≤ Nat.pow 10 k := Nat.le_self_pow hk 10
  exact Nat.lt_of_lt_of_le h (hpow wholeDigitLimit (by decide))

theorem wholeText_eq_ok_iff {n : Int} {s : String} :
    wholeText n = .ok s ↔ IsWritable n ∧ toString n = s := by
  rw [wholeText]
  split
  next h =>
    constructor
    · intro hs
      cases hs
      exact ⟨h, rfl⟩
    · rintro ⟨_, rfl⟩
      rfl
  next h =>
    constructor
    · intro hs
      cases hs
    · rintro ⟨hn, _⟩
      exact absurd hn h

/-! ## Ends of frames -/

/-- Whole numbers are compared as they are. -/
theorem compare?_whole (n m : Int) : (Number.whole n).compare? (.whole m) =
    some (if n < m then .lt else if n = m then .eq else .gt) := by
  have hlt : (n : Rat) < (m : Rat) ↔ n < m := Rat.intCast_lt_intCast
  have heq : (n : Rat) = (m : Rat) ↔ n = m := Rat.intCast_inj
  simp [Number.compare?, Number.isDecimal, Number.extended?, Extended.compare, hlt, heq]

theorem same_whole (n m : Int) : (Value.whole n).same (.whole m) = .ok (n = m) := by
  simp only [Value.same, Scalar.sameChecked, Scalar.isRefused, Scalar.isSignaling, Scalar.same,
    Scalar.toNumber?, Number.eq, compare?_whole]
  rcases Int.lt_trichotomy n m with h | rfl | h
  · simp [h, Int.ne_of_lt h]
  · simp
  · simp [Int.not_lt.2 (Int.le_of_lt h), Int.ne_of_gt h]

theorem isAbove_whole (n m : Int) : (Number.whole n).isAbove (.whole m) = .ok (m < n) := by
  rw [Number.isAbove, Number.relates_number (compare?_whole n m)]
  rcases Int.lt_trichotomy n m with h | rfl | h
  · simp [h, Int.not_lt.2 (Int.le_of_lt h)]
  · simp
  · simp [h, Int.not_lt.2 (Int.le_of_lt h), Int.ne_of_gt h]

theorem boundText_whole (isStart : Bool) (n : Int) :
    boundText isStart (.whole n) =
      if n = 0 then .ok "CURRENT ROW"
      else if n < 0 then (do return (← wholeText (-n)) ++ " PRECEDING")
      else (do return (← wholeText n) ++ " FOLLOWING") := by
  simp only [boundText, same_whole, isAbove_whole, precedingText, followingText]
  by_cases hzero : n = 0
  · simp [hzero, ok_bind, pure_eq_ok_iff]
  · by_cases hneg : n < 0
    · simp [hzero, hneg, ok_bind]
    · simp [hzero, hneg, ok_bind]
/-! ## Pieces -/

theorem scans_parenthesised {s : String} {ts : List String} (h : Scans s ts) :
    Scans (parenthesised s) ts :=
  (Scans.bare_append (by decide) h).append_bare (by decide)

theorem scans_wrapIf {s : String} {ts : List String} (condition : Bool) (h : Scans s ts) :
    Scans (wrapIf condition s) ts := by
  cases condition with
  | false => exact h
  | true => exact scans_parenthesised h

/-- A minus never meets another one. -/
theorem scans_unaryText {op s : String} {ts : List String} (hop : op ∈ Vocabulary.unaryOperators)
    (h : Scans s ts) : Scans (unaryText op s) ts := by
  have hwords : op = "-" ∨ op = "NOT" ∨ op = "INTERVAL" := by
    simpa [Vocabulary.unaryOperators] using hop
  rcases hwords with rfl | rfl | rfl
  · rw [unaryText, if_neg (by decide)]
    cases hhead : s.toList.head? == some '-' with
    | false =>
      rw [wrapIf, if_neg Bool.false_ne_true]
      exact h.minus (by simpa using hhead)
    | true =>
      refine (scans_wrapIf true h).minus ?_
      rw [wrapIf, if_pos rfl, parenthesised, String.append_assoc, String.toList_append]
      intro hminus
      cases hminus
  · exact Scans.bare_append (by decide) h
  · exact Scans.bare_append (by decide) h

theorem scans_commaSeparated {pieces : List String} {texts : List (List String)}
    (h : List.Forall₂ Scans pieces texts) : Scans (commaSeparated pieces) texts.flatten :=
  Scans.intercalate _ (by decide) h

theorem scans_callText {name : String} {args : List String} {texts : List (List String)}
    (hname : name ∈ Vocabulary.functions) (h : List.Forall₂ Scans args texts) (distinct : Bool) :
    Scans (callText name args distinct) texts.flatten := by
  refine Scans.bare_append (isBare_of_mem_functions name hname) (scans_parenthesised ?_)
  refine Scans.bare_append ?_ (scans_commaSeparated h)
  cases distinct <;> decide

theorem scans_castText {s typeName : String} {ts : List String}
    (htype : typeName ∈ Vocabulary.castTypes) (h : Scans s ts) :
    Scans ("CAST(" ++ s ++ " AS " ++ typeName ++ ")") ts := by
  have htypeName := Scans.bare (isBare_of_mem_castTypes typeName htype)
  have htail := htypeName.append_bare (t := ")") (by decide)
  have hcast := (Scans.bare_append (s := "CAST(") (by decide) h).between " AS " (by decide) htail
  simpa [String.append_assoc] using hcast

/-- A clause of a window: no piece without items, else its words and the items. -/
theorem scans_windowClause (words : String) (hwords : isBare words.toList = true)
    {items : List String} {texts : List (List String)} (h : List.Forall₂ Scans items texts) :
    ∃ parts, List.Forall₂ Scans (if items.isEmpty then [] else [words ++ commaSeparated items])
      parts ∧ parts.flatten = texts.flatten := by
  cases h with
  | nil => exact ⟨[], .nil, rfl⟩
  | cons hs hss =>
    have hitems := Scans.bare_append hwords (scans_commaSeparated (.cons hs hss))
    exact ⟨[_], .cons hitems .nil, List.flatten_singleton⟩

theorem scans_windowText {partition order : List String} {ps os : List (List String)}
    {frame : Option String} (hpartition : List.Forall₂ Scans partition ps)
    (horder : List.Forall₂ Scans order os) (hframe : ∀ s ∈ frame, Scans s []) :
    Scans (windowText partition order frame) (ps.flatten ++ os.flatten) := by
  obtain ⟨first, hfirst, hps⟩ := scans_windowClause "PARTITION BY " (by decide) hpartition
  obtain ⟨second, hsecond, hos⟩ := scans_windowClause "ORDER BY " (by decide) horder
  have hlast : List.Forall₂ Scans frame.toList (frame.toList.map fun _ => []) := by
    cases frame with
    | none => exact .nil
    | some s => exact .cons (hframe s rfl) .nil
  have hparts := List.rel_append (List.rel_append hfirst hsecond) hlast
  have hflat : (first ++ second ++ frame.toList.map fun _ => []).flatten
      = ps.flatten ++ os.flatten := by
    cases frame <;> simp [hps, hos]
  rw [← hflat]
  exact scans_parenthesised (Scans.intercalate _ (by decide) hparts)

end SqlDialects
