-- SUMMARY: Matching by LIKE, and by position: an escaped text matches itself alone, so that with a wildcard behind or before it, it is a prefix or a suffix.
import Mathlib.Data.List.Infix
import SqlDialects.Rule.Patterns

/-!
# Matching by LIKE and by position

A pattern of `LIKE` is read from its start: `%` takes any sequence of characters, `_`
any one character, and a backslash takes the next character of the pattern as it is. A
text whose wildcards are escaped matches only itself. What stands at the start or the
end of a text can also be told by the position of its first occurrence, and by the last
characters of the text.
-/

namespace SqlDialects

/-! ## Patterns of LIKE -/

/-- A pattern matches a text. A backslash that escapes nothing matches nothing. -/
def likeMatches : List Char → List Char → Bool
  | [], s => s.isEmpty
  | '%' :: pattern, s => s.tails.any (likeMatches pattern)
  | '\\' :: c :: pattern, d :: s => c == d && likeMatches pattern s
  | '\\' :: _, _ => false
  | c :: pattern, d :: s => (c == '_' || c == d) && likeMatches pattern s
  | _ :: _, [] => false

theorem likeMatches_percent {pattern s : List Char} :
    likeMatches ('%' :: pattern) s = true ↔
      ∃ before rest, before ++ rest = s ∧ likeMatches pattern rest = true := by
  have hstep : likeMatches ('%' :: pattern) s = s.tails.any (likeMatches pattern) := rfl
  simp only [hstep, List.any_eq_true, List.mem_tails]
  constructor
  · rintro ⟨rest, ⟨before, happend⟩, hmatch⟩
    exact ⟨before, rest, happend, hmatch⟩
  · rintro ⟨before, rest, happend, hmatch⟩
    exact ⟨rest, ⟨before, happend⟩, hmatch⟩

theorem likeMatches_percent_nil (s : List Char) : likeMatches ['%'] s = true :=
  likeMatches_percent.2 ⟨s, [], List.append_nil s, rfl⟩

theorem likeMatches_escaped {c : Char} {pattern s : List Char} :
    likeMatches ('\\' :: c :: pattern) s = true ↔
      ∃ rest, s = c :: rest ∧ likeMatches pattern rest = true := by
  cases s with
  | nil =>
    have hstep : likeMatches ('\\' :: c :: pattern) [] = false := rfl
    simp [hstep]
  | cons d s =>
    have hstep : likeMatches ('\\' :: c :: pattern) (d :: s) =
      (c == d && likeMatches pattern s) := rfl
    rw [hstep, Bool.and_eq_true, beq_iff_eq]
    constructor
    · rintro ⟨rfl, hmatch⟩
      exact ⟨s, rfl, hmatch⟩
    · rintro ⟨rest, heq, hmatch⟩
      cases heq
      exact ⟨rfl, hmatch⟩

/-- A character that is neither a wildcard nor the escape character stands for itself. -/
theorem likeMatches_cons {c : Char} (hc : ¬(c = '\\' ∨ c = '%' ∨ c = '_')) {pattern s : List Char} :
    likeMatches (c :: pattern) s = true ↔
      ∃ rest, s = c :: rest ∧ likeMatches pattern rest = true := by
  rw [not_or, not_or] at hc
  obtain ⟨hbackslash, hpercent, hunderscore⟩ := hc
  cases s with
  | nil => simp [likeMatches]
  | cons d s =>
    have hstep : likeMatches (c :: pattern) (d :: s) = (c == d && likeMatches pattern s) := by
      rw [likeMatches, beq_false_of_ne hunderscore, Bool.false_or]
      · exact hpercent
      · exact fun _ _ h => absurd h hbackslash
      · exact hbackslash
    rw [hstep, Bool.and_eq_true, beq_iff_eq]
    constructor
    · rintro ⟨rfl, hmatch⟩
      exact ⟨s, rfl, hmatch⟩
    · rintro ⟨rest, heq, hmatch⟩
      cases heq
      exact ⟨rfl, hmatch⟩

/-- An escaped text takes itself, whatever stands behind it in the pattern. -/
theorem likeMatches_escapeLikeList_append (p : List Char) {pattern s : List Char} :
    likeMatches (escapeLikeList p ++ pattern) s = true ↔
      ∃ rest, s = p ++ rest ∧ likeMatches pattern rest = true := by
  induction p generalizing s with
  | nil => simp [escapeLikeList]
  | cons c p ih =>
    have hstep : likeMatches (escapeLikeList (c :: p) ++ pattern) s = true ↔
        ∃ rest, s = c :: rest ∧ likeMatches (escapeLikeList p ++ pattern) rest = true := by
      rw [escapeLikeList]
      split
      · exact likeMatches_escaped
      next hc => exact likeMatches_cons hc
    simp only [hstep, ih]
    constructor
    · rintro ⟨_, rfl, rest, rfl, hmatch⟩
      exact ⟨rest, rfl, hmatch⟩
    · rintro ⟨rest, rfl, hmatch⟩
      exact ⟨p ++ rest, rfl, rest, rfl, hmatch⟩

/-- With a wildcard behind it an escaped text matches the texts that start with it. -/
theorem likeMatches_escaped_percent {p s : List Char} :
    likeMatches (escapeLikeList p ++ ['%']) s = true ↔ p <+: s := by
  rw [likeMatches_escapeLikeList_append]
  constructor
  · rintro ⟨rest, rfl, _⟩
    exact List.prefix_append p rest
  · rintro ⟨rest, rfl⟩
    exact ⟨rest, rfl, likeMatches_percent_nil rest⟩

/-- With a wildcard before it an escaped text matches the texts that end with it. -/
theorem likeMatches_percent_escaped {p s : List Char} :
    likeMatches ('%' :: escapeLikeList p) s = true ↔ p <:+ s := by
  have hself (rest : List Char) : likeMatches (escapeLikeList p) rest = true ↔ rest = p := by
    rw [← List.append_nil (escapeLikeList p), likeMatches_escapeLikeList_append]
    constructor
    · rintro ⟨_, rfl, hempty⟩
      rw [List.isEmpty_iff.1 hempty, List.append_nil]
    · rintro rfl
      exact ⟨[], (List.append_nil _).symm, rfl⟩
  simp only [likeMatches_percent, hself]
  constructor
  · rintro ⟨before, _, happend, rfl⟩
    exact ⟨before, happend⟩
  · rintro ⟨before, happend⟩
    exact ⟨before, p, happend, rfl⟩

example : likeMatches "50\\%\\_%".toList "50%_off".toList = true ∧
    likeMatches "50\\%\\_%".toList "50 off".toList = false := by decide

/-! ## Positions -/

/-- The position of the first occurrence in a text, counted from one; zero when there is
    none. -/
def strpos (s p : List Char) : Nat :=
  match s.tails.findIdx? (p.isPrefixOf ·) with
  | some i => i + 1
  | none => 0

/-- The last characters of a text. -/
def lastChars (n : Nat) (s : List Char) : List Char := s.drop (s.length - n)

theorem strpos_eq_one_iff {s p : List Char} : strpos s p = 1 ↔ p <+: s := by
  have htails : s.tails = s :: s.tails.tail := by cases s <;> rfl
  have hfirst : s.tails.findIdx? (p.isPrefixOf ·) = some 0 ↔ p <+: s := by
    rw [htails, List.findIdx?_cons, ← List.isPrefixOf_iff_prefix]
    split
    next hstarts => simp [hstarts]
    next hstarts => simp [hstarts]
  rw [← hfirst, strpos]
  split
  next i hi => rw [hi, Nat.add_eq_right, Option.some_inj]
  next hnone => simp [hnone]

theorem lastChars_length_eq_iff {s p : List Char} : lastChars p.length s = p ↔ p <:+ s := by
  rw [List.suffix_iff_eq_drop, lastChars, eq_comm]

/-! ## Places -/

namespace PatternPlace

/-- A text has another one at a place. Every place but the start means the end. -/
def Has (place : PatternPlace) (p s : List Char) : Prop :=
  if place = .start then p <+: s else p <:+ s

instance (place : PatternPlace) (p s : List Char) : Decidable (place.Has p s) := by
  unfold Has
  infer_instance

/-- A text is told to have another one at a place by its position, or by the last
    characters. -/
def Locates (place : PatternPlace) (p s : List Char) : Prop :=
  if place = .start then strpos s p = 1 else lastChars p.length s = p

theorem locates_iff_has (place : PatternPlace) {p s : List Char} :
    place.Locates p s ↔ place.Has p s := by
  unfold Locates Has
  split
  · exact strpos_eq_one_iff
  · exact lastChars_length_eq_iff

/-- The pattern of fixed text at a place matches the texts that have it there. -/
theorem likeMatches_likePattern (place : PatternPlace) (p : String) {s : List Char} :
    likeMatches (likePattern place p).toList s = true ↔ place.Has p.toList s := by
  unfold likePattern Has
  split
  · simp only [String.toList_append, escapeLike, String.toList_ofList]
    exact likeMatches_escaped_percent
  · simp only [String.toList_append, escapeLike, String.toList_ofList]
    exact likeMatches_percent_escaped

/-- A text that is had at a place by the same texts as another one is that one. -/
theorem eq_of_has_iff {place : PatternPlace} {p q : List Char}
    (h : ∀ s, place.Has p s ↔ place.Has q s) : p = q := by
  unfold Has at h
  split at h
  · exact ((h q).2 List.prefix_rfl).eq_of_length_le ((h p).1 List.prefix_rfl).length_le
  · exact ((h q).2 List.suffix_rfl).eq_of_length_le ((h p).1 List.suffix_rfl).length_le

end PatternPlace

end SqlDialects
