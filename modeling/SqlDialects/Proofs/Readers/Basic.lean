-- SUMMARY: Readers of text, and what a sequence of readers takes off the front of one.
import Mathlib
import SqlDialects.Calendar
import SqlDialects.Proofs.Lexing.Quoted

/-!
# Readers

A reader takes a value off the front of a text and leaves the rest, or it fails. All
that is said of a reader is which text it takes in front of which rest: readers in
sequence then take their texts one behind the other, as the rest of one is the text
of the next.
-/

namespace SqlDialects

/-- What takes a value off the front of a text. -/
abbrev Reader := StateT (List Char) Option

namespace Reader

variable {α β : Type} {p q : Reader α} {cs ds rest : List Char} {s t : String} {a : α} {b : β}

/-- In front of a rest, a reader takes a text for a value. -/
def Takes (p : Reader α) (cs : List Char) (a : α) (rest : List Char) : Prop :=
  p.run (cs ++ rest) = some (a, rest)

/-- The value of a whole text. -/
def readAll (p : Reader α) (cs : List Char) : Option α :=
  match p.run cs with
  | some (a, []) => some a
  | _ => none

theorem Takes.readAll (h : p.Takes cs a []) : p.readAll cs = some a := by
  have hrun : p.run cs = some (a, []) := by simpa [Takes] using h
  rw [Reader.readAll, hrun]

/-- Neither of two kinds of characters is there. -/
theorem startsWithout_or {p q : Char → Bool} (h : StartsWithout (fun c => p c || q c) rest) :
    StartsWithout p rest ∧ StartsWithout q rest :=
  ⟨fun c hc => (Bool.or_eq_false_iff.1 (h c hc)).1, fun c hc => (Bool.or_eq_false_iff.1 (h c hc)).2⟩

/-- What stands behind the end of a line does not go on with it. -/
theorem startsWithout_of_lineEnd {bad : Char → Bool} (h : StartsWithout (· != '\n') rest)
    (hbad : bad '\n' = false) : StartsWithout bad rest := by
  intro c hc
  have hfeed : c = '\n' := by simpa using h c hc
  rw [hfeed, hbad]

/-! ## Sequences and choices -/

theorem takes_pure (a : α) (rest : List Char) : Takes (pure a) [] a rest := rfl

/-- The second reader starts where the first one stops. -/
theorem Takes.bind {f : α → Reader β} (h : p.Takes cs a (ds ++ rest))
    (h' : (f a).Takes ds b rest) : (p >>= f).Takes (cs ++ ds) b rest := by
  rw [Takes, StateT.run_bind, List.append_assoc, show p.run (cs ++ (ds ++ rest)) = _ from h]
  exact h'

/-- Texts that are put together are taken one behind the other. -/
theorem Takes.next {f : α → Reader β} (h : p.Takes s.toList a (t.toList ++ rest))
    (h' : (f a).Takes t.toList b rest) : (p >>= f).Takes (s ++ t).toList b rest := by
  rw [String.toList_append]
  exact h.bind h'

/-- A value that there may be, for no text. -/
def given (value : Option α) : Reader α := StateT.lift value

theorem takes_given {value : Option α} (h : value = some a) (rest : List Char) :
    (given value).Takes [] a rest := by
  rw [h]
  rfl

/-- A reader whose value is put into another one that takes no text. -/
theorem Takes.bind_given {f : α → Option β} (h : p.Takes cs a rest) (hf : f a = some b) :
    (p >>= fun a => given (f a)).Takes cs b rest := by
  have h' : (p >>= fun a => given (f a)).Takes (cs ++ []) b rest := h.bind (takes_given hf rest)
  rwa [List.append_nil] at h'

theorem Takes.bind_pure {f : α → β} (h : p.Takes cs a rest) :
    (p >>= fun a => pure (f a)).Takes cs (f a) rest :=
  h.bind_given (f := fun a => some (f a)) rfl

/-- What can be read is taken. -/
theorem Takes.optional_some (h : p.Takes cs a rest) :
    (optional p).Takes cs (some a) rest := by
  have hrun : (optional p).run (cs ++ rest) = ((some <$> p).run (cs ++ rest) <|>
      (pure none : Reader (Option α)).run (cs ++ rest)) := rfl
  rw [Takes, hrun, StateT.run_map, show p.run (cs ++ rest) = _ from h]
  rfl

/-- What cannot be read is left. -/
theorem takes_optional_none (h : p.run rest = none) : (optional p).Takes [] none rest := by
  have hrun : (optional p).run rest = ((some <$> p).run rest <|>
      (pure none : Reader (Option α)).run rest) := rfl
  rw [Takes, List.nil_append, hrun, StateT.run_map, h]
  rfl

/-- The first of two readers is tried first. -/
theorem Takes.orElse_left (h : p.Takes cs a rest) : (p <|> q).Takes cs a rest := by
  have hrun : (p <|> q).run (cs ++ rest) = (p.run (cs ++ rest) <|> q.run (cs ++ rest)) := rfl
  rw [Takes, hrun, show p.run (cs ++ rest) = _ from h]
  rfl

/-- The second of two readers takes what the first one cannot read. -/
theorem Takes.orElse_right (hp : p.run (cs ++ rest) = none) (h : q.Takes cs a rest) :
    (p <|> q).Takes cs a rest := by
  have hrun : (p <|> q).run (cs ++ rest) = (p.run (cs ++ rest) <|> q.run (cs ++ rest)) := rfl
  rw [Takes, hrun, hp]
  exact h

theorem orElse_eq_none (hp : p.run cs = none) (hq : q.run cs = none) :
    (p <|> q).run cs = none := by
  have hrun : (p <|> q).run cs = (p.run cs <|> q.run cs) := rfl
  rw [hrun, hp]
  exact hq

/-! ## Words and tokens -/

/-- A given word. -/
def expect (word : String) : Reader Unit := fun cs =>
  (cs.dropPrefix? word.toList).map fun rest => ((), rest)

theorem takes_expect (word : String) (rest : List Char) :
    (expect word).Takes word.toList () rest := by
  rw [Takes, StateT.run, expect, List.dropPrefix?_append_of_beq rest (beq_self_eq_true _)]
  rfl

theorem Takes.expect_bind {word : String} {f : Unit → Reader β} (h : (f ()).Takes ds b rest) :
    (expect word >>= f).Takes (word.toList ++ ds) b rest :=
  (takes_expect word (ds ++ rest)).bind h

theorem Takes.expect_next {word : String} {f : Unit → Reader β} (h : (f ()).Takes t.toList b rest) :
    (expect word >>= f).Takes (word ++ t).toList b rest :=
  (takes_expect word _).next h

/-- A word is not there where the text starts otherwise. -/
theorem expect_eq_none {word : String} {c : Char} (hword : word.toList.head? = some c)
    (h : StartsWithout (· == c) rest) : (expect word).run rest = none := by
  obtain ⟨more, hmore⟩ := List.head?_eq_some_iff.1 hword
  rw [StateT.run, expect, hmore]
  cases rest with
  | nil => rfl
  | cons d rest =>
    have hd : (d == c) = false := h d rfl
    simp [List.dropPrefix?, hd]

theorem expect_bind_eq_none {word : String} {c : Char} (hword : word.toList.head? = some c)
    (h : StartsWithout (· == c) rest) (f : Unit → Reader β) :
    (expect word >>= f).run rest = none := by
  rw [StateT.run_bind, expect_eq_none hword h]
  rfl

/-- A token between two of the same quotes. -/
def token (quote : Char) : Reader (List Char) := do
  expect (String.singleton quote)
  readQuoted quote

theorem takes_token {quote : Char} (h : StartsWithout (· == quote) rest) (content : List Char) :
    (token quote).Takes (quote :: doubled quote content ++ [quote]) content rest := by
  have hread : Takes (readQuoted quote) (doubled quote content ++ [quote]) content rest := by
    rw [Takes, List.append_assoc]
    exact readQuoted_doubled h content
  have htoken : (token quote).Takes ((String.singleton quote).toList ++
      (doubled quote content ++ [quote])) content rest := hread.expect_bind
  rwa [String.toList_singleton] at htoken

/-! ## Lists -/

/-- As many values as can be read one behind the other, each of them from some text. -/
def many (p : Reader α) : Reader (List α) := fun cs =>
  match p.run cs with
  | none => some ([], cs)
  | some (a, rest) =>
    if rest.length < cs.length then (many p rest).map fun (as, rest) => (a :: as, rest)
    else some ([], cs)
termination_by cs => cs.length

/-- Values with a word between them, and at least one. -/
def separated (word : String) (p : Reader α) : Reader (List α) := do
  let first ← p
  let more ← many do expect word; p
  return first :: more

theorem takes_many_nil (h : p.run rest = none) : (many p).Takes [] [] rest := by
  rw [Takes, List.nil_append, StateT.run, many, h]

theorem Takes.many_cons {as : List α} (h : p.Takes cs a (ds ++ rest)) (hne : cs ≠ [])
    (h' : (many p).Takes ds as rest) : (many p).Takes (cs ++ ds) (a :: as) rest := by
  have hlength : (ds ++ rest).length < (cs ++ (ds ++ rest)).length := by
    have hpos := List.length_pos_iff.2 hne
    simp only [List.length_append]
    omega
  rw [Takes, List.append_assoc, StateT.run, many, show p.run (cs ++ (ds ++ rest)) = _ from h]
  simp only [hlength, if_true]
  rw [show many p (ds ++ rest) = _ from h']
  rfl

/-- Texts with the word before each. -/
def led (word : String) (texts : List String) : List Char :=
  texts.flatMap fun text => word.toList ++ text.toList

theorem toList_intercalate_cons (word text : String) (texts : List String) :
    (word.intercalate (text :: texts)).toList = text.toList ++ led word texts := by
  induction texts generalizing text with
  | nil => simp [led]
  | cons next texts ih =>
    rw [String.intercalate_cons_cons, String.toList_append, String.toList_append, ih]
    simp [led]

section Separated

variable {ι : Type} {word : String} {Fits : List Char → Prop} {lengthens : Char → Bool}

/-- In front of every rest that fits, a reader takes a text for a value. -/
def TakesBefore (p : Reader α) (Fits : List Char → Prop) (s : String) (a : α) : Prop :=
  ∀ rest, Fits rest → p.Takes s.toList a rest

/-- Texts that are read as their values, one by one. -/
def TakesEach (p : Reader α) (Fits : List Char → Prop) : List String → List α → Prop :=
  List.Forall₂ (TakesBefore p Fits)

/-- Items are read back from their texts where each of them is. -/
theorem forall₂_takesBefore {Writes : ι → String → Prop} {value : ι → α} {xs : List ι}
    {texts : List String} (h : List.Forall₂ Writes xs texts)
    (hread : ∀ x ∈ xs, ∀ s, Writes x s → TakesBefore p Fits s (value x)) :
    List.Forall₂ (fun s x => TakesBefore p Fits s (value x)) texts xs :=
  ((List.forall₂_and_left _ _).2 ⟨hread, h⟩).flip.imp fun s _ ⟨hx, hs⟩ => hx s hs

theorem TakesEach.fits_led {texts : List String} {values : List α}
    (h : TakesEach p Fits texts values)
    (hword : ∀ {s a}, TakesBefore p Fits s a → ∀ cs, Fits (word.toList ++ (s.toList ++ cs)))
    (hrest : Fits rest) : Fits (led word texts ++ rest) := by
  cases h with
  | nil => exact hrest
  | cons htext =>
    simp only [led, List.flatMap_cons, List.append_assoc]
    exact hword htext _

/-- Items that may stand in front of the next one are read one by one, each behind the word. -/
theorem TakesEach.many_led {texts : List String} {values : List α}
    (h : TakesEach p Fits texts values)
    (hword : ∀ {s a}, TakesBefore p Fits s a → ∀ cs, Fits (word.toList ++ (s.toList ++ cs)))
    (hne : word.toList ≠ []) (hrest : Fits rest)
    (hstop : (do expect word; p : Reader α).run rest = none) :
    (many do expect word; p).Takes (led word texts) values rest := by
  induction h with
  | nil => exact takes_many_nil hstop
  | @cons text value texts values hvalue hmore ih =>
    have hlength : word.toList ++ text.toList ≠ [] := List.append_ne_nil_of_left_ne_nil hne _
    exact (hvalue _ (TakesEach.fits_led hmore hword hrest)).expect_bind.many_cons hlength ih

theorem TakesEach.separated {texts : List String} {values : List α}
    (h : TakesEach p Fits texts values) (htexts : texts ≠ [])
    (hword : ∀ {s a}, TakesBefore p Fits s a → ∀ cs, Fits (word.toList ++ (s.toList ++ cs)))
    (hne : word.toList ≠ []) (hrest : Fits rest)
    (hstop : (do expect word; p : Reader α).run rest = none) :
    (separated word p).Takes (word.intercalate texts).toList values rest := by
  cases h with
  | nil => exact absurd rfl htexts
  | @cons text value texts values hvalue hmore =>
    rw [toList_intercalate_cons]
    exact (hvalue _ (TakesEach.fits_led hmore hword hrest)).bind
      (TakesEach.many_led hmore hword hne hrest hstop).bind_pure

theorem takes_separated {text : ι → String} {value : ι → α} {xs : List ι} (hxs : xs ≠ [])
    (h : ∀ x ∈ xs, ∀ rest, StartsWithout lengthens rest → p.Takes (text x).toList (value x) rest)
    (hword : word.toList.head?.map lengthens = some false) (hrest : StartsWithout lengthens rest)
    (hstop : (do expect word; p : Reader α).run rest = none) :
    (separated word p).Takes (word.intercalate (xs.map text)).toList (xs.map value) rest := by
  have heach : TakesEach p (StartsWithout lengthens) (xs.map text) (xs.map value) := by
    rw [TakesEach, List.forall₂_map_left_iff, List.forall₂_map_right_iff]
    exact List.forall₂_same.2 h
  have hne : word.toList ≠ [] := by
    intro hnil
    rw [hnil] at hword
    cases hword
  exact heach.separated (by simpa using hxs) (fun _ _ => .append hword _) hne hrest hstop

end Separated

/-! ## Numbers of fixed width -/

/-- A decimal digit. -/
def digit : Reader Nat
  | [] => none
  | c :: cs => if c.isDigit then some (c.toNat - 48, cs) else none

/-- A number of as many digits, highest first. -/
def fixedNumber : Nat → Reader Nat
  | 0 => pure 0
  | count + 1 => do
    let high ← fixedNumber count
    let low ← digit
    return 10 * high + low

/-- A number of as many digits that is less than a bound. -/
def field (count bound : Nat) : Reader (Fin bound) := do
  let n ← fixedNumber count
  given (if h : n < bound then some ⟨n, h⟩ else none)

theorem takes_digit {n : Nat} (h : n < 10) (rest : List Char) :
    digit.Takes [Nat.digitChar n] n rest := by
  interval_cases n <;> rfl

theorem takes_fixedNumber {count n : Nat} (h : n < 10 ^ count) (rest : List Char) :
    (fixedNumber count).Takes (fixedDigits count n) n rest := by
  induction count generalizing n rest with
  | zero =>
    obtain rfl : n = 0 := by omega
    exact takes_pure 0 rest
  | succ count ih =>
    have hhigh := ih (n := n / 10) (by rw [pow_succ] at h; omega)
    have hlow := takes_digit (Nat.mod_lt n (by omega : 10 > 0)) rest
    have hn : 10 * (n / 10) + n % 10 = n := Nat.div_add_mod n 10
    have h := (hhigh _).bind (f := fun high => digit >>= fun low => pure (10 * high + low))
      hlow.bind_pure
    rwa [hn] at h

theorem takes_field {count bound : Nat} (h : bound ≤ 10 ^ count) (n : Fin bound)
    (rest : List Char) : (field count bound).Takes (fixedDigits count n) n rest :=
  (takes_fixedNumber (Nat.lt_of_lt_of_le n.isLt h) rest).bind_given (dif_pos n.isLt)

end Reader

end SqlDialects
