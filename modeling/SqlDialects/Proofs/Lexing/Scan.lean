-- SUMMARY: Cutting SQL text into tokens, and texts that are cut the same way whatever stands behind them.
import Mathlib
import SqlDialects.Proofs.Lexing.Quoted

/-!
# Scanning

SQL text is a row of bare characters, quoted tokens and comments. A quoted token
or a comment that nothing ends is unclosed.

A text scans on its own when the tokens of a longer text that starts with it are
its own tokens and then those of what follows. What follows must not start with a
quote, which would lengthen a quoted token, nor with a minus.
-/

namespace SqlDialects

/-! ## Tokens -/

inductive Token where
  | bare (c : Char)
  | text (content : List Char)
  | name (content : List Char)
  | comment
  | unclosed
  deriving DecidableEq

namespace Token

/-- A token that neither hides nor swallows what stands behind it. -/
def isSafe : Token → Bool
  | .comment => false
  | .unclosed => false
  | _ => true

/-- The content of a quoted text. -/
def text? : Token → Option String
  | .text content => some (String.ofList content)
  | _ => none

end Token

/-- What is left behind a block comment, given how many further ones it stands in. -/
def skipBlock (depth : Nat) : List Char → Option (List Char)
  | [] => none
  | [_] => none
  | '*' :: '/' :: cs =>
    match depth with
    | 0 => some cs
    | depth + 1 => skipBlock depth cs
  | '/' :: '*' :: cs => skipBlock (depth + 1) cs
  | _ :: d :: cs => skipBlock depth (d :: cs)

theorem length_of_skipBlock {depth : Nat} {cs rest : List Char}
    (h : skipBlock depth cs = some rest) : rest.length ≤ cs.length := by
  fun_induction skipBlock depth cs with
  | case1 => cases h
  | case2 => cases h
  | case3 cs => cases h; simp only [List.length_cons]; omega
  | case4 cs depth ih => have := ih h; simp only [List.length_cons]; omega
  | case5 depth cs ih => have := ih h; simp only [List.length_cons]; omega
  | case6 depth c d cs _ _ ih => have := ih h; simp only [List.length_cons] at this ⊢; omega

theorem length_dropWhile_le (p : Char → Bool) (cs : List Char) :
    (cs.dropWhile p).length ≤ cs.length :=
  (List.dropWhile_suffix p).length_le

/-- The tokens of a text. -/
def scan : List Char → List Token
  | [] => []
  | c :: cs =>
    if c = '\'' then
      match _h : readQuoted '\'' cs with
      | some (content, rest) => .text content :: scan rest
      | none => [.unclosed]
    else if c = '"' then
      match _h : readQuoted '"' cs with
      | some (content, rest) => .name content :: scan rest
      | none => [.unclosed]
    else if c = '-' ∧ cs.head? = some '-' then
      -- a line comment ends before the line feed, or with the text
      .comment :: scan (cs.dropWhile (· ≠ '\n'))
    else if c = '/' ∧ cs.head? = some '*' then
      match _h : skipBlock 0 cs.tail with
      | some rest => .comment :: scan rest
      | none => [.unclosed]
    else .bare c :: scan cs
termination_by cs => cs.length
decreasing_by
  · exact Nat.lt_succ_of_lt (length_of_readQuoted _h)
  · exact Nat.lt_succ_of_lt (length_of_readQuoted _h)
  · exact Nat.lt_succ_of_le (length_dropWhile_le _ cs)
  · have hrest := length_of_skipBlock _h
    rw [List.length_tail] at hrest
    exact Nat.lt_succ_of_le (Nat.le_trans hrest (Nat.sub_le _ _))
  · exact Nat.lt_succ_self _

/-! ## Single tokens -/

theorem scan_nil : scan [] = [] := by rw [scan]

theorem scan_text {rest : List Char} (content : List Char)
    (h : StartsWithout (· == '\'') rest) :
    scan ('\'' :: doubled '\'' content ++ '\'' :: rest) = .text content :: scan rest := by
  rw [List.cons_append, scan, if_pos rfl]
  split
  next content' rest' hread =>
    rw [readQuoted_doubled h] at hread
    cases hread
    rfl
  next hread =>
    rw [readQuoted_doubled h] at hread
    cases hread

theorem scan_name {rest : List Char} (content : List Char)
    (h : StartsWithout (· == '"') rest) :
    scan ('"' :: doubled '"' content ++ '"' :: rest) = .name content :: scan rest := by
  rw [List.cons_append, scan, if_neg (by decide), if_pos rfl]
  split
  next content' rest' hread =>
    rw [readQuoted_doubled h] at hread
    cases hread
    rfl
  next hread =>
    rw [readQuoted_doubled h] at hread
    cases hread

/-- A character that is no quote and opens no comment stands for itself. -/
theorem scan_cons {c : Char} {cs : List Char} (htext : c ≠ '\'') (hname : c ≠ '"')
    (hline : c = '-' → cs.head? ≠ some '-') (hblock : c = '/' → cs.head? ≠ some '*') :
    scan (c :: cs) = .bare c :: scan cs := by
  rw [scan, if_neg htext, if_neg hname, if_neg fun h => hline h.1 h.2,
    if_neg fun h => hblock h.1 h.2]

/-! ## Bare text -/

/-- No quote is in a text, and no sign in it opens a comment, whatever follows. -/
def isBare : List Char → Bool
  | [] => true
  | c :: cs =>
    c ≠ '\'' && c ≠ '"' && (c ≠ '-' || cs.head?.any (· ≠ '-')) &&
      (c ≠ '/' || cs.head?.any (· ≠ '*')) && isBare cs

/-- Text without quotes and without the signs of which comments are made. -/
theorem isBare_of_forall {cs : List Char}
    (h : ∀ c ∈ cs, c ≠ '\'' ∧ c ≠ '"' ∧ c ≠ '-' ∧ c ≠ '/') : isBare cs = true := by
  induction cs with
  | nil => rfl
  | cons c cs ih =>
    obtain ⟨htext, hname, hline, hblock⟩ := h c List.mem_cons_self
    simp [isBare, htext, hname, hline, hblock, ih fun d hd => h d (List.mem_cons_of_mem c hd)]

theorem head?_append_ne {cs : List Char} {bad : Char} (h : cs.head?.any (· ≠ bad) = true)
    (rest : List Char) : (cs ++ rest).head? ≠ some bad := by
  cases cs with
  | nil => cases h
  | cons c cs => simpa using h

theorem scan_append_of_isBare {cs : List Char} (h : isBare cs = true) (rest : List Char) :
    scan (cs ++ rest) = cs.map .bare ++ scan rest := by
  induction cs with
  | nil => rfl
  | cons c cs ih =>
    simp only [isBare, Bool.and_eq_true, Bool.or_eq_true, decide_eq_true_eq] at h
    obtain ⟨⟨⟨⟨htext, hname⟩, hline⟩, hblock⟩, hcs⟩ := h
    have hstep : scan (c :: (cs ++ rest)) = .bare c :: scan (cs ++ rest) := by
      refine scan_cons htext hname ?_ ?_
      · intro hc
        exact head?_append_ne (hline.resolve_left (not_not_intro hc)) rest
      · intro hc
        exact head?_append_ne (hblock.resolve_left (not_not_intro hc)) rest
    rw [List.cons_append, hstep, ih hcs, List.map_cons, List.cons_append]

/-! ## Texts that scan on their own -/

/-- A character that would change the token in front of it. -/
def isJoining (c : Char) : Bool := c = '\'' || c = '"' || c = '-'

/-- A text that leaves the token in front of it as it is. -/
abbrev Stops (rest : List Char) : Prop := StartsWithout isJoining rest

/-- Bare text that also leaves the token in front of it as it is. -/
def isSeparator (cs : List Char) : Bool := isBare cs && cs.head?.any fun c => !isJoining c

theorem isBare_of_isSeparator {cs : List Char} (h : isSeparator cs = true) : isBare cs = true :=
  (Bool.and_eq_true_iff.1 h).1

theorem stops_append_of_isSeparator {cs : List Char} (h : isSeparator cs = true)
    (rest : List Char) : Stops (cs ++ rest) := by
  have hhead := (Bool.and_eq_true_iff.1 h).2
  cases cs with
  | nil => cases hhead
  | cons c cs => exact .cons (by simpa using hhead) (cs ++ rest)

theorem Stops.append {cs rest : List Char} (hcs : Stops cs) (hrest : Stops rest) :
    Stops (cs ++ rest) := by
  cases cs with
  | nil => exact hrest
  | cons c cs => exact .cons (hcs c rfl) (cs ++ rest)

theorem Stops.not_textQuote {rest : List Char} (h : Stops rest) :
    StartsWithout (· == '\'') rest :=
  h.single (by decide)

theorem Stops.not_nameQuote {rest : List Char} (h : Stops rest) :
    StartsWithout (· == '"') rest :=
  h.single (by decide)

theorem Stops.head?_ne_minus {rest : List Char} (h : Stops rest) : rest.head? ≠ some '-' := by
  intro hrest
  exact absurd (h '-' hrest) (by decide)

/-- A text is cut into safe tokens of its own, and its quoted texts are given. -/
def Scans (s : String) (texts : List String) : Prop :=
  ∃ tokens : List Token, (∀ t ∈ tokens, t.isSafe = true) ∧
    tokens.filterMap Token.text? = texts ∧
    ∀ rest, Stops rest → scan (s.toList ++ rest) = tokens ++ scan rest

namespace Scans

variable {s t : String} {ts us : List String}

theorem scan_eq {tokens : List Token}
    (h : ∀ rest, Stops rest → scan (s.toList ++ rest) = tokens ++ scan rest) :
    scan s.toList = tokens := by
  have h := h [] .nil
  rwa [List.append_nil, scan_nil, List.append_nil] at h

theorem safe (h : Scans s ts) : ∀ t ∈ scan s.toList, t.isSafe = true := by
  obtain ⟨tokens, hsafe, _, hscan⟩ := h
  rw [scan_eq hscan]
  exact hsafe

theorem texts_eq (h : Scans s ts) : (scan s.toList).filterMap Token.text? = ts := by
  obtain ⟨tokens, _, htexts, hscan⟩ := h
  rw [scan_eq hscan]
  exact htexts

theorem append (h : Scans s ts) (h' : Scans t us) (ht : Stops t.toList) :
    Scans (s ++ t) (ts ++ us) := by
  obtain ⟨tokens, hsafe, htexts, hscan⟩ := h
  obtain ⟨tokens', hsafe', htexts', hscan'⟩ := h'
  refine ⟨tokens ++ tokens', ?_, ?_, ?_⟩
  · intro token htoken
    rcases List.mem_append.1 htoken with htoken | htoken
    · exact hsafe token htoken
    · exact hsafe' token htoken
  · rw [List.filterMap_append, htexts, htexts']
  · intro rest hrest
    rw [String.toList_append, List.append_assoc, hscan _ (ht.append hrest), hscan' rest hrest,
      List.append_assoc]

/-- Bare text takes anything behind it. -/
theorem bare_append (hs : isBare s.toList = true) (h : Scans t us) : Scans (s ++ t) us := by
  obtain ⟨tokens, hsafe, htexts, hscan⟩ := h
  refine ⟨s.toList.map .bare ++ tokens, ?_, ?_, ?_⟩
  · intro token htoken
    rcases List.mem_append.1 htoken with htoken | htoken
    · obtain ⟨c, _, rfl⟩ := List.mem_map.1 htoken
      rfl
    · exact hsafe token htoken
  · rw [List.filterMap_append, htexts, List.filterMap_map]
    simp [Function.comp_def, Token.text?]
  · intro rest hrest
    rw [String.toList_append, List.append_assoc, scan_append_of_isBare hs, hscan rest hrest,
      List.append_assoc]

theorem empty : Scans "" [] := ⟨[], by simp, rfl, fun _ _ => rfl⟩

theorem bare (hs : isBare s.toList = true) : Scans s [] := by
  simpa using bare_append hs empty

/-- Bare text between two others, whatever they start and end with. -/
theorem between (h : Scans s ts) (separator : String)
    (hseparator : isSeparator separator.toList = true) (h' : Scans t us) :
    Scans (s ++ separator ++ t) (ts ++ us) := by
  rw [String.append_assoc]
  refine h.append (bare_append (isBare_of_isSeparator hseparator) h') ?_
  rw [String.toList_append]
  exact stops_append_of_isSeparator hseparator _

theorem append_bare (h : Scans s ts) (ht : isSeparator t.toList = true) : Scans (s ++ t) ts := by
  simpa using h.between t ht empty

/-- A minus in front of a text that does not start with one. -/
theorem minus (h : Scans s ts) (hs : s.toList.head? ≠ some '-') : Scans ("-" ++ s) ts := by
  obtain ⟨tokens, hsafe, htexts, hscan⟩ := h
  refine ⟨.bare '-' :: tokens, ?_, htexts, ?_⟩
  · intro token htoken
    rcases List.mem_cons.1 htoken with rfl | htoken
    · rfl
    · exact hsafe token htoken
  · intro rest hrest
    -- a text that is empty leaves the minus in front of what follows, which starts with none
    have hhead : (s.toList ++ rest).head? ≠ some '-' := by
      cases hlist : s.toList with
      | nil => exact hrest.head?_ne_minus
      | cons c cs => simpa [hlist] using hs
    have hminus : ("-" ++ s).toList = '-' :: s.toList := by rw [String.toList_append]; rfl
    rw [hminus, List.cons_append, scan_cons (by decide) (by decide) (fun _ => hhead)
      (fun h => absurd h (by decide)), hscan rest hrest, List.cons_append]

theorem text (content : String) :
    Scans (String.ofList ('\'' :: doubled '\'' content.toList ++ ['\''])) [content] := by
  refine ⟨[.text content.toList], ?_, by simp [Token.text?], ?_⟩
  · intro token htoken
    rcases List.mem_singleton.1 htoken with rfl
    rfl
  · intro rest hrest
    have hscan := scan_text content.toList hrest.not_textQuote
    simpa using hscan

theorem name (content : String) : Scans (Identifier.quoted content) [] := by
  refine ⟨[.name content.toList], ?_, rfl, ?_⟩
  · intro token htoken
    rcases List.mem_singleton.1 htoken with rfl
    rfl
  · intro rest hrest
    have hscan := scan_name content.toList hrest.not_nameQuote
    simpa [Identifier.quoted] using hscan

/-- Texts with a separator between them scan one by one. -/
theorem intercalate (separator : String) (hseparator : isSeparator separator.toList = true)
    {pieces : List String} {texts : List (List String)} (h : List.Forall₂ Scans pieces texts) :
    Scans (separator.intercalate pieces) texts.flatten := by
  induction h with
  | nil => exact empty
  | @cons s ts pieces texts hs hpieces ih =>
    cases hpieces with
    | nil => simpa using hs
    | cons ht hrest =>
      rw [String.intercalate_cons_cons, List.flatten_cons]
      exact hs.between separator hseparator ih

end Scans

end SqlDialects
