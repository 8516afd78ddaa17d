-- SUMMARY: Cutting a text at its quotes alone, and what is seen of texts put together.
import SqlDialects.Render
import SqlDialects.Proofs.Lexing.Pieces

/-!
# Quotes

A text is cut at its quotes into quoted tokens and the characters between them.
Comments are not looked at: a quote opens a token wherever it stands, and the
quotes of a text are balanced when every token is closed.

What a *view* sees of a text are the tokens, or parts of them, that it picks out.
A text with balanced quotes is seen on its own in every text that goes on with it,
as long as no quote follows it at once.
-/

namespace SqlDialects

def isQuote (c : Char) : Bool := c = '\'' || c = '"'

namespace Token

/-- The token between two quotes of a kind. -/
def ofQuote (quote : Char) (content : List Char) : Token :=
  if quote = '"' then .name content else .text content

def isQuoted : Token → Bool
  | .text _ => true
  | .name _ => true
  | _ => false

/-- A blank stands for everything that is quoted. -/
def blanked : Token → Char
  | .bare c => c
  | _ => ' '

/-- The view of the quoted tokens. -/
def quoted? (t : Token) : Option Token := if t.isQuoted then some t else none

/-- The view of some characters, where they are not quoted. -/
def bare? (p : Char → Bool) : Token → Option Char
  | .bare c => if p c then some c else none
  | _ => none

end Token

/-- Quoted tokens and the characters between them. -/
def cut : List Char → List Token
  | [] => []
  | c :: cs =>
    if isQuote c then
      match _h : readQuoted c cs with
      | some (content, rest) => .ofQuote c content :: cut rest
      | none => [.unclosed]
    else .bare c :: cut cs
termination_by cs => cs.length
decreasing_by
  · exact Nat.lt_succ_of_lt (length_of_readQuoted _h)
  · exact Nat.lt_succ_self _

/-- The quoted tokens of a text, in order. -/
def quotedTokens (cs : List Char) : List Token := (cut cs).filter Token.isQuoted

/-- A text with blanks in the place of its quoted tokens. -/
def outside (cs : List Char) : List Char := (cut cs).map Token.blanked

/-- Every quoted token is closed. -/
def IsBalanced (cs : List Char) : Prop := Token.unclosed ∉ cut cs

/-! ## Cutting -/

theorem cut_nil : cut [] = [] := by rw [cut]

theorem cut_bare {c : Char} (h : isQuote c = false) (cs : List Char) :
    cut (c :: cs) = .bare c :: cut cs := by
  rw [cut, if_neg (by simp [h])]

theorem cut_quoted {quote : Char} {cs content rest : List Char} (h : isQuote quote = true)
    (hread : readQuoted quote cs = some (content, rest)) :
    cut (quote :: cs) = .ofQuote quote content :: cut rest := by
  rw [cut, if_pos h]
  split
  next content' rest' hread' =>
    rw [hread] at hread'
    cases hread'
    rfl
  next hread' =>
    rw [hread] at hread'
    cases hread'

theorem cut_unclosed {quote : Char} {cs : List Char} (h : isQuote quote = true)
    (hread : readQuoted quote cs = none) : cut (quote :: cs) = [.unclosed] := by
  rw [cut, if_pos h]
  split
  next hread' =>
    rw [hread] at hread'
    cases hread'
  next => rfl

/-- A token that is closed stays as it is when the text goes on with no quote. -/
theorem readQuoted_append {quote : Char} {cs content rest more : List Char}
    (hread : readQuoted quote cs = some (content, rest)) (h : StartsWithout (· == quote) more) :
    readQuoted quote (cs ++ more) = some (content, rest ++ more) := by
  fun_induction readQuoted quote cs generalizing content rest with
  | case1 => cases hread
  | case2 =>
    cases hread
    exact readQuoted_quote h
  | case3 => cases hread
  | case4 cs ih =>
    obtain ⟨⟨content', rest'⟩, hrest, heq⟩ := Option.map_eq_some_iff.1 hread
    cases heq
    simp [readQuoted, ih hrest]
  | case5 d cs hd =>
    cases hread
    simp [readQuoted, hd]
  | case6 c d cs hc ih =>
    obtain ⟨⟨content', rest'⟩, hrest, heq⟩ := Option.map_eq_some_iff.1 hread
    cases heq
    rw [List.cons_append, readQuoted_cons hc, ih hrest]
    rfl

/-- Balanced text is cut on its own, whatever follows that is no quote. -/
theorem cut_append {cs rest : List Char} (h : IsBalanced cs) (hrest : StartsWithout isQuote rest) :
    cut (cs ++ rest) = cut cs ++ cut rest := by
  induction hlength : cs.length using Nat.strongRecOn generalizing cs with
  | _ n ih =>
    subst hlength
    cases cs with
    | nil => rw [cut_nil, List.nil_append, List.nil_append]
    | cons c cs =>
      cases hc : isQuote c with
      | false =>
        rw [IsBalanced, cut_bare hc, List.mem_cons, not_or] at h
        rw [List.cons_append, cut_bare hc, cut_bare hc, List.cons_append,
          ih cs.length (Nat.lt_succ_self _) h.2 rfl]
      | true =>
        cases hread : readQuoted c cs with
        | none =>
          rw [IsBalanced, cut_unclosed hc hread] at h
          exact absurd List.mem_cons_self h
        | some pair =>
          obtain ⟨content, left⟩ := pair
          rw [IsBalanced, cut_quoted hc hread, List.mem_cons, not_or] at h
          rw [List.cons_append, cut_quoted hc (readQuoted_append hread (hrest.single hc)),
            cut_quoted hc hread, List.cons_append,
            ih left.length (Nat.lt_succ_of_lt (length_of_readQuoted hread)) h.2 rfl]

theorem cut_bare_append {cs : List Char} (h : ∀ c ∈ cs, isQuote c = false) (rest : List Char) :
    cut (cs ++ rest) = cs.map .bare ++ cut rest := by
  induction cs with
  | nil => rfl
  | cons c cs ih =>
    obtain ⟨hc, hcs⟩ := List.forall_mem_cons.1 h
    rw [List.cons_append, cut_bare hc, ih hcs, List.map_cons, List.cons_append]

/-! ## Views -/

theorem nil_intercalate {α : Type} (xss : List (List α)) : [].intercalate xss = xss.flatten := by
  induction xss with
  | nil => rfl
  | cons xs xss ih =>
    cases xss with
    | nil => simp
    | cons ys xss => rw [List.intercalate_cons_cons, ih, List.append_nil, ← List.flatten_cons]

variable {β : Type} {view : Token → Option β}

/-- What a view sees of a text. -/
def seen (view : Token → Option β) (s : String) : List β := (cut s.toList).filterMap view

theorem seen_quoted? (s : String) : seen Token.quoted? s = quotedTokens s.toList := by
  rw [seen, quotedTokens, ← List.filterMap_eq_filter]
  rfl

theorem Token.bare?_eq {p : Char → Bool} (hblank : p ' ' = false) (t : Token) :
    Token.bare? p t = Option.guard p t.blanked := by
  cases t with
  | bare c => cases hc : p c <;> simp [bare?, blanked, Option.guard, hc]
  | _ => simp [bare?, blanked, Option.guard, hblank]

theorem seen_bare? {p : Char → Bool} (hblank : p ' ' = false) (s : String) :
    seen (Token.bare? p) s = (outside s.toList).filter p := by
  rw [seen, outside, ← List.filterMap_eq_filter, List.filterMap_map]
  exact congrArg (List.filterMap · _) (funext (Token.bare?_eq hblank))

/-- What a view sees of text without quotes. -/
def seenBare (view : Token → Option β) (s : String) : List β :=
  s.toList.filterMap fun c => view (.bare c)

def hasNoQuote (s : String) : Bool := s.toList.all fun c => !isQuote c

/-- Text without quotes that keeps two others apart. -/
def isGap (s : String) : Bool := s != "" && hasNoQuote s

theorem forall_mem_gap {separator : String} (h : isGap separator = true) :
    ∀ c ∈ separator.toList, isQuote c = false := by
  simpa [hasNoQuote] using (Bool.and_eq_true_iff.1 h).2

theorem startsWithout_gap {separator : String} (h : isGap separator = true) (rest : List Char) :
    StartsWithout isQuote (separator.toList ++ rest) := by
  intro c hc
  cases hlist : separator.toList with
  | nil =>
    have hne := (Bool.and_eq_true_iff.1 h).1
    simp [String.toList_eq_nil_iff.1 hlist] at hne
  | cons d ds =>
    rw [hlist] at hc
    cases hc
    exact forall_mem_gap h c (hlist ▸ List.mem_cons_self)

/-- The quotes of a text are balanced, and this is seen of it. -/
structure Reads (view : Token → Option β) (s : String) (out : List β) : Prop where
  balanced : IsBalanced s.toList
  seen_eq : seen view s = out

namespace Reads

variable {s t : String} {out more : List β}

theorem of_balanced (h : IsBalanced s.toList) : Reads view s (seen view s) := ⟨h, rfl⟩

theorem append (h : Reads view s out) (h' : Reads view t more)
    (ht : StartsWithout isQuote t.toList) : Reads view (s ++ t) (out ++ more) := by
  have hcut := cut_append h.balanced ht
  constructor
  · rw [String.toList_append, IsBalanced, hcut, List.mem_append, not_or]
    exact ⟨h.balanced, h'.balanced⟩
  · rw [seen, String.toList_append, hcut, List.filterMap_append, ← h.seen_eq, ← h'.seen_eq]
    rfl

/-- Text without quotes takes anything behind it. -/
theorem bare_append (hs : hasNoQuote s = true) (h : Reads view t out) :
    Reads view (s ++ t) (seenBare view s ++ out) := by
  have hcut : cut (s.toList ++ t.toList) = s.toList.map .bare ++ cut t.toList :=
    cut_bare_append (by simpa [hasNoQuote] using hs) t.toList
  constructor
  · rw [String.toList_append, IsBalanced, hcut, List.mem_append, not_or]
    exact ⟨by simp, h.balanced⟩
  · rw [seen, String.toList_append, hcut, List.filterMap_append, List.filterMap_map, ← h.seen_eq]
    rfl

theorem empty : Reads view "" [] := ⟨by simp [IsBalanced, cut_nil], by simp [seen, cut_nil]⟩

theorem bare (hs : hasNoQuote s = true) : Reads view s (seenBare view s) := by
  have hempty : Reads view "" [] := empty
  simpa using bare_append hs hempty

/-- Text without quotes between two others keeps them apart. -/
theorem between (h : Reads view s out) (separator : String) (hsep : isGap separator = true)
    (h' : Reads view t more) :
    Reads view (s ++ separator ++ t) (out ++ (seenBare view separator ++ more)) := by
  rw [String.append_assoc]
  refine h.append (bare_append (Bool.and_eq_true_iff.1 hsep).2 h') ?_
  rw [String.toList_append]
  exact startsWithout_gap hsep _

theorem append_bare (h : Reads view s out) (ht : isGap t = true) :
    Reads view (s ++ t) (out ++ seenBare view t) := by
  simpa using h.between t ht empty

theorem intercalate (separator : String) (hsep : isGap separator = true) {pieces : List String}
    {outs : List (List β)} (h : List.Forall₂ (Reads view) pieces outs) :
    Reads view (separator.intercalate pieces) ((seenBare view separator).intercalate outs) := by
  induction h with
  | nil => exact empty
  | @cons s out pieces outs hs hpieces ih =>
    cases hpieces with
    | nil => simpa using hs
    | cons ht hrest =>
      rw [String.intercalate_cons_cons, List.intercalate_cons_cons, List.append_assoc]
      exact hs.between separator hsep ih

end Reads

end SqlDialects
