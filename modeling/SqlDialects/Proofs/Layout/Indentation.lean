-- SUMMARY: Indenting a text keeps its quoted tokens exactly when no line ends inside one of them.
import SqlDialects.Text.Characters
import SqlDialects.Proofs.Layout.Quotes

/-!
# Indentation

An indented text starts with two blanks, and behind every line end of it stand two
more. Quotes play no part in this: where a line ends inside a quoted token, the
token itself is changed. All other tokens stay, and so does every character outside
them that is neither a line end nor a blank.
-/

namespace SqlDialects

/-! ## Indenting character by character -/

/-- A text as it stands in the middle of an indented one: every line end is a line feed
    with two blanks behind it. -/
def Text.hung : List Char → List Char
  | [] => []
  | '\r' :: '\n' :: cs => '\n' :: ' ' :: ' ' :: hung cs
  | c :: cs => if isLineEnd c then '\n' :: ' ' :: ' ' :: hung cs else c :: hung cs

namespace Text

theorem hung_cons {c : Char} (h : isLineEnd c = false) (cs : List Char) :
    hung (c :: cs) = c :: hung cs := by
  have hc : c ≠ '\r' := by
    rintro rfl
    exact absurd h (by decide)
  rw [hung, h]
  · rfl
  · exact fun _ hc' => absurd hc' hc

theorem hung_lineEnd {c : Char} {cs : List Char} (h : isLineEnd c = true)
    (hcs : c = '\r' → cs.head? ≠ some '\n') : hung (c :: cs) = '\n' :: ' ' :: ' ' :: hung cs := by
  rw [hung, h]
  · rfl
  · rintro rest hc rfl
    exact hcs hc rfl

/-- A carriage return that is no pair with what is behind it has no line feed behind it. -/
theorem head?_ne_of_not_pair {c : Char} {cs : List Char}
    (h : ∀ rest, c = '\r' → cs = '\n' :: rest → False) (hc : c = '\r') :
    cs.head? ≠ some '\n' := by
  intro hhead
  obtain ⟨rest, hrest⟩ := List.head?_eq_some_iff.1 hhead
  exact h rest hc hrest

theorem length_le_hung (cs : List Char) : cs.length ≤ (hung cs).length := by
  fun_induction hung cs with
  | case1 => exact Nat.le_refl _
  | case2 cs ih => simp only [List.length_cons]; omega
  | case3 c cs _ _ ih => simp only [List.length_cons]; omega
  | case4 c cs _ _ ih => simp only [List.length_cons]; omega

/-- A text stays as it is exactly when no line ends in it. -/
theorem hung_eq_self_iff (cs : List Char) :
    hung cs = cs ↔ ∀ c ∈ cs, isLineEnd c = false := by
  fun_induction hung cs with
  | case1 => simp
  | case2 cs ih =>
    refine iff_of_false ?_ fun h => absurd (h '\r' List.mem_cons_self) (by decide)
    intro h
    exact absurd (List.cons.inj h).1 (by decide)
  | case3 c cs _ hc ih =>
    refine iff_of_false ?_ fun h => ?_
    · intro h
      have hlength := congrArg List.length h
      have hle := length_le_hung cs
      simp only [List.length_cons] at hlength
      omega
    · rw [h c List.mem_cons_self] at hc
      cases hc
  | case4 c cs _ hc ih =>
    rw [List.cons.injEq, ih, List.forall_mem_cons]
    simp [hc]

/-- Two texts are hung one by one unless a line end is cut apart between them. -/
theorem hung_append {cs rest : List Char}
    (h : cs.getLast? = some '\r' → rest.head? ≠ some '\n') :
    hung (cs ++ rest) = hung cs ++ hung rest := by
  have htail (pre : List Char) {cs : List Char} (hpre : (pre ++ cs).getLast? = some '\r' →
      rest.head? ≠ some '\n') (hcs : cs.getLast? = some '\r') : rest.head? ≠ some '\n' :=
    hpre (by simp [List.getLast?_append, hcs])
  fun_induction hung cs with
  | case1 => rfl
  | case2 cs ih => simp [hung, ih (htail ['\r', '\n'] h)]
  | case3 c cs hpair hc ih =>
    have hhead : c = '\r' → (cs ++ rest).head? ≠ some '\n' := by
      rintro rfl hhead
      cases cs with
      | nil => exact h rfl hhead
      | cons d ds => exact head?_ne_of_not_pair hpair rfl hhead
    rw [List.cons_append, hung_lineEnd hc hhead, ih (htail [c] h)]
    rfl
  | case4 c cs _ hc ih =>
    rw [List.cons_append, hung_cons (by simpa using hc), ih (htail [c] h)]
    rfl

theorem lines_ne_nil {cs : List Char} (h : cs ≠ []) : lines cs ≠ [] := by
  fun_induction lines cs with
  | case1 => exact absurd rfl h
  | case2 => exact List.cons_ne_nil _ _
  | case3 => exact List.cons_ne_nil _ _
  | case4 => exact List.cons_ne_nil _ _
  | case5 => exact List.cons_ne_nil _ _

/-- Lines with two blanks before each, and line feeds between them. -/
def joined (lines : List (List Char)) : List Char :=
  ['\n'].intercalate (lines.map ([' ', ' '] ++ ·))

theorem joined_cons {more : List (List Char)} (h : more ≠ []) (line : List Char) :
    joined (line :: more) = ' ' :: ' ' :: line ++ '\n' :: joined more := by
  cases more with
  | nil => exact absurd rfl h
  | cons next more => simp [joined, List.intercalate_cons_cons]

/-- Where the last line of a text has no end, indenting puts two blanks before it and hangs
    the rest. -/
theorem joined_lines {cs : List Char} {c : Char} (h : cs.getLast? = some c)
    (hc : isLineEnd c = false) : joined (lines cs) = ' ' :: ' ' :: hung cs := by
  -- what stands behind a line end ends as the whole text does
  have hrest (pre : List Char) {cs : List Char} (hpre : ∀ d ∈ pre, isLineEnd d = true)
      (h : (pre ++ cs).getLast? = some c) : cs.getLast? = some c := by
    cases cs with
    | cons d ds => simpa [List.getLast?_append] using h
    | nil =>
      rw [List.append_nil] at h
      rw [hpre c (List.mem_of_getLast? h)] at hc
      cases hc
  have hline {cs : List Char} (hcs : cs.getLast? = some c)
      (ih : joined (lines cs) = ' ' :: ' ' :: hung cs) :
      joined ([] :: lines cs) = ' ' :: ' ' :: '\n' :: ' ' :: ' ' :: hung cs := by
    have hne : cs ≠ [] := by
      rintro rfl
      cases hcs
    rw [joined_cons (lines_ne_nil hne), ih]
    rfl
  fun_induction lines cs with
  | case1 => cases h
  | case2 cs ih =>
    have hcs := hrest ['\r', '\n'] (by simp [isLineEnd]) h
    rw [hline hcs (ih hcs), hung]
  | case3 d cs hpair hd ih =>
    have hcs := hrest [d] (by simpa using hd) h
    rw [hline hcs (ih hcs), hung_lineEnd hd (head?_ne_of_not_pair hpair)]
  | case4 d cs _ hd hnil ih =>
    have hcs : cs = [] := by
      by_contra hne
      exact lines_ne_nil hne hnil
    subst hcs
    rw [hung_cons (by simpa using hd)]
    rfl
  | case5 d cs _ hd line more hlines ih =>
    have hcs : cs.getLast? = some c := by
      cases cs with
      | nil => cases hlines
      | cons e es => simpa using h
    have hjoined := ih hcs
    rw [hlines] at hjoined
    rw [hung_cons (by simpa using hd)]
    cases more with
    | nil => simpa [joined] using hjoined
    | cons next more =>
      rw [joined_cons (List.cons_ne_nil _ _)] at hjoined ⊢
      simpa using hjoined

/-- A text whose last line has no end of its own. -/
theorem toList_indent {s : String} {c : Char} (h : s.toList.getLast? = some c)
    (hc : isLineEnd c = false) : (indent s).toList = ' ' :: ' ' :: hung s.toList := by
  rw [← joined_lines h hc, indent, String.toList_intercalate, joined, List.map_map]
  simp [Function.comp_def]

end Text

/-! ## Indenting and quotes -/

namespace Token

/-- A token as it stands in an indented text. -/
def hung : Token → Token
  | .text content => .text (Text.hung content)
  | .name content => .name (Text.hung content)
  | t => t

/-- A line end or a blank outside quotes. -/
def isLayout : Token → Bool
  | .bare c => Text.isLineEnd c || c = ' '
  | _ => false

theorem hung_ofQuote (quote : Char) (content : List Char) :
    (ofQuote quote content).hung = ofQuote quote (Text.hung content) := by
  by_cases h : quote = '"' <;> simp [ofQuote, hung, h]

theorem isLayout_ofQuote (quote : Char) (content : List Char) :
    (ofQuote quote content).isLayout = false := by
  by_cases h : quote = '"' <;> simp [ofQuote, isLayout, h]

end Token

theorem isLineEnd_of_isQuote {quote : Char} (h : isQuote quote = true) :
    Text.isLineEnd quote = false := by
  have hquote : quote = '\'' ∨ quote = '"' := by simpa [isQuote] using h
  rcases hquote with rfl | rfl <;> rfl

/-- A line feed and two blanks are never a quote. -/
theorem readQuoted_lineFeed {quote : Char} (h : isQuote quote = true) (cs : List Char) :
    readQuoted quote ('\n' :: ' ' :: ' ' :: cs) = (readQuoted quote cs).map fun (content, rest) =>
      ('\n' :: ' ' :: ' ' :: content, rest) := by
  have hquote : '\n' ≠ quote ∧ ' ' ≠ quote := by
    constructor <;>
      · rintro rfl
        exact absurd h (by decide)
  rw [readQuoted_cons hquote.1, readQuoted_cons hquote.2, readQuoted_cons hquote.2,
    Option.map_map, Option.map_map]
  rfl

theorem head?_hung (cs : List Char) :
    (Text.hung cs).head? = cs.head?.map fun c => if Text.isLineEnd c then '\n' else c := by
  fun_cases Text.hung cs with
  | case1 => rfl
  | case2 cs => rfl
  | case3 c cs _ hc => simp [hc]
  | case4 c cs _ hc => simp [hc]

theorem startsWithout_hung {quote : Char} {cs : List Char} (hquote : isQuote quote = true)
    (h : StartsWithout (· == quote) cs) : StartsWithout (· == quote) (Text.hung cs) := by
  intro c hc
  rw [head?_hung, Option.mem_def, Option.map_eq_some_iff] at hc
  obtain ⟨d, hd, rfl⟩ := hc
  split
  · rw [beq_eq_false_iff_ne]
    rintro rfl
    exact absurd hquote (by decide)
  · exact h d hd

/-- The content of a quoted token starts as the text it is read from. -/
theorem head?_of_readQuoted {quote c : Char} {cs : List Char} {pair : List Char × List Char}
    (hread : readQuoted quote cs = some pair) (hc : pair.1.head? = some c) :
    cs.head? = some c := by
  fun_induction readQuoted quote cs with
  | case1 => cases hread
  | case2 =>
    cases hread
    cases hc
  | case3 => cases hread
  | case4 =>
    obtain ⟨pair', _, rfl⟩ := Option.map_eq_some_iff.1 hread
    exact hc
  | case5 =>
    cases hread
    cases hc
  | case6 =>
    obtain ⟨pair', _, rfl⟩ := Option.map_eq_some_iff.1 hread
    exact hc

/-- A quoted token is read from an indented text as it is read before, with its content
    indented. -/
theorem readQuoted_hung {quote : Char} (hquote : isQuote quote = true) (cs : List Char) :
    readQuoted quote (Text.hung cs) = (readQuoted quote cs).map fun (content, rest) =>
      (Text.hung content, Text.hung rest) := by
  have hend := isLineEnd_of_isQuote hquote
  fun_induction readQuoted quote cs with
  | case1 => rfl
  | case2 =>
    rw [Text.hung_cons hend]
    simp [Text.hung, readQuoted]
  | case3 c hc =>
    cases hlast : Text.isLineEnd c with
    | false => simp [Text.hung_cons hlast, readQuoted_cons hc, Text.hung, readQuoted]
    | true =>
      rw [Text.hung_lineEnd hlast (by simp), readQuoted_lineFeed hquote]
      rfl
  | case4 cs ih =>
    rw [Text.hung_cons hend, Text.hung_cons hend, readQuoted, if_pos rfl, if_pos rfl, ih,
      Option.map_map, Option.map_map]
    exact congrArg (Option.map · _) (funext fun pair => by simp [Text.hung_cons hend])
  | case5 d cs hd =>
    rw [Text.hung_cons hend, readQuoted_quote (startsWithout_hung hquote (.cons (by simpa) cs))]
    rfl
  | case6 c d cs hc ih =>
    cases hlast : Text.isLineEnd c with
    | false =>
      rw [Text.hung_cons hlast, readQuoted_cons hc, ih, Option.map_map, Option.map_map]
      exact congrArg (Option.map · _) (funext fun pair => by simp [Text.hung_cons hlast])
    | true =>
      by_cases hpair : c = '\r' ∧ d = '\n'
      · -- the pair is read as its line feed alone
        obtain ⟨rfl, rfl⟩ := hpair
        have hfeed : '\n' ≠ quote := fun h => absurd (h ▸ hquote) (by decide)
        rw [show Text.hung ('\r' :: '\n' :: cs) = Text.hung ('\n' :: cs) from rfl, ih,
          readQuoted_cons hfeed, Option.map_map, Option.map_map, Option.map_map]
        rfl
      · have hhead : c = '\r' → (d :: cs).head? ≠ some '\n' := by
          rintro rfl hd
          cases hd
          exact hpair ⟨rfl, rfl⟩
        rw [Text.hung_lineEnd hlast hhead, readQuoted_lineFeed hquote, ih, Option.map_map,
          Option.map_map]
        refine Option.map_congr fun pair hread => ?_
        have hcontent : c = '\r' → pair.1.head? ≠ some '\n' := fun hc hfirst =>
          hhead hc (head?_of_readQuoted hread hfirst)
        simp [Text.hung_lineEnd hlast hcontent]

/-- Indenting changes what is quoted, and nothing else but the layout. -/
theorem cut_hung (cs : List Char) :
    (cut (Text.hung cs)).filter (!·.isLayout) =
      ((cut cs).filter (!·.isLayout)).map Token.hung := by
  induction hlength : cs.length using Nat.strongRecOn generalizing cs with
  | _ n ih =>
    subst hlength
    cases cs with
    | nil => simp [Text.hung, cut_nil]
    | cons c cs =>
      cases hquote : isQuote c with
      | true =>
        rw [Text.hung_cons (isLineEnd_of_isQuote hquote)]
        have hhung := readQuoted_hung hquote cs
        cases hread : readQuoted c cs with
        | none =>
          rw [hread] at hhung
          rw [cut_unclosed hquote hread, cut_unclosed hquote hhung]
          rfl
        | some pair =>
          obtain ⟨content, rest⟩ := pair
          rw [hread] at hhung
          rw [cut_quoted hquote hread, cut_quoted hquote hhung,
            List.filter_cons_of_pos (by simp [Token.isLayout_ofQuote]),
            List.filter_cons_of_pos (by simp [Token.isLayout_ofQuote]), List.map_cons,
            Token.hung_ofQuote,
            ih rest.length (Nat.lt_succ_of_lt (length_of_readQuoted hread)) rest rfl]
      | false =>
        have htail := ih cs.length (Nat.lt_succ_self _) cs rfl
        cases hend : Text.isLineEnd c with
        | false =>
          rw [Text.hung_cons hend, cut_bare hquote, cut_bare hquote, List.filter_cons,
            List.filter_cons, htail]
          split <;> rfl
        | true =>
          have hdropped : ((cut (c :: cs)).filter (!·.isLayout)) =
              (cut cs).filter (!·.isLayout) := by
            rw [cut_bare hquote]
            exact List.filter_cons_of_neg (by simp [Token.isLayout, hend])
          rw [hdropped, ← htail]
          by_cases hpair : c = '\r' ∧ cs.head? = some '\n'
          · obtain ⟨rfl, hfeed⟩ := hpair
            obtain ⟨rest, rfl⟩ := List.head?_eq_some_iff.1 hfeed
            rfl
          · rw [Text.hung_lineEnd hend fun hc hfeed => hpair ⟨hc, hfeed⟩, cut_bare (by decide),
              cut_bare (by decide), cut_bare (by decide)]
            rfl

/-- A view that does not look at the layout. -/
def IgnoresLayout {β : Type} (view : Token → Option β) : Prop :=
  ∀ t, t.isLayout = true → view t = none

theorem IgnoresLayout.filterMap_eq {β : Type} {view : Token → Option β} (h : IgnoresLayout view)
    (ts : List Token) : (ts.filter (!·.isLayout)).filterMap view = ts.filterMap view := by
  induction ts with
  | nil => rfl
  | cons t ts ih =>
    cases ht : t.isLayout with
    | false => rw [List.filter_cons_of_pos (by simp [ht]), List.filterMap_cons, ih,
        List.filterMap_cons]
    | true => rw [List.filter_cons_of_neg (by simp [ht]), ih, List.filterMap_cons_none (h t ht)]

/-- What such a view sees of an indented text are the indented tokens. -/
theorem IgnoresLayout.filterMap_hung {β : Type} {view : Token → Option β}
    (h : IgnoresLayout view) (cs : List Char) :
    (cut (Text.hung cs)).filterMap view = (cut cs).filterMap fun t => view t.hung := by
  have hhung : IgnoresLayout fun t => view t.hung := by
    intro t ht
    cases t with
    | bare c => exact h _ ht
    | _ => cases ht
  rw [← h.filterMap_eq, cut_hung, List.filterMap_map, ← hhung.filterMap_eq]
  rfl

theorem ignoresLayout_quoted? : IgnoresLayout Token.quoted? := by
  intro t ht
  cases t with
  | bare c => rfl
  | _ => cases ht

theorem ignoresLayout_bare? {p : Char → Bool} (hblank : p ' ' = false)
    (hend : ∀ c, Text.isLineEnd c = true → p c = false) : IgnoresLayout (Token.bare? p) := by
  intro t ht
  cases t with
  | bare c =>
    have hp : p c = false := by
      rcases Bool.or_eq_true_iff.1 ht with h | h
      · exact hend c h
      · exact of_decide_eq_true h ▸ hblank
    simp [Token.bare?, hp]
  | _ => cases ht

theorem isBalanced_hung {cs : List Char} (h : IsBalanced cs) : IsBalanced (Text.hung cs) := by
  intro hmem
  have hkept : Token.unclosed ∈ (cut (Text.hung cs)).filter (!·.isLayout) :=
    List.mem_filter.2 ⟨hmem, rfl⟩
  rw [cut_hung] at hkept
  obtain ⟨t, ht, hunclosed⟩ := List.mem_map.1 hkept
  cases t with
  | unclosed => exact h (List.mem_filter.1 ht).1
  | _ => cases hunclosed

/-- An indented text is seen as its indented tokens. -/
theorem Reads.indent {β : Type} {view : Token → Option β} {s : String} {out : List β}
    (hview : IgnoresLayout view) (h : Reads (fun t => view t.hung) s out) {c : Char}
    (hlast : s.toList.getLast? = some c) (hc : Text.isLineEnd c = false) :
    Reads view (Text.indent s) out := by
  have hindent := Text.toList_indent hlast hc
  have hblank : view (.bare ' ') = none := hview _ rfl
  constructor
  · rw [hindent, IsBalanced, cut_bare (by decide), cut_bare (by decide)]
    simpa [IsBalanced] using isBalanced_hung h.balanced
  · rw [← h.seen_eq, seen, hindent, cut_bare (by decide), cut_bare (by decide),
      List.filterMap_cons_none hblank, List.filterMap_cons_none hblank, hview.filterMap_hung]
    rfl

/-! ## Unbroken tokens -/

/-- What stands between the quotes of a token. -/
def Token.content : Token → List Char
  | .text content => content
  | .name content => content
  | _ => []

/-- No line ends in a token. -/
def Token.IsUnbroken (t : Token) : Prop := ∀ c ∈ t.content, Text.isLineEnd c = false

/-- No line ends in a quoted token of a text. -/
def IsUnbroken (s : String) : Prop := ∀ t ∈ quotedTokens s.toList, t.IsUnbroken

instance (s : String) : Decidable (IsUnbroken s) :=
  inferInstanceAs (Decidable (∀ t ∈ quotedTokens s.toList, ∀ c ∈ t.content,
    Text.isLineEnd c = false))

/-- A token stays as it is exactly when no line ends in it. -/
theorem Token.hung_eq_self_iff (t : Token) : t.hung = t ↔ t.IsUnbroken := by
  cases t with
  | text content => simp [hung, IsUnbroken, Token.content, Text.hung_eq_self_iff]
  | name content => simp [hung, IsUnbroken, Token.content, Text.hung_eq_self_iff]
  | _ => simp [hung, IsUnbroken, Token.content]

theorem map_hung_eq_self_iff (ts : List Token) :
    ts.map Token.hung = ts ↔ ∀ t ∈ ts, t.IsUnbroken := by
  induction ts with
  | nil => simp
  | cons t ts ih =>
    rw [List.map_cons, List.cons.injEq, t.hung_eq_self_iff, ih, List.forall_mem_cons]

/-- The quoted tokens of a hung text are those of the text itself, hung one by one. -/
theorem quotedTokens_hung (cs : List Char) :
    quotedTokens (Text.hung cs) = (quotedTokens cs).map Token.hung := by
  have hseen := ignoresLayout_quoted?.filterMap_hung cs
  rw [quotedTokens, quotedTokens, ← List.filterMap_eq_filter, List.map_filterMap]
  refine hseen.trans (congrArg (List.filterMap · _) (funext fun t => ?_))
  cases t with
  | _ => rfl

theorem quotedTokens_indent {s : String} {c : Char} (hlast : s.toList.getLast? = some c)
    (hc : Text.isLineEnd c = false) :
    quotedTokens (Text.indent s).toList = quotedTokens (Text.hung s.toList) := by
  rw [Text.toList_indent hlast hc, quotedTokens, cut_bare (by decide), cut_bare (by decide)]
  rfl

/-- The quoted tokens stay exactly when no line ends in one of them. -/
theorem quotedTokens_hung_eq_iff (s : String) :
    quotedTokens (Text.hung s.toList) = quotedTokens s.toList ↔ IsUnbroken s := by
  rw [quotedTokens_hung, map_hung_eq_self_iff]
  rfl

end SqlDialects
