-- SUMMARY: A text that is one line stays as it is when it is indented, and so do the names in it.
import SqlDialects.Proofs.Layout.Indentation
import SqlDialects.Proofs.Lexing.Identifier

/-!
# Texts of one line

A text is one line when no line ends in it. Such texts put together are one line, and
so is a written name where the name is. In an indented text they stand as they are,
and only the line feeds between them have blanks behind them.
-/

namespace SqlDialects

namespace Text

variable {s t : String}

/-- No line ends in a text. -/
def IsOneLine (s : String) : Prop := ∀ c ∈ s.toList, isLineEnd c = false

instance (s : String) : Decidable (IsOneLine s) :=
  decidable_of_iff (s.toList.all fun c => !isLineEnd c) (by simp [IsOneLine])

theorem isOneLine_append_iff : IsOneLine (s ++ t) ↔ IsOneLine s ∧ IsOneLine t := by
  rw [IsOneLine, String.toList_append]
  exact List.forall_mem_append

theorem IsOneLine.append (hs : IsOneLine s) (ht : IsOneLine t) : IsOneLine (s ++ t) :=
  isOneLine_append_iff.2 ⟨hs, ht⟩

theorem IsOneLine.intercalate {separator : String} (hsep : IsOneLine separator)
    {texts : List String} (h : ∀ s ∈ texts, IsOneLine s) :
    IsOneLine (separator.intercalate texts) := by
  induction texts with
  | nil => exact fun c hc => absurd hc (by simp)
  | cons text texts ih =>
    obtain ⟨htext, htexts⟩ := List.forall_mem_cons.1 h
    cases texts with
    | nil => simpa using htext
    | cons next texts =>
      rw [String.intercalate_cons_cons]
      exact (htext.append hsep).append (ih htexts)

/-! ## Indentation -/

/-- In front of any other text, a line is hung on its own. -/
theorem IsOneLine.hung_append (h : IsOneLine s) (cs : List Char) :
    hung (s.toList ++ cs) = s.toList ++ hung cs := by
  have hreturn : s.toList.getLast? ≠ some '\r' := fun hlast =>
    absurd (h _ (List.mem_of_getLast? hlast)) (by decide)
  rw [Text.hung_append fun hlast => absurd hlast hreturn, (hung_eq_self_iff _).2 h]

theorem hung_lineFeed (cs : List Char) : hung ('\n' :: cs) = '\n' :: ' ' :: ' ' :: hung cs :=
  hung_lineEnd (by decide) fun h => absurd h (by decide)

end Text

/-! ## Names -/

theorem mem_of_mem_doubled {quote c : Char} {cs : List Char} (h : c ∈ doubled quote cs) :
    c ∈ cs := by
  induction cs with
  | nil => exact h
  | cons d cs ih =>
    rw [doubled] at h
    split at h
    · simp only [List.mem_cons] at h ⊢
      rcases h with h | h | h
      · exact .inl h
      · exact .inl h
      · exact .inr (ih h)
    · exact (List.mem_cons.1 h).elim (fun h => h ▸ List.mem_cons_self) fun h =>
        List.mem_cons_of_mem d (ih h)

namespace Identifier

theorem not_endsInLineFeed_of_isOneLine {name : String} (h : Text.IsOneLine name) :
    ¬ EndsInLineFeed name := by
  rintro ⟨_, hlast⟩
  exact absurd (h _ (List.mem_of_getLast? hlast)) (by decide)

theorem isOneLine_escaped {name : String} (h : Text.IsOneLine name) :
    Text.IsOneLine (escaped name) := by
  rw [escaped]
  split
  · exact h
  · intro c hc
    rw [quoted, String.toList_ofList] at hc
    simp only [List.cons_append, List.mem_cons, List.mem_append, List.not_mem_nil, or_false] at hc
    rcases hc with rfl | hc | rfl
    · decide
    · exact h c (mem_of_mem_doubled hc)
    · decide

end Identifier

end SqlDialects
