-- SUMMARY: Plain data can be compared with everything that holds no signaling NaN, and looking for it among candidates finds what matches.
import SqlDialects.Validator
import SqlDialects.Value.Parts

/-!
# Comparing plain data

A comparison stops at a signaling NaN and gives an answer otherwise. Scalars, and lists
and tuples of them, can therefore be compared with every candidate in which no signaling
NaN stands, and a candidate that matches is found wherever it stands among the others.
-/

namespace SqlDialects

/-! ## Plain data -/

theorem everyPartOf_iff {calls : Bool} {p : Value → Bool} {vs : List Value} :
    everyPartOf calls p vs = true ↔ ∀ v ∈ vs, v.everyPart calls p = true := by
  induction vs with
  | nil => exact iff_of_true rfl (List.forall_mem_nil _)
  | cons v vs ih => rw [everyPartOf, Bool.and_eq_true_iff, ih, List.forall_mem_cons]

/-- A value that is no signaling NaN. -/
def Value.isQuietPart : Value → Bool
  | .scalar s => !s.isSignaling
  | _ => true

/-- No signaling NaN stands in a value. -/
def Value.isQuiet (v : Value) : Bool := v.everyPart false isQuietPart

/-- A scalar that is no signaling NaN, or a sequence. -/
def Value.isDataPart : Value → Bool
  | .scalar s => !s.isSignaling
  | .list _ => true
  | .tuple _ => true
  | _ => false

/-- A scalar, or a list or tuple of plain data, without a signaling NaN. -/
def Value.isData (v : Value) : Bool := v.everyPart false isDataPart

/-- Plain data, as it is or inside a literal. -/
def Value.isKnownData (v : Value) : Bool := v.isStatic && v.staticValue.isData

theorem Value.isStatic_of_isData {v : Value} (h : v.isData = true) :
    v.isStatic = true ∧ v.staticValue = v := by
  cases v with
  | sql e => simp [isData, isDataPart, everyPart] at h
  | _ => exact ⟨rfl, rfl⟩

theorem Value.isKnownData_of_isData {v : Value} (h : v.isData = true) : v.isKnownData = true := by
  obtain ⟨hstatic, hvalue⟩ := isStatic_of_isData h
  rw [isKnownData, hstatic, hvalue, h]
  rfl

/-! ## Comparing plain data -/

/-- A value can be compared with everything in which no signaling NaN stands. -/
def Value.Compares (v : Value) : Prop := ∀ c : Value, c.isQuiet = true → ∃ b, v.same c = .ok b

theorem exists_both {first second : Except Error Bool} (hfirst : ∃ a, first = .ok a)
    (hsecond : ∃ b, second = .ok b) : ∃ b, both first second = .ok b := by
  obtain ⟨a, rfl⟩ := hfirst
  obtain ⟨b, rfl⟩ := hsecond
  exact ⟨_, both_ok a b⟩

theorem exists_sameValues {vs ws : List Value} (hvs : ∀ v ∈ vs, v.Compares)
    (hws : ∀ w ∈ ws, w.isQuiet = true) : ∃ b, sameValues vs ws = .ok b := by
  induction vs generalizing ws with
  | nil => cases ws <;> exact ⟨_, rfl⟩
  | cons v vs ih =>
    cases ws with
    | nil => exact ⟨_, rfl⟩
    | cons w ws =>
      obtain ⟨hv, hvs⟩ := List.forall_mem_cons.1 hvs
      obtain ⟨hw, hws⟩ := List.forall_mem_cons.1 hws
      exact exists_both (hv w hw) (ih hvs hws)

theorem Value.isQuiet_tuple {vs : List Value} :
    (Value.tuple vs).isQuiet = true ↔ ∀ v ∈ vs, v.isQuiet = true := everyPartOf_iff

theorem Value.isQuiet_list {vs : List Value} :
    (Value.list vs).isQuiet = true ↔ ∀ v ∈ vs, v.isQuiet = true := everyPartOf_iff

theorem Value.compares_tuple {vs : List Value} (h : ∀ v ∈ vs, v.Compares) :
    (Value.tuple vs).Compares := by
  intro c hc
  cases c with
  | tuple ws => exact exists_sameValues h (isQuiet_tuple.1 hc)
  | _ => exact ⟨_, rfl⟩

theorem Value.compares_list {vs : List Value} (h : ∀ v ∈ vs, v.Compares) :
    (Value.list vs).Compares := by
  intro c hc
  cases c with
  | list ws =>
    rw [same]
    split
    · exact exists_sameValues h (isQuiet_list.1 hc)
    · exact ⟨_, rfl⟩
  | _ => exact ⟨_, rfl⟩

theorem Scalar.sameChecked_of_not_isSignaling {s t : Scalar} (hs : s.isSignaling = false)
    (ht : t.isSignaling = false) : s.sameChecked t = .ok (s.same t) := by
  simp [sameChecked, isRefused, hs, ht]

theorem Value.compares_scalar {s : Scalar} (h : s.isSignaling = false) :
    (Value.scalar s).Compares := by
  intro c hc
  cases c with
  | scalar t =>
    have ht : t.isSignaling = false := by simpa [isQuiet, isQuietPart, everyPart] using hc
    exact ⟨_, Scalar.sameChecked_of_not_isSignaling h ht⟩
  | _ => exact ⟨_, rfl⟩

/-- A literal is compared by the value inside it. -/
theorem Value.compares_literal {v : Value} (h : v.Compares) :
    (Value.sql (.literal v)).Compares := by
  intro c hc
  cases c with
  | sql e =>
    cases e with
    | literal w => exact h w hc
    | _ => exact ⟨_, rfl⟩
  | _ => exact ⟨_, rfl⟩

mutual

theorem Value.compares_of_isData : ∀ {v : Value}, v.isData = true → v.Compares
  | .scalar _, h => Value.compares_scalar (Bool.not_eq_true' _ ▸ h)
  | .list _, h => Value.compares_list (allCompare_of_allData h)
  | .tuple _, h => Value.compares_tuple (allCompare_of_allData h)

theorem allCompare_of_allData : ∀ {vs : List Value}, everyPartOf false Value.isDataPart vs = true →
    ∀ v ∈ vs, v.Compares
  | [], _ => List.forall_mem_nil _
  | _ :: _, h =>
    have hboth := Bool.and_eq_true_iff.1 h
    List.forall_mem_cons.2 ⟨Value.compares_of_isData hboth.1, allCompare_of_allData hboth.2⟩

end

/-- Plain data inside a literal is compared as it is outside. -/
theorem Value.compares_of_isKnownData {v : Value} (h : v.isKnownData = true) : v.Compares := by
  obtain ⟨hstatic, hdata⟩ := Bool.and_eq_true_iff.1 h
  cases v with
  | sql e =>
    cases e with
    | literal w => exact compares_literal (compares_of_isData hdata)
    | _ => cases hstatic
  | _ => exact compares_of_isData hdata

/-! ## Looking through candidates -/

section

variable {found : Value → Except Error Bool} {values : List Value}

theorem anyOf_eq_false (h : ∀ v ∈ values, found v = .ok false) :
    anyOf found values = .ok false := by
  induction values with
  | nil => rfl
  | cons v rest ih =>
    obtain ⟨hv, hrest⟩ := List.forall_mem_cons.1 h
    rw [anyOf, hv]
    exact ih hrest

/-- When every candidate can be compared, one that matches is found. -/
theorem anyOf_eq_true (hall : ∀ v ∈ values, ∃ b, found v = .ok b) {v : Value} (hv : v ∈ values)
    (h : found v = .ok true) : anyOf found values = .ok true := by
  induction values with
  | nil => cases hv
  | cons first rest ih =>
    obtain ⟨⟨b, hb⟩, hrest⟩ := List.forall_mem_cons.1 hall
    rw [anyOf, hb]
    cases b with
    | true => rfl
    | false =>
      rcases List.mem_cons.1 hv with rfl | hv
      · rw [h] at hb
        cases hb
      · exact ih hrest hv

end

/-- What can be compared is compared with every candidate; a truth value is only looked at. -/
theorem Validator.exists_matchesCandidate {c : Value} (hv : v.Compares) (hc : c.isQuiet = true) :
    ∃ b, matchesCandidate v c = .ok b := by
  unfold matchesCandidate
  split
  · exact ⟨_, rfl⟩
  · exact ⟨_, rfl⟩
  · exact ⟨_, rfl⟩
  · exact hv c hc

end SqlDialects
