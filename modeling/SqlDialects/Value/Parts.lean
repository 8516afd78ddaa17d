-- SUMMARY: What a value holds: its items, its parts, and what can be asked of it as a text.
import SqlDialects.Error

/-!
# Parts of values

A value that holds items can be gone through item by item, a text by its
characters. Asked for its text, a value may be none, or have a number in it that is
too long to be written.

A column or a call compares with anything by building a condition, which counts
as true: asked whether it is some text, it is.
-/

namespace SqlDialects

-- ---------------------------------------------------------------------------
-- Items
-- ---------------------------------------------------------------------------

/-- The characters of a text, each a text of its own. -/
def characters (s : String) : List String := s.toList.map String.singleton

/-- The items a value holds: a text holds its characters and bytes their numbers. -/
def Value.items : Value → Except Error (List Value)
  | .list items => .ok items
  | .tuple items => .ok items
  | .scalar (.text s) => .ok ((characters s).map .text)
  | .scalar (.bytes bs) => .ok (bs.map fun b => .whole b.toNat)
  | _ => .error (.lapse .notIterable)

-- ---------------------------------------------------------------------------
-- Texts
-- ---------------------------------------------------------------------------

/-- The text that a value is. -/
def Value.asText : Value → Except Error String
  | .scalar (.text s) => .ok s
  | _ => .error (.lapse .argumentShape)

@[simp] theorem Value.asText_text (s : String) : (Value.text s).asText = .ok s := rfl

/-- The text in which something can be replaced. Bytes and calendar values can have
    something replaced too, but not a text; other values lack the operation. -/
def Value.asReplaceable : Value → Except Error String
  | .scalar (.text s) => .ok s
  | .scalar (.bytes _) => .error (.lapse .argumentShape)
  | .scalar (.date _) => .error (.lapse .argumentShape)
  | .scalar (.time _) => .error (.lapse .argumentShape)
  | .scalar (.moment ..) => .error (.lapse .argumentShape)
  | _ => .error (.lapse .noSuchPart)

/-- A value that can be shown. -/
def Value.shown (v : Value) : Except Error Value :=
  if v.isShowable then .ok v else .error (.lapse .tooManyDigits)

/-- The bare text of a value, if it has one. -/
def Value.asBareText (v : Value) : Except Error String := do
  return (← v.shown).bareText

theorem Value.asBareText_of_isShowable {v : Value} (h : v.isShowable = true) :
    v.asBareText = .ok v.bareText := by
  rw [asBareText, shown, h]
  rfl

theorem Value.asBareText_of_not_isShowable {v : Value} (h : v.isShowable = false) :
    v.asBareText = .error (.lapse .tooManyDigits) := by
  rw [asBareText, shown, h]
  rfl

/-- A value has its bare text or none. -/
theorem Value.asBareText_cases (v : Value) :
    v.asBareText = .ok v.bareText ∨ v.asBareText = .error (.lapse .tooManyDigits) := by
  cases h : v.isShowable with
  | true => exact .inl (asBareText_of_isShowable h)
  | false => exact .inr (asBareText_of_not_isShowable h)

theorem Value.error_of_asBareText {α : Type} {v : Value} {f : String → α} {e : Error}
    (h : (do return f (← v.asBareText)) = .error e) : e = .lapse .tooManyDigits := by
  rcases v.asBareText_cases with htext | htext
  · rw [htext] at h
    cases h
  · rw [htext] at h
    cases h
    rfl

theorem Value.eq_bareText_of_asBareText {v : Value} {s : String} (h : v.asBareText = .ok s) :
    s = v.bareText := by
  rcases v.asBareText_cases with htext | htext
  · exact Except.ok.inj (h.symm.trans htext)
  · cases h.symm.trans htext

/-- A value is found equal to a text. -/
def Value.equalsText (v : Value) (s : String) : Bool :=
  match v with
  | .scalar (.text t) => t == s
  | v => v.isHost

@[simp] theorem Value.equalsText_text (s t : String) :
    (Value.text s).equalsText t = (s == t) := rfl

-- ---------------------------------------------------------------------------
-- Host trees
-- ---------------------------------------------------------------------------

/-- What holds of a value when it holds of all that the value holds, holds of every value.
    The arguments of a call are gone into, and built SQL is not. -/
@[elab_as_elim]
theorem Value.tree_induction {motive : Value → Prop} (scalar : ∀ s, motive (.scalar s))
    (list : ∀ items, (∀ v ∈ items, motive v) → motive (.list items))
    (tuple : ∀ items, (∀ v ∈ items, motive v) → motive (.tuple items))
    (column : ∀ name table, motive (.column name table))
    (call : ∀ name args named, (∀ v ∈ args, motive v) → (∀ n ∈ named, motive n.2) →
      motive (.call name args named))
    (fixed : ∀ pattern, motive pattern → motive (.fixed pattern)) (sql : ∀ e, motive (.sql e))
    (window : ∀ w, motive (.window w)) (v : Value) : motive v := by
  have smaller (u : Value) (_ : sizeOf u < sizeOf v) : motive u :=
    tree_induction scalar list tuple column call fixed sql window u
  have ofItem {items : List Value} (hitems : sizeOf items < sizeOf v) (u : Value) (hu : u ∈ items) :
      motive u := smaller u (Nat.lt_trans (List.sizeOf_lt_of_mem hu) hitems)
  cases v with
  | scalar s => exact scalar s
  | list items => exact list items (ofItem (by simp))
  | tuple items => exact tuple items (ofItem (by simp))
  | column name table => exact column name table
  | call name args named =>
    refine call name args named (ofItem (by simp; omega)) fun n hn => smaller n.2 ?_
    obtain ⟨_, v⟩ := n
    have hentry := List.sizeOf_lt_of_mem hn
    simp only [Prod.mk.sizeOf_spec, Value.call.sizeOf_spec] at hentry ⊢
    omega
  | fixed pattern => exact fixed pattern (smaller pattern (by simp))
  | sql e => exact sql e
  | window w => exact window w
termination_by sizeOf v

-- ---------------------------------------------------------------------------
-- Keys
-- ---------------------------------------------------------------------------

/-- No list is a key and no signaling NaN is one, whatever they stand in. -/
def Value.isKey (v : Value) : Bool :=
  v.everyPart false fun
    | .list _ => false
    | .scalar s => !s.isSignaling
    | _ => true

/-- A value without columns and calls. -/
def Value.isPlain (v : Value) : Bool := v.everyPart false fun part => !part.isHost

end SqlDialects
