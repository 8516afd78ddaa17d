-- SUMMARY: What a host tree of values that have literals translates to has a text, exactly when the lengths of substrings in it are short enough.
import SqlDialects.Proofs.Traced
import SqlDialects.Proofs.Writing.Slots

/-!
# Translations that render

A host tree is proper when every plain value in it has a literal with every backend,
sequences stand in membership tests only, and marks on patterns only. Whatever it
translates to renders, in every context and over every window of such keys. The length
of a substring is the one number that translation computes of two others, and it can
have a digit more than both of them.
-/

namespace SqlDialects

/-! ## Proper trees -/

/-- A scalar that has a literal with every backend. -/
def Scalar.isWritable : Scalar → Bool
  | .null => true
  | .bool _ => true
  | .number (.whole n) => isShort n
  | .number (.double x) => x.isFinite
  | .text s => !s.toList.contains (Char.ofNat 0)
  | .date _ => true
  | .time _ => true
  | .moment _ _ => true
  | _ => false

mutual

/-- A tree of columns and calls whose plain values can be written, with a sequence only
    as the items of a membership test and a mark only on a pattern. -/
def Value.isProper : Slot → Value → Bool
  | _, .scalar s => s.isWritable
  | _, .column .. => true
  | _, .call name args named => argumentsAreProper name 0 args && namedAreProper name named
  | .items, .list items => allProper items
  | .items, .tuple items => allProper items
  | .pattern, .fixed pattern => pattern.isProper .operand
  | _, _ => false

/-- The positional arguments of a function from a position on are proper. -/
def argumentsAreProper (function : String) : Nat → List Value → Bool
  | _, [] => true
  | i, v :: vs => v.isProper (.ofPosition function i) && argumentsAreProper function (i + 1) vs

def namedAreProper (function : String) : List (String × Value) → Bool
  | [] => true
  | (name, v) :: rest => v.isProper (.ofParameter function name) && namedAreProper function rest

def allProper : List Value → Bool
  | [] => true
  | v :: vs => v.isProper .operand && allProper vs

end

theorem namedAreProper_iff {function : String} {named : List (String × Value)} :
    namedAreProper function named = true ↔
      ∀ n ∈ named, n.2.isProper (.ofParameter function n.1) = true := by
  induction named with
  | nil => simp [namedAreProper]
  | cons n rest ih => simp [namedAreProper, ih]

theorem argumentsAreProper_iff {function : String} {i : Nat} {vs : List Value} :
    argumentsAreProper function i vs = true ↔
      ∀ (k : Nat) (v : Value), vs[k]? = some v →
        v.isProper (.ofPosition function (i + k)) = true := by
  induction vs generalizing i with
  | nil => simp [argumentsAreProper]
  | cons v vs ih =>
    rw [argumentsAreProper, Bool.and_eq_true, ih]
    constructor
    · rintro ⟨hv, hvs⟩ k u hu
      cases k with
      | zero =>
        cases hu
        exact hv
      | succ k =>
        rw [Nat.add_comm k 1, ← Nat.add_assoc]
        exact hvs k u hu
    · intro h
      refine ⟨h 0 v rfl, fun k u hu => ?_⟩
      rw [Nat.add_assoc, Nat.add_comm 1 k]
      exact h (k + 1) u hu

theorem allProper_iff {vs : List Value} :
    allProper vs = true ↔ ∀ v ∈ vs, v.isProper .operand = true := by
  induction vs with
  | nil => simp [allProper]
  | cons v vs ih => simp [allProper, ih]

namespace Value

variable {slot : Slot} {items : List Value} {pattern : Value}

theorem isProper_list_iff :
    (list items).isProper slot = true ↔ slot = .items ∧ allProper items = true := by
  cases slot <;> simp [isProper]

theorem isProper_tuple_iff :
    (tuple items).isProper slot = true ↔ slot = .items ∧ allProper items = true := by
  cases slot <;> simp [isProper]

theorem isProper_fixed_iff :
    (fixed pattern).isProper slot = true ↔ slot = .pattern ∧ pattern.isProper .operand = true := by
  cases slot <;> simp [isProper]

end Value

theorem Scalar.renders_of_isWritable {d : Dialect} {s : Scalar} (h : s.isWritable = true) :
    (Value.scalar s).Renders d := by
  unfold isWritable at h
  split at h
  · exact Value.renders_null
  · exact Value.renders_bool _
  · exact Value.renders_whole (isShort_iff.1 h)
  · exact Value.renders_double h
  · exact Value.renders_text (by simpa [NulFree] using h)
  · exact Value.renders_scalar ⟨_, rfl⟩
  · exact Value.renders_scalar ⟨_, rfl⟩
  · exact Value.renders_scalar ⟨_, rfl⟩
  · cases h

/-! ## Arguments -/

namespace Translator

variable {t : Translator} {c : Context} {w : Window}

/-- A proper argument fits its slot when it is translated. -/
theorem fits_argument (hs : (t.setting c w).Renders t.dialect) {slot : Slot} {v v' : Value}
    (hv : v.isProper slot = true) (h : (t.argument c w v).outcome = .ok v') :
    slot.Fits t.dialect v' := by
  induction v using Value.tree_induction generalizing slot v' with
  | scalar s =>
    cases h
    exact Slot.fits_of_renders (Scalar.renders_of_isWritable (by rwa [Value.isProper] at hv))
  | column name table =>
    cases h
    exact Slot.fits_of_renders (Expr.renders_ident name table)
  | call name args named ihargs ihnamed =>
    simp only [Value.isProper, Bool.and_eq_true, argumentsAreProper_iff, namedAreProper_iff,
      Nat.zero_add] at hv
    simp only [argument_call, Traced.outcome_bind_eq_ok_iff, outcome_resolve] at h
    obtain ⟨rule, hrule, args', hargs, named', hnamed, e, he, h⟩ := h
    cases h
    refine Slot.fits_of_renders (Backend.renders_of_build hrule hs (fun i v' hv' => ?_)
      (fun n hn => ?_) he)
    · obtain ⟨v, hget, hargument⟩ := exists_of_getElem?_arguments hargs hv'
      exact ihargs v (List.mem_of_getElem? hget) (hv.1 i v hget) hargument
    · obtain ⟨v, hmem, hargument⟩ := exists_of_mem_namedArguments hnamed hn
      have hwritten := NameTable.mem_of_mem_ofList hmem
      exact ihnamed _ hwritten (hv.2 _ hwritten) hargument
  | list items ih =>
    obtain ⟨rfl, hv⟩ := Value.isProper_list_iff.1 hv
    simp only [argument, Traced.outcome_bind_eq_ok_iff] at h
    obtain ⟨items', hitems, h⟩ := h
    cases h
    refine .inr ⟨items', rfl, fun v' hv' => ?_⟩
    obtain ⟨v, hmem, hargument⟩ := exists_of_mem_arguments hitems hv'
    exact ih v hmem (allProper_iff.1 hv v hmem) hargument
  | tuple items ih =>
    obtain ⟨rfl, hv⟩ := Value.isProper_tuple_iff.1 hv
    simp only [argument, Traced.outcome_bind_eq_ok_iff] at h
    obtain ⟨items', hitems, h⟩ := h
    cases h
    refine .inr ⟨items', rfl, fun v' hv' => ?_⟩
    obtain ⟨v, hmem, hargument⟩ := exists_of_mem_arguments hitems hv'
    exact ih v hmem (allProper_iff.1 hv v hmem) hargument
  | fixed pattern ih =>
    obtain ⟨rfl, hv⟩ := Value.isProper_fixed_iff.1 hv
    simp only [argument, Traced.outcome_bind_eq_ok_iff] at h
    obtain ⟨pattern', hpattern, h⟩ := h
    cases h
    have hfits : Slot.operand.Fits t.dialect pattern' := ih hv hpattern
    exact hfits
  | sql => cases slot <;> cases hv
  | window => cases slot <;> cases hv

/-! ## Expressions -/

/-- Any number from one to seven can be the first day of a week. -/
theorem renders_setting (hw : w.Renders t.dialect) {n : Int}
    (hweek : t.options.weekStart = .whole n)
    (hn : 1 ≤ n ∧ n ≤ 7) : (t.setting c w).Renders t.dialect := by
  refine ⟨hw, fun v hv => ?_⟩
  rw [setting, hweek] at hv
  exact Postgres.renders_daysShort hn hv

/-- What a proper tree translates to renders. -/
theorem renders_of_translate {c : Except Error Context} {v : Value} {e : Expr}
    (hw : w.Renders t.dialect) {n : Int} (hweek : t.options.weekStart = .whole n)
    (hn : 1 ≤ n ∧ n ≤ 7) (hv : v.isProper .operand = true)
    (h : (t.translate c w v).outcome = .ok e) : e.Renders t.dialect := by
  cases v with
  | call name args named =>
    cases c with
    | error => cases h
    | ok c =>
      exact fits_argument (renders_setting hw hweek hn) hv (translate_call_eq_ok_iff.1 h)
  | column name table =>
    cases h
    exact Expr.renders_ident name table
  | scalar s =>
    cases h
    exact Scalar.renders_of_isWritable (by rwa [Value.isProper] at hv)
  | list items => cases hv
  | tuple items => cases hv
  | fixed pattern => cases hv
  | sql e => cases hv
  | window w => cases hv

/-! ## Windows -/

theorem renders_windowKey {k : Value} {e : Expr} {n : Int}
    (hweek : t.options.weekStart = .whole n) (hn : 1 ≤ n ∧ n ≤ 7) (hk : k.isProper .operand = true)
    (h : (t.windowKey k).outcome = .ok e) : e.Renders t.dialect := by
  have hnone : Window.Renders t.dialect {} :=
    Window.renders_unframed (List.forall_mem_nil _) (List.forall_mem_nil _)
  unfold windowKey at h
  split at h
  · cases h
    exact Expr.renders_ident _ _
  · exact renders_of_translate hnone hweek hn hk h

theorem renders_windowKeys {ks : List Value} {es : List Expr} {n : Int}
    (hweek : t.options.weekStart = .whole n) (hn : 1 ≤ n ∧ n ≤ 7)
    (hks : ∀ k ∈ ks, k.isProper .operand = true) (h : (t.windowKeys ks).outcome = .ok es) :
    ∀ e ∈ es, e.Renders t.dialect := by
  induction ks generalizing es with
  | nil =>
    cases h
    exact List.forall_mem_nil _
  | cons k ks ih =>
    simp only [windowKeys, Traced.outcome_bind_eq_ok_iff] at h
    obtain ⟨e, he, rest, hrest, h⟩ := h
    cases h
    obtain ⟨hk, hks⟩ := List.forall_mem_cons.1 hks
    exact List.forall_mem_cons.2 ⟨renders_windowKey hweek hn hk he, ih hks hrest⟩

theorem renders_window {partitionBy orderBy : List Value} {frame : Option (List Value)}
    {name : Option String} {n : Int} (hweek : t.options.weekStart = .whole n) (hn : 1 ≤ n ∧ n ≤ 7)
    (hkeys : ∀ k ∈ partitionBy ++ orderBy, k.isProper .operand = true)
    (hframe : IsFrame IsWritable frame)
    (h : (t.window partitionBy orderBy frame name).outcome = .ok w) : w.Renders t.dialect := by
  simp only [window, Traced.outcome_bind_eq_ok_iff] at h
  obtain ⟨partition, hpartition, order, horder, h⟩ := h
  cases h
  obtain ⟨hpartitionBy, horderBy⟩ := List.forall_mem_append.1 hkeys
  exact ⟨renders_windowKeys hweek hn hpartitionBy hpartition,
    renders_windowKeys hweek hn horderBy horder, exists_frame hframe⟩

/-- With every backend, in every context and over every window of such keys, what a
    proper tree translates to has a text, exactly when all lengths of substrings that
    are written in it are short. -/
theorem exists_render_iff {c : Except Error Context} {partitionBy orderBy : List Value}
    {frame : Option (List Value)} {name : Option String} {v : Value} {e : Expr} {n : Int}
    (hweek : t.options.weekStart = .whole n) (hn : 1 ≤ n ∧ n ≤ 7)
    (hkeys : ∀ k ∈ partitionBy ++ orderBy, k.isProper .operand = true)
    (hframe : IsFrame IsWritable frame)
    (hw : (t.window partitionBy orderBy frame name).outcome = .ok w)
    (hv : v.isProper .operand = true) (he : (t.translate c w v).outcome = .ok e) :
    (∃ s, e.render t.dialect = .ok s) ↔ e.hasShortLengths t.dialect = true := by
  constructor
  · rintro ⟨s, hs⟩
    exact Expr.hasShortLengths_of_render hs
  · exact renders_of_translate (renders_window hweek hn hkeys hframe hw) hweek hn hv he

/-- The largest text of three characters from a column among those with a prefix. -/
def prefixedMaximum : Value :=
  .call "max"
    [.call "ifelse"
      [.call "str_starts" [.column "s" none, .fixed (.text "100%")] [],
       .call "substr" [.column "s" none, .whole 1, .whole 3] [], .null] []] []

theorem exists_render_prefixedMaximum :
    prefixedMaximum.isProper .operand = true ∧ ∃ w e,
      (window ⟨.standard .postgres, {}⟩ [.text "g"] [] none none).outcome = .ok w ∧
        (translate ⟨.standard .postgres, {}⟩ (.ok .window) w prefixedMaximum).outcome = .ok e ∧
          ∃ s, e.render (.standard .postgres) = .ok s := by
  have hproper : prefixedMaximum.isProper .operand = true := by decide +kernel
  have hw : (window ⟨.standard .postgres, {}⟩ [.text "g"] [] none none).outcome =
      .ok { partitionBy := [.ident "g" none] } := rfl
  have he : (translate ⟨.standard .postgres, {}⟩ (.ok .window) { partitionBy := [.ident "g" none] }
      prefixedMaximum).outcome = .ok (.over
        (.call "MAX" [.caseWhen
          [(.binary "LIKE" (.ident "s" none) (.literal (.text "100\\%%")),
            .call "SUBSTR" [.ident "s" none, .literal (.whole 1), .literal (.whole 3)] false)]
          (some (.literal .null))] false)
        { partitionBy := [.ident "g" none] }) := rfl
  exact ⟨hproper, _, _, hw, he,
    (exists_render_iff rfl (by decide) (by decide) .none hw hproper he).2 (by decide +kernel)⟩

/-! ## Long substrings -/

/-- A call of `substr` from one position to another. -/
def span (start stop : Int) : Value :=
  .call "substr" [.column "x" none, .whole start, .whole stop] []

theorem translate_span (c : Context) (w : Window) (start stop : Int) :
    (t.translate (.ok c) w (span start stop)).outcome =
      .ok (.call "SUBSTR" [.ident "x" none, .literal (.whole start),
        .literal (.whole (max (stop - start + 1) 0))] false) := by
  obtain ⟨⟨backend, _, _, _⟩, _⟩ := t
  cases backend <;> cases c <;> rfl

theorem isProper_span {start stop : Int} (hstart : IsWritable start) (hstop : IsWritable stop) :
    (span start stop).isProper .operand = true := by
  simp [span, Value.isProper, argumentsAreProper, namedAreProper, Value.whole, Scalar.isWritable,
    isShort_iff.2 hstart, isShort_iff.2 hstop]

theorem render_length_of_not_isWritable {d : Dialect} {start length : Int}
    (hstart : IsWritable start) (hlength : ¬IsWritable length) :
    (Expr.call "SUBSTR" [.ident "x" none, .literal (.whole start), .literal (.whole length)]
      false).render d = .error (.lapse .tooManyDigits) := by
  have hwritten : wholeText start = .ok (toString start) := wholeText_eq_ok_iff.2 ⟨hstart, rfl⟩
  have hrefused : wholeText length = .error (.lapse .tooManyDigits) := by
    rw [wholeText]
    exact if_neg hlength
  simp only [Expr.render, renderAll, Backend.literal, Backend.scalarLiteral,
    Backend.numberLiteral, hwritten, hrefused]
  rfl

/-- The largest number that can be written. -/
def largest : Int := Nat.pow 10 wholeDigitLimit - 1

theorem isWritable_largest : IsWritable largest := by
  have hpositive (k : Nat) : 0 < Nat.pow 10 k := Nat.pow_pos (by decide)
  have hlimit := hpositive wholeDigitLimit
  unfold IsWritable largest
  omega

/-- From the position zero up to it there is one character more. -/
theorem not_isWritable_length_largest : ¬IsWritable (max (largest - 0 + 1) 0) := by
  unfold IsWritable largest
  omega

theorem not_render_span_largest :
    (span 0 largest).isProper .operand = true ∧
      ∃ e, (translate ⟨.standard .postgres, {}⟩ (.ok .scalar) {} (span 0 largest)).outcome = .ok e ∧
        e.render (.standard .postgres) = .error (.lapse .tooManyDigits) :=
  ⟨isProper_span (isWritable_of_lt_ten (by decide)) isWritable_largest, _,
    translate_span .scalar {} 0 largest, render_length_of_not_isWritable
      (isWritable_of_lt_ten (by decide)) not_isWritable_length_largest⟩

end Translator

end SqlDialects
