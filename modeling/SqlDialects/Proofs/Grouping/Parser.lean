-- SUMMARY: Parsing by operator precedence, and what it accepts: exactly the lexemes of grouped trees.
import Mathlib
import SqlDialects.Proofs.Grouping.Syntax

/-!
# Parsing by precedence

The parser shifts and reduces. Its stack holds what waits for an operand: an
operator with its left operand, an operator in front, an open parenthesis, an open
list. Before an operator is shifted, everything on the stack that binds tighter
takes the operand read last. A minus in front of a number belongs to the number.

A tree is what the parser makes of some lexemes exactly when it is grouped and
they are its yield. So there is at most one grouped tree for any lexemes.
-/

namespace SqlDialects.Grouping

/-- What waits for an operand. -/
inductive Frame where
  | binary (left : Tree) (op : Operator)
  | neg
  | not
  | paren
  /-- A list without items yet, behind what is sought in it. -/
  | opened (x : Tree)
  | listed (x first : Tree) (rest : List Tree)

namespace Frame

/-- How tightly a frame holds on to its operand; a parenthesis lets nothing in. -/
def level : Frame → Nat
  | binary _ op => op.level
  | neg => 9
  | not => 3
  | _ => 0

/-- A frame with its operand. -/
def apply : Frame → Tree → Tree
  | binary left op, x => .binary op left x
  | neg, x => .neg x
  | not, x => .not x
  | _, x => x

end Frame

/-- The level of the topmost frame. -/
def topLevel : List Frame → Nat
  | [] => 0
  | f :: _ => f.level

/-- Give the operand to every frame on top that binds at least as tightly as asked. -/
def reduce (bound : Nat) : List Frame → Tree → List Frame × Tree
  | [], x => ([], x)
  | f :: fs, x => if bound ≤ f.level then reduce bound fs (f.apply x) else (f :: fs, x)

mutual

/-- Read on where an operand is due. -/
def operand : List Frame → List Lexeme → Option Tree
  | fs, .name table :: .dot :: .name name :: w => operator fs (.column name (some table)) w
  | fs, .name name :: w => operator fs (.column name none) w
  | fs, .number n :: w => operator fs (.whole n) w
  | fs, .truth b :: w => operator fs (.truth b) w
  -- the only sign that is no operator
  | fs, .op .sub :: .number (n + 1) :: w => operator fs (.whole (.negSucc n)) w
  | fs, .op .sub :: w => operand (.neg :: fs) w
  | fs, .not :: w => operand (.not :: fs) w
  | fs, .opening :: w => operand (.paren :: fs) w
  | _, _ => none
termination_by structural _ w => w

/-- Read on behind an operand. -/
def operator : List Frame → Tree → List Lexeme → Option Tree
  | fs, x, [] =>
    match reduce 1 fs x with
    | ([], x) => some x
    | _ => none
  | fs, x, .op op :: w =>
    -- a comparison that is left on top refuses another one behind it
    match reduce op.leftBound fs x with
    | (fs, x) => if topLevel fs < op.level then operand (.binary x op :: fs) w else none
  | fs, x, .is :: .null :: w =>
    match reduce 5 fs x with
    | (fs, x) => operator fs (.isNull x) w
  | fs, x, .among :: .opening :: w =>
    match reduce 7 fs x with
    | (fs, x) => operand (.opened x :: fs) w
  | fs, x, .comma :: w =>
    match reduce 1 fs x with
    | (.opened y :: fs, x) => operand (.listed y x [] :: fs) w
    | (.listed y first rest :: fs, x) => operand (.listed y first (rest ++ [x]) :: fs) w
    | _ => none
  | fs, x, .closing :: w =>
    match reduce 1 fs x with
    | (.paren :: fs, x) => operator fs (.paren x) w
    | (.opened y :: fs, x) => operator fs (.among y x []) w
    | (.listed y first rest :: fs, x) => operator fs (.among y first (rest ++ [x])) w
    | _ => none
  | _, _, _ => none
termination_by structural _ _ w => w

end

/-- The tree of some lexemes. -/
def parse (w : List Lexeme) : Option Tree := operand [] w

/-! ## Stacks -/

open SqlDialects.Grouping.Tree (closedLevel yieldRest restGrouped leftLevel_pos rightLevel_pos)

namespace Frame

/-- The lexemes a frame was read from. -/
def yield : Frame → List Lexeme
  | binary left op => left.yield ++ [.op op]
  | neg => [.op .sub]
  | not => [.not]
  | paren => [.opening]
  | opened x => x.yield ++ [.among, .opening]
  | listed x first rest =>
    x.yield ++ .among :: .opening :: first.yield ++ yieldRest rest ++ [.comma]

/-- The level of the loosest operator to which a frame in front could lose its operand. -/
def leftLevel : Frame → Nat
  | binary left op => min op.level left.leftLevel
  | opened x => min 6 x.leftLevel
  | listed x _ _ => min 6 x.leftLevel
  | _ => closedLevel

/-- What a frame has read already is grouped. -/
def isGrouped : Frame → Bool
  | binary left op => op.leftBound ≤ left.rightLevel && left.isGrouped
  | opened x => 6 < x.rightLevel && x.isGrouped
  | listed x first rest =>
    6 < x.rightLevel && x.isGrouped && first.isGrouped && restGrouped rest
  | _ => true

theorem level_lt (f : Frame) : f.level < closedLevel := by
  cases f with
  | binary left op => have := op.level_lt; simp only [level, closedLevel]; omega
  | _ => simp [level, closedLevel]

/-- `IS NULL` and `IN` wait for no operand. -/
theorem level_ne (f : Frame) : f.level ≠ 4 ∧ f.level ≠ 6 := by
  cases f with
  | binary left op => exact op.level_ne
  | _ => simp [level]

end Frame

theorem topLevel_lt (fs : List Frame) : topLevel fs < closedLevel := by
  cases fs with
  | nil => decide
  | cons f fs => exact f.level_lt

def stackYield : List Frame → List Lexeme
  | [] => []
  | f :: fs => stackYield fs ++ f.yield

/-- Every frame is grouped and takes nothing from the one below it. -/
def StackGrouped : List Frame → Prop
  | [] => True
  | f :: fs => f.isGrouped = true ∧ topLevel fs < f.leftLevel ∧ StackGrouped fs

/-- The topmost frame can take an operand whole. -/
structure Fits (fs : List Frame) (x : Tree) : Prop where
  grouped : x.isGrouped = true
  level : topLevel fs < x.leftLevel
  sign : fs.head? = some .neg → x.isPositive = false

/-- What reducing keeps: the stack stays grouped, the operand stays whole and holds
    on to what it has, and nothing read is lost. -/
structure Reduced (bound : Nat) (fs : List Frame) (x : Tree) (w : List Lexeme) : Prop where
  stack : StackGrouped fs
  operand : Fits fs x
  right : bound ≤ x.rightLevel
  yield : stackYield fs ++ x.yield = w

/-- A frame that binds tightly enough makes a whole operand of the one it takes. -/
theorem Reduced.apply {bound : Nat} {f : Frame} {fs : List Frame} {x : Tree} {w : List Lexeme}
    (hbound : 1 ≤ bound) (hlevel : bound ≤ f.level) (h : Reduced bound (f :: fs) x w) :
    Reduced bound fs (f.apply x) w := by
  obtain ⟨⟨hf, hbelow, hfs⟩, ⟨hgrouped, hfits, hsign⟩, hright, hyield⟩ := h
  simp only [topLevel] at hfits
  cases f with
  | binary left op =>
    simp only [Frame.isGrouped, Bool.and_eq_true, decide_eq_true_eq] at hf
    simp only [Frame.level] at hlevel hfits
    refine ⟨hfs, ⟨?_, hbelow, fun _ => rfl⟩, ?_, ?_⟩
    · simp [Frame.apply, Tree.isGrouped, hf, hfits, hgrouped]
    · simp only [Frame.apply, Tree.rightLevel]
      omega
    · simpa [Frame.apply, Tree.yield, stackYield, Frame.yield] using hyield
  | neg =>
    have hpositive := hsign rfl
    simp only [Frame.level] at hlevel hfits
    refine ⟨hfs, ⟨?_, hbelow, fun _ => rfl⟩, ?_, ?_⟩
    · simp [Frame.apply, Tree.isGrouped, hfits, hpositive, hgrouped]
    · simp only [Frame.apply, Tree.rightLevel]
      omega
    · simpa [Frame.apply, Tree.yield, stackYield, Frame.yield] using hyield
  | not =>
    simp only [Frame.level] at hlevel hfits
    refine ⟨hfs, ⟨?_, hbelow, fun _ => rfl⟩, ?_, ?_⟩
    · simp [Frame.apply, Tree.isGrouped, hfits, hgrouped]
    · simp only [Frame.apply, Tree.rightLevel]
      omega
    · simpa [Frame.apply, Tree.yield, stackYield, Frame.yield] using hyield
  | paren => simp only [Frame.level] at hlevel; omega
  | opened y => simp only [Frame.level] at hlevel; omega
  | listed y first rest => simp only [Frame.level] at hlevel; omega

/-- Reducing stops at a frame that binds more loosely than asked. -/
theorem Reduced.reduce {bound : Nat} {fs fs' : List Frame} {x x' : Tree} {w : List Lexeme}
    (hbound : 1 ≤ bound) (h : Reduced bound fs x w) (heq : reduce bound fs x = (fs', x')) :
    Reduced bound fs' x' w ∧ topLevel fs' < bound := by
  -- every frame that goes makes a new operand, so the operand varies with the stack
  induction fs generalizing x with
  | nil =>
    cases heq
    exact ⟨h, hbound⟩
  | cons f fs ih =>
    rw [Grouping.reduce] at heq
    split at heq
    next hlevel => exact ih (h.apply hbound hlevel) heq
    next hlevel =>
      cases heq
      exact ⟨h, Nat.lt_of_not_le hlevel⟩

/-! ## What is parsed is grouped -/

theorem topLevel_ne (fs : List Frame) : topLevel fs ≠ 4 ∧ topLevel fs ≠ 6 := by
  cases fs with
  | nil => decide
  | cons f fs => exact f.level_ne

/-- An operand that nothing can take apart fits everywhere. -/
theorem Fits.of_closed {fs : List Frame} {x : Tree} (hgrouped : x.isGrouped = true)
    (hleft : x.leftLevel = closedLevel) (hpositive : x.isPositive = false) : Fits fs x :=
  ⟨hgrouped, by rw [hleft]; exact topLevel_lt fs, fun _ => hpositive⟩

theorem Fits.reduced {bound : Nat} {fs : List Frame} {x : Tree} (h : Fits fs x)
    (hfs : StackGrouped fs) (hbound : bound ≤ x.rightLevel) :
    Reduced bound fs x (stackYield fs ++ x.yield) :=
  ⟨hfs, h, hbound, rfl⟩

theorem Reduced.shift_binary {op : Operator} {fs : List Frame} {x : Tree} {w : List Lexeme}
    (h : Reduced op.leftBound fs x w) (hlevel : topLevel fs < op.level) :
    StackGrouped (.binary x op :: fs) := by
  refine ⟨?_, ?_, h.stack⟩
  · simp [Frame.isGrouped, h.right, h.operand.grouped]
  · simp [Frame.leftLevel, hlevel, h.operand.level]

theorem Reduced.fits_isNull {fs : List Frame} {x : Tree} {w : List Lexeme}
    (h : Reduced 5 fs x w) (hlow : topLevel fs < 5) : Fits fs (.isNull x) := by
  have hright : 4 < x.rightLevel := h.right
  refine ⟨?_, ?_, fun _ => rfl⟩
  · simp [Tree.isGrouped, hright, h.operand.grouped]
  · -- the frame below is no tighter than `IS NULL`, and none is as tight
    have hgap := (topLevel_ne fs).1
    have hlevel := h.operand.level
    simp only [Tree.leftLevel]
    omega

theorem Reduced.shift_opened {fs : List Frame} {x : Tree} {w : List Lexeme}
    (h : Reduced 7 fs x w) (hlow : topLevel fs < 7) : StackGrouped (.opened x :: fs) := by
  have hright : 6 < x.rightLevel := h.right
  refine ⟨?_, ?_, h.stack⟩
  · simp [Frame.isGrouped, hright, h.operand.grouped]
  · have hgap := (topLevel_ne fs).2
    have hlevel := h.operand.level
    simp only [Frame.leftLevel]
    omega

namespace StackGrouped

variable {fs : List Frame} {x y first : Tree} {rest : List Tree}

theorem listed_of_opened (h : StackGrouped (.opened y :: fs)) (hx : x.isGrouped = true) :
    StackGrouped (.listed y x [] :: fs) := by
  obtain ⟨hy, hlevel, hfs⟩ := h
  simp only [Frame.isGrouped, Bool.and_eq_true, decide_eq_true_eq] at hy
  refine ⟨?_, hlevel, hfs⟩
  simp [Frame.isGrouped, restGrouped, hy, hx]

theorem listed_append (h : StackGrouped (.listed y first rest :: fs)) (hx : x.isGrouped = true) :
    StackGrouped (.listed y first (rest ++ [x]) :: fs) := by
  obtain ⟨hy, hlevel, hfs⟩ := h
  simp only [Frame.isGrouped, Bool.and_eq_true, decide_eq_true_eq] at hy
  refine ⟨?_, hlevel, hfs⟩
  simp [Frame.isGrouped, Tree.restGrouped_append, restGrouped, hy, hx]

/-- A list that is closed is an operand for what stands below. -/
theorem fits_among (h : StackGrouped (.listed y first rest :: fs)) :
    Fits fs (.among y first rest) := by
  obtain ⟨hy, hlevel, _⟩ := h
  exact ⟨hy, hlevel, fun _ => rfl⟩

theorem tail {f : Frame} (h : StackGrouped (f :: fs)) : StackGrouped fs := h.2.2

end StackGrouped

/-- A tree that is grouped and read from the lexemes. -/
structure Parses (w : List Lexeme) (x : Tree) : Prop where
  grouped : x.isGrouped = true
  yield : x.yield = w

-- By recursion on the lexemes that are left: the stack stays grouped, the operand fits
-- on it, and together they yield what was read.
mutual

theorem operand_sound {fs : List Frame} {w : List Lexeme} {x : Tree} (hfs : StackGrouped fs)
    (hsign : fs.head? = some .neg → ∀ n rest, w ≠ .number (n + 1) :: rest)
    (h : operand fs w = some x) : Parses (stackYield fs ++ w) x := by
  unfold operand at h
  split at h
  next table name w =>
    simpa [Tree.yield, columnLexemes] using
      operator_sound (y := .column name (some table)) hfs (.of_closed rfl rfl rfl) rfl h
  next name w _ =>
    simpa [Tree.yield, columnLexemes] using
      operator_sound (y := .column name none) hfs (.of_closed rfl rfl rfl) rfl h
  next n w =>
    -- behind a sign only zero is left here, the sign took every other number
    have hfits : Fits fs (.whole n) := by
      refine ⟨rfl, topLevel_lt fs, fun hneg => ?_⟩
      cases n with
      | zero => rfl
      | succ n => exact absurd rfl (hsign hneg n w)
    simpa [Tree.yield, wholeLexemes] using operator_sound hfs hfits rfl h
  next b w =>
    simpa [Tree.yield] using operator_sound (y := .truth b) hfs (.of_closed rfl rfl rfl) rfl h
  next n w =>
    simpa [Tree.yield, wholeLexemes] using
      operator_sound (y := .whole (.negSucc n)) hfs (.of_closed rfl rfl rfl) rfl h
  next w hnumber =>
    have hstack : StackGrouped (.neg :: fs) := ⟨rfl, topLevel_lt fs, hfs⟩
    simpa [stackYield, Frame.yield] using operand_sound hstack (fun _ n rest => hnumber n rest) h
  next w =>
    have hstack : StackGrouped (.not :: fs) := ⟨rfl, topLevel_lt fs, hfs⟩
    simpa [stackYield, Frame.yield] using operand_sound hstack (fun hneg => by cases hneg) h
  next w =>
    have hstack : StackGrouped (.paren :: fs) := ⟨rfl, topLevel_lt fs, hfs⟩
    simpa [stackYield, Frame.yield] using operand_sound hstack (fun hneg => by cases hneg) h
  next => cases h
termination_by w.length
decreasing_by
  all_goals
    subst_vars
    simp only [List.length_cons]
    omega

theorem operator_sound {fs : List Frame} {y : Tree} {w : List Lexeme} {x : Tree}
    (hfs : StackGrouped fs) (hy : Fits fs y) (hright : y.rightLevel = closedLevel)
    (h : operator fs y w = some x) : Parses (stackYield fs ++ (y.yield ++ w)) x := by
  -- whatever comes next first reduces the stack to some bound
  have reduced {bound : Nat} {fs' : List Frame} {x' : Tree} (hpos : 1 ≤ bound)
      (hbound : bound ≤ closedLevel) (heq : reduce bound fs y = (fs', x')) :
      Reduced bound fs' x' (stackYield fs ++ y.yield) ∧ topLevel fs' < bound :=
    (hy.reduced hfs (hright ▸ hbound)).reduce hpos heq
  rw [← List.append_assoc]
  unfold operator at h
  split at h
  next =>
    split at h
    next x' heq =>
      cases h
      obtain ⟨hx, _⟩ := reduced (by decide) (by decide) heq
      exact ⟨hx.operand.grouped, by simpa [stackYield] using hx.yield⟩
    next => cases h
  next op w =>
    split at h
    next fs' x' heq =>
      split at h
      next hlevel =>
        have hpos := Nat.le_trans op.level_pos op.level_le_leftBound
        obtain ⟨hx, _⟩ := reduced hpos (Nat.le_succ_of_le op.leftBound_le) heq
        have hnext := operand_sound (hx.shift_binary hlevel) (fun hneg => by cases hneg) h
        simpa [stackYield, Frame.yield, ← hx.yield] using hnext
      next => cases h
  next w =>
    split at h
    next fs' x' heq =>
      obtain ⟨hx, hlow⟩ := reduced (by decide) (by decide) heq
      have hnext := operator_sound hx.stack (hx.fits_isNull hlow) rfl h
      simpa [Tree.yield, ← hx.yield] using hnext
  next w =>
    split at h
    next fs' x' heq =>
      obtain ⟨hx, hlow⟩ := reduced (by decide) (by decide) heq
      have hnext := operand_sound (hx.shift_opened hlow) (fun hneg => by cases hneg) h
      simpa [stackYield, Frame.yield, ← hx.yield] using hnext
  next w =>
    split at h
    next z fs' x' heq =>
      obtain ⟨hx, _⟩ := reduced (by decide) (by decide) heq
      have hstack := hx.stack.listed_of_opened hx.operand.grouped
      have hnext := operand_sound hstack (fun hneg => by cases hneg) h
      simpa [stackYield, Frame.yield, yieldRest, ← hx.yield] using hnext
    next z first rest fs' x' heq =>
      obtain ⟨hx, _⟩ := reduced (by decide) (by decide) heq
      have hstack := hx.stack.listed_append hx.operand.grouped
      have hnext := operand_sound hstack (fun hneg => by cases hneg) h
      simpa [stackYield, Frame.yield, Tree.yieldRest_append, yieldRest, ← hx.yield] using hnext
    next => cases h
  next w =>
    split at h
    next fs' x' heq =>
      obtain ⟨hx, _⟩ := reduced (by decide) (by decide) heq
      have hfits : Fits fs' (.paren x') := .of_closed hx.operand.grouped rfl rfl
      have hnext := operator_sound hx.stack.tail hfits rfl h
      simpa [stackYield, Frame.yield, Tree.yield, ← hx.yield] using hnext
    next z fs' x' heq =>
      obtain ⟨hx, _⟩ := reduced (by decide) (by decide) heq
      have hstack := hx.stack.listed_of_opened hx.operand.grouped
      have hnext := operator_sound hstack.tail hstack.fits_among rfl h
      simpa [stackYield, Frame.yield, Tree.yield, yieldRest, ← hx.yield] using hnext
    next z first rest fs' x' heq =>
      obtain ⟨hx, _⟩ := reduced (by decide) (by decide) heq
      have hstack := hx.stack.listed_append hx.operand.grouped
      have hnext := operator_sound hstack.tail hstack.fits_among rfl h
      simpa [stackYield, Frame.yield, Tree.yield, Tree.yieldRest_append, yieldRest,
        ← hx.yield] using hnext
    next => cases h
  next => cases h
termination_by w.length
decreasing_by
  all_goals
    subst_vars
    simp only [List.length_cons]
    omega

end

/-! ## What is grouped is parsed -/

/-- Reducing leaves a stack whose top binds more loosely than asked. -/
theorem reduce_of_lt {bound : Nat} {fs : List Frame} (h : topLevel fs < bound) (x : Tree) :
    reduce bound fs x = (fs, x) := by
  cases fs with
  | nil => rfl
  | cons f fs => exact if_neg (Nat.not_le_of_lt h)

namespace Tree

/-- What waits on the stack when all of a tree is read. -/
def spine : Tree → List Frame
  | neg x => x.spine ++ [.neg]
  | not x => x.spine ++ [.not]
  | binary op left right => right.spine ++ [.binary left op]
  | _ => []

/-- The operand read last when all of a tree is read. -/
def tip : Tree → Tree
  | neg x => x.tip
  | not x => x.tip
  | binary _ _ right => right.tip
  | x => x

/-- Reducing rebuilds the tree first. -/
theorem reduce_spine {bound : Nat} {x : Tree} (h : bound ≤ x.rightLevel) (fs : List Frame) :
    reduce bound (x.spine ++ fs) x.tip = reduce bound fs x := by
  -- along the right edge of the tree, where no level is below the bound
  fun_induction spine x generalizing fs with
  | case1 x ih =>
    have hbounds : bound ≤ 9 ∧ bound ≤ x.rightLevel := Nat.le_min.1 h
    rw [List.append_assoc, tip, ih hbounds.2]
    exact if_pos hbounds.1
  | case2 x ih =>
    have hbounds : bound ≤ 3 ∧ bound ≤ x.rightLevel := Nat.le_min.1 h
    rw [List.append_assoc, tip, ih hbounds.2]
    exact if_pos hbounds.1
  | case3 op left right ih =>
    have hbounds : bound ≤ op.level ∧ bound ≤ right.rightLevel := Nat.le_min.1 h
    rw [List.append_assoc, tip, ih hbounds.2]
    exact if_pos hbounds.1
  | case4 x hneg hnot hbinary => rw [tip.eq_4 x hneg hnot hbinary, List.nil_append]

/-- Reducing stops at the tree itself when what stands below binds more loosely. -/
theorem reduce_spine_eq (fs : List Frame) {bound : Nat} {x : Tree} (h : bound ≤ x.rightLevel)
    (hlevel : topLevel fs < bound) : reduce bound (x.spine ++ fs) x.tip = (fs, x) := by
  rw [reduce_spine h, reduce_of_lt hlevel]

/-- A tree that can stand behind a sign does not start with a number that would
    take the sign. -/
theorem yield_ne_number {x : Tree} (hleft : 9 < x.leftLevel) (hpositive : x.isPositive = false)
    (w : List Lexeme) (n : Nat) (rest : List Lexeme) : x.yield ++ w ≠ .number (n + 1) :: rest := by
  intro heq
  cases x with
  | column name table => cases table <;> cases heq
  | whole m =>
    cases m with
    | ofNat m =>
      cases heq
      cases hpositive
    | negSucc m => cases heq
  | binary op left right =>
    have := op.level_lt
    simp only [leftLevel] at hleft
    omega
  | isNull x => simp only [leftLevel] at hleft; omega
  | among x first rest => simp only [leftLevel] at hleft; omega
  | _ => cases heq

end Tree

/-- A name that no dot follows is a column of its own. -/
theorem operand_name {fs : List Frame} {name : String} {w : List Lexeme}
    (hw : w.head? ≠ some .dot) :
    operand fs (.name name :: w) = operator fs (.column name none) w := by
  cases w with
  | nil => rfl
  | cons l w =>
    cases l with
    | dot => exact absurd rfl hw
    | _ => rfl

/-- A minus that no positive number follows is an operator. -/
theorem operand_sub {fs : List Frame} {w : List Lexeme}
    (hw : ∀ n rest, w ≠ .number (n + 1) :: rest) :
    operand fs (.op .sub :: w) = operand (.neg :: fs) w := by
  rw [operand.eq_6]
  exact hw

theorem head?_yieldRest_ne_dot (xs : List Tree) (w : List Lexeme) :
    (yieldRest xs ++ .closing :: w).head? ≠ some .dot := by
  cases xs <;> simp [yieldRest]

mutual

/-- Reading a grouped tree leaves its spine on the stack. -/
theorem operand_yield {x : Tree} (fs : List Frame) {w : List Lexeme} (hx : x.isGrouped = true)
    (hlevel : topLevel fs < x.leftLevel) (hw : w.head? ≠ some .dot) :
    operand fs (x.yield ++ w) = operator (x.spine ++ fs) x.tip w := by
  cases x with
  | column name table =>
    cases table with
    | none => exact operand_name hw
    | some table => rfl
  | whole n =>
    cases n with
    | ofNat n => rfl
    | negSucc n => rfl
  | truth b => rfl
  | paren x =>
    have hreduce := Tree.reduce_spine_eq (.paren :: fs) x.rightLevel_pos Nat.one_pos
    calc operand fs ((Tree.paren x).yield ++ w)
      _ = operand (.paren :: fs) (x.yield ++ .closing :: w) := by simp [Tree.yield, operand]
      _ = operator (x.spine ++ .paren :: fs) x.tip (.closing :: w) :=
        operand_yield _ hx x.leftLevel_pos (by simp)
      _ = operator fs (.paren x) w := by rw [operator, hreduce]
  | neg x =>
    simp only [Tree.isGrouped, Bool.and_eq_true, decide_eq_true_eq, Bool.not_eq_true'] at hx
    obtain ⟨⟨hleft, hpositive⟩, hx⟩ := hx
    calc operand fs (.op .sub :: (x.yield ++ w))
      _ = operand (.neg :: fs) (x.yield ++ w) :=
        operand_sub (Tree.yield_ne_number hleft hpositive w)
      _ = operator (x.spine ++ .neg :: fs) x.tip w := operand_yield _ hx hleft hw
      _ = operator ((Tree.neg x).spine ++ fs) x.tip w := by simp [Tree.spine]
  | not x =>
    simp only [Tree.isGrouped, Bool.and_eq_true, decide_eq_true_eq] at hx
    calc operand fs (.not :: (x.yield ++ w))
      _ = operand (.not :: fs) (x.yield ++ w) := by rw [operand]
      _ = operator (x.spine ++ .not :: fs) x.tip w := operand_yield _ hx.2 hx.1 hw
      _ = operator ((Tree.not x).spine ++ fs) x.tip w := by simp [Tree.spine]
  | binary op left right =>
    simp only [Tree.isGrouped, Bool.and_eq_true, decide_eq_true_eq] at hx
    obtain ⟨⟨⟨hbound, hop⟩, hleft⟩, hright⟩ := hx
    obtain ⟨hlevel, hleftLevel⟩ := Nat.lt_min.1 hlevel
    -- the spine of the left operand is on the stack, and the operator puts it
    -- together again before it is shifted
    have hreduce := Tree.reduce_spine_eq fs hbound (Nat.lt_of_lt_of_le hlevel op.level_le_leftBound)
    calc operand fs ((Tree.binary op left right).yield ++ w)
      _ = operand fs (left.yield ++ .op op :: (right.yield ++ w)) := by simp [Tree.yield]
      _ = operator (left.spine ++ fs) left.tip (.op op :: (right.yield ++ w)) :=
        operand_yield _ hleft hleftLevel (by simp)
      _ = operand (.binary left op :: fs) (right.yield ++ w) := by
        rw [operator, hreduce]
        exact if_pos hlevel
      _ = operator (right.spine ++ .binary left op :: fs) right.tip w :=
        operand_yield _ hright hop hw
      _ = operator ((Tree.binary op left right).spine ++ fs) right.tip w := by simp [Tree.spine]
  | isNull x =>
    simp only [Tree.isGrouped, Bool.and_eq_true, decide_eq_true_eq] at hx
    obtain ⟨hlevel, hleftLevel⟩ := Nat.lt_min.1 hlevel
    have hbound : 5 ≤ x.rightLevel := hx.1
    have hreduce := Tree.reduce_spine_eq fs hbound (Nat.lt_succ_of_lt hlevel)
    calc operand fs ((Tree.isNull x).yield ++ w)
      _ = operand fs (x.yield ++ .is :: .null :: w) := by simp [Tree.yield]
      _ = operator (x.spine ++ fs) x.tip (.is :: .null :: w) :=
        operand_yield _ hx.2 hleftLevel (by simp)
      _ = operator fs (.isNull x) w := by rw [operator, hreduce]
  | among x first rest =>
    simp only [Tree.isGrouped, Bool.and_eq_true, decide_eq_true_eq] at hx
    obtain ⟨⟨⟨hright, hx⟩, hfirst⟩, hrest⟩ := hx
    obtain ⟨hlevel, hleftLevel⟩ := Nat.lt_min.1 hlevel
    have hbound : 7 ≤ x.rightLevel := hright
    have hreduce := Tree.reduce_spine_eq fs hbound (Nat.lt_succ_of_lt hlevel)
    have hopened := Tree.reduce_spine_eq (.opened x :: fs) first.rightLevel_pos Nat.one_pos
    calc operand fs ((Tree.among x first rest).yield ++ w)
      _ = operand fs (x.yield ++
          .among :: .opening :: (first.yield ++ (yieldRest rest ++ .closing :: w))) := by
        simp [Tree.yield]
      _ = operator (x.spine ++ fs) x.tip
          (.among :: .opening :: (first.yield ++ (yieldRest rest ++ .closing :: w))) :=
        operand_yield _ hx hleftLevel (by simp)
      _ = operand (.opened x :: fs) (first.yield ++ (yieldRest rest ++ .closing :: w)) := by
        rw [operator, hreduce]
      _ = operator (first.spine ++ .opened x :: fs) first.tip (yieldRest rest ++ .closing :: w) :=
        operand_yield _ hfirst first.leftLevel_pos (head?_yieldRest_ne_dot rest w)
      _ = operator fs (.among x first rest) w := by
        cases rest with
        | nil => rw [yieldRest, List.nil_append, operator, hopened]
        | cons z rest =>
          obtain ⟨hz, hrest⟩ := Bool.and_eq_true_iff.1 hrest
          rw [yieldRest, List.cons_append, List.cons_append, operator, hopened, List.append_assoc]
          have hnext := operand_yield (.listed x first [] :: fs) hz z.leftLevel_pos
            (head?_yieldRest_ne_dot rest w)
          exact hnext.trans (operator_yieldRest hrest)

/-- Reading the rest of a list closes it. -/
theorem operator_yieldRest {xs : List Tree} {fs : List Frame} {y first z : Tree}
    {rest : List Tree} {w : List Lexeme} (hxs : restGrouped xs = true) :
    operator (z.spine ++ .listed y first rest :: fs) z.tip (yieldRest xs ++ .closing :: w) =
      operator fs (.among y first (rest ++ z :: xs)) w := by
  have hreduce := Tree.reduce_spine_eq (.listed y first rest :: fs) z.rightLevel_pos Nat.one_pos
  cases xs with
  | nil => rw [yieldRest, List.nil_append, operator, hreduce]
  | cons x xs =>
    obtain ⟨hx, hxs⟩ := Bool.and_eq_true_iff.1 hxs
    rw [yieldRest, List.cons_append, List.cons_append, operator, hreduce, List.append_assoc]
    have hnext := operand_yield (.listed y first (rest ++ [z]) :: fs) hx x.leftLevel_pos
      (head?_yieldRest_ne_dot xs w)
    refine hnext.trans ?_
    rw [operator_yieldRest hxs, List.append_assoc, List.singleton_append]

end

/-! ## Parsing -/

/-- A tree is parsed from some lexemes exactly when it is grouped and they are its
    yield. -/
theorem parse_eq_some_iff {w : List Lexeme} {x : Tree} :
    parse w = some x ↔ x.isGrouped = true ∧ x.yield = w := by
  constructor
  · intro h
    have hempty : StackGrouped [] := trivial
    obtain ⟨hgrouped, hyield⟩ := operand_sound hempty (fun hneg => by cases hneg) h
    exact ⟨hgrouped, hyield⟩
  · rintro ⟨hgrouped, rfl⟩
    have hreduce := Tree.reduce_spine_eq [] x.rightLevel_pos Nat.one_pos
    have hread := operand_yield [] (w := []) hgrouped x.leftLevel_pos (by simp)
    rw [List.append_nil] at hread
    rw [parse, hread, operator, hreduce]

example : parse [.name "a", .op .add, .name "b", .op .mul, .number 2] =
    some (.binary .add (.column "a" none) (.binary .mul (.column "b" none) (.whole 2))) := rfl

example : parse [.name "a", .op .eq, .name "b", .op .eq, .name "c"] = none := rfl

end SqlDialects.Grouping
