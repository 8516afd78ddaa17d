-- SUMMARY: Parsing chains without precedence, and what is accepted: exactly the lexemes of chains.
import SqlDialects.Proofs.Chains.Syntax

/-!
# Parsing chains

The parser reads lexemes one after another. Its stack holds what waits for a closing
parenthesis, and beside it is the part of a chain that waits for its next operand. An
operator is read only behind a chain that admits it. A minus in front of a number where
an operand is due belongs to the number.

A chain is what the parser makes of some lexemes exactly when they are its yield. So
there is at most one chain for any lexemes.
-/

namespace SqlDialects.Chains

/-- A part of a chain that waits for an operand. -/
inductive Part where
  | start
  | behind (x : Chain) (c : Connector) (admits : x.admits c = true)

namespace Part

def add : Part → Operand → Chain
  | start, y => .one y
  | behind x c _, y => x.add c y

/-- The lexemes a part was read from. -/
def yield : Part → List Lexeme
  | start => []
  | behind x c _ => x.yield ++ c.lexemes

theorem yield_add (p : Part) (y : Operand) : (p.add y).yield = p.yield ++ y.yield := by
  cases p with
  | start => rfl
  | behind x c h => rw [add, Chain.yield_add y h, yield, List.append_assoc]

end Part

/-- Wait for an operand behind a chain and an operator. -/
def Chain.extend (x : Chain) (c : Connector) : Option Part :=
  if h : x.admits c = true then some (.behind x c h) else none

/-- What waits for a closing parenthesis, with the part that waits for the operand it is. -/
inductive Frame where
  | paren (p : Part)
  | cast (p : Part)
  /-- A call, with the arguments that are read already. -/
  | call (p : Part) (name : String) (distinct : Bool) (args : List Chain)

mutual

/-- Read on where an operand is due. -/
def operand : List Frame → Part → List Lexeme → Option Chain
  | fs, p, .name f :: .opening :: w => operand (.call p f false [] :: fs) .start w
  | .call p f false [] :: fs, .start, .distinct :: w => operand (.call p f true [] :: fs) .start w
  | .call p f distinct [] :: fs, .start, .closing :: w =>
    operator fs (p.add (.call f distinct [])) w
  | fs, p, .name table :: .dot :: .name name :: w =>
    operator fs (p.add (.column name (some table))) w
  | fs, p, .name name :: w => operator fs (p.add (.column name none)) w
  | fs, p, .null :: w => operator fs (p.add .null) w
  | fs, p, .truth b :: w => operator fs (p.add (.truth b)) w
  | fs, p, .number n :: w => operator fs (p.add (.whole n)) w
  | fs, p, .op .minus :: .number (n + 1) :: w => operator fs (p.add (.whole (.negSucc n))) w
  | fs, p, .text s :: w => operator fs (p.add (.text s)) w
  | fs, p, .cast :: .opening :: w => operand (.cast p :: fs) .start w
  | fs, p, .opening :: w => operand (.paren p :: fs) .start w
  | _, _, _ => none
termination_by structural _ _ w => w

/-- Read on behind a chain. -/
def operator : List Frame → Chain → List Lexeme → Option Chain
  | [], x, [] => some x
  | fs, x, .op o :: w => (x.extend (.op o)).bind (operand fs · w)
  | fs, x, .not :: .op .like :: w => (x.extend .notLike).bind (operand fs · w)
  | .call p f distinct args :: fs, x, .comma :: w =>
    operand (.call p f distinct (args ++ [x]) :: fs) .start w
  | .call p f distinct args :: fs, x, .closing :: w =>
    operator fs (p.add (.call f distinct (args ++ [x]))) w
  | .cast p :: fs, x, .as :: .name typeName :: .closing :: w =>
    operator fs (p.add (.cast x typeName)) w
  | .paren p :: fs, x, .closing :: w => operator fs (p.add (.paren x)) w
  | _, _, _ => none
termination_by structural _ _ w => w

end

/-- The chain of some lexemes. -/
def parse (w : List Lexeme) : Option Chain := operand [] .start w

/-! ## What is parsed is what was read -/

/-- The lexemes of arguments that are read already, each with the comma behind it. -/
def yieldRead : List Chain → List Lexeme
  | [] => []
  | x :: xs => x.yield ++ .comma :: yieldRead xs

theorem yieldRead_concat (xs : List Chain) (x : Chain) :
    yieldRead (xs ++ [x]) = yieldRead xs ++ (x.yield ++ [.comma]) := by
  induction xs with
  | nil => rfl
  | cons y ys ih => simp [yieldRead, ih]

/-- The last argument has no comma behind it. -/
theorem yieldAll_concat (xs : List Chain) (x : Chain) :
    yieldAll (xs ++ [x]) = yieldRead xs ++ x.yield := by
  have hmore (xs : List Chain) : yieldMore (xs ++ [x]) = .comma :: (yieldRead xs ++ x.yield) := by
    induction xs with
    | nil => simp [yieldMore, yieldRead]
    | cons y ys ih => simp [yieldMore, yieldRead, ih]
  cases xs with
  | nil => simp [yieldAll, yieldMore, yieldRead]
  | cons y ys => simp [yieldAll, yieldRead, hmore]

/-- The lexemes a frame was read from. -/
def Frame.yield : Frame → List Lexeme
  | paren p => p.yield ++ [.opening]
  | cast p => p.yield ++ [.cast, .opening]
  | call p f distinct args =>
    p.yield ++ .name f :: .opening :: distinctLexemes distinct ++ yieldRead args

def stackYield : List Frame → List Lexeme
  | [] => []
  | f :: fs => stackYield fs ++ f.yield

/-- A part is a chain and an operator it admits. -/
theorem yield_of_extend {x : Chain} {c : Connector} {p : Part} (h : x.extend c = some p) :
    p.yield = x.yield ++ c.lexemes := by
  rw [Chain.extend] at h
  split at h
  · cases h
    rfl
  · cases h

-- By recursion on the lexemes that are left: the stack, the part or chain that is read
-- and what is left always make up the lexemes of the whole.
mutual

theorem operand_sound {fs : List Frame} {p : Part} {w : List Lexeme} {x : Chain}
    (h : operand fs p w = some x) : x.yield = stackYield fs ++ (p.yield ++ w) := by
  unfold operand at h
  split at h
  next f w =>
    have hnext := operand_sound h
    simpa [stackYield, Frame.yield, Part.yield, distinctLexemes, yieldRead] using hnext
  next p f fs w =>
    have hnext := operand_sound h
    simpa [stackYield, Frame.yield, Part.yield, distinctLexemes, yieldRead] using hnext
  next p f distinct fs w =>
    have hnext := operator_sound h
    simpa [stackYield, Frame.yield, Part.yield, Part.yield_add, Operand.yield, yieldAll,
      yieldRead] using hnext
  next table name w _ =>
    simpa [Part.yield_add, Operand.yield, columnLexemes] using operator_sound h
  next name w _ _ =>
    simpa [Part.yield_add, Operand.yield, columnLexemes] using operator_sound h
  next w => simpa [Part.yield_add, Operand.yield] using operator_sound h
  next b w => simpa [Part.yield_add, Operand.yield] using operator_sound h
  next n w => simpa [Part.yield_add, Operand.yield, wholeLexemes] using operator_sound h
  next n w => simpa [Part.yield_add, Operand.yield, wholeLexemes] using operator_sound h
  next s w => simpa [Part.yield_add, Operand.yield] using operator_sound h
  next w => simpa [stackYield, Frame.yield, Part.yield] using operand_sound h
  next w => simpa [stackYield, Frame.yield, Part.yield] using operand_sound h
  next => cases h
termination_by w.length
decreasing_by
  all_goals
    subst_vars
    simp only [List.length_cons]
    omega

theorem operator_sound {fs : List Frame} {y : Chain} {w : List Lexeme} {x : Chain}
    (h : operator fs y w = some x) : x.yield = stackYield fs ++ (y.yield ++ w) := by
  unfold operator at h
  split at h
  next =>
    cases h
    simp [stackYield]
  next o w =>
    obtain ⟨p, hp, h⟩ := Option.bind_eq_some_iff.1 h
    simpa [yield_of_extend hp, Connector.lexemes] using operand_sound h
  next w =>
    obtain ⟨p, hp, h⟩ := Option.bind_eq_some_iff.1 h
    simpa [yield_of_extend hp, Connector.lexemes] using operand_sound h
  next p f distinct args fs w =>
    simpa [stackYield, Frame.yield, Part.yield, yieldRead_concat] using operand_sound h
  next p f distinct args fs w =>
    simpa [stackYield, Frame.yield, Part.yield_add, Operand.yield, yieldAll_concat] using
      operator_sound h
  next p fs typeName w =>
    simpa [stackYield, Frame.yield, Part.yield_add, Operand.yield] using operator_sound h
  next p fs w =>
    simpa [stackYield, Frame.yield, Part.yield_add, Operand.yield] using operator_sound h
  next => cases h
termination_by w.length
decreasing_by
  all_goals
    subst_vars
    simp only [List.length_cons]
    omega

end

/-! ## What is written is parsed -/

/-- What follows does not make a call or a qualified name of a name. -/
def LeavesName (w : List Lexeme) : Prop := w.head? ≠ some .opening ∧ w.head? ≠ some .dot

theorem operand_name {fs : List Frame} {p : Part} {name : String} {w : List Lexeme}
    (hw : LeavesName w) :
    operand fs p (.name name :: w) = operator fs (p.add (.column name none)) w := by
  cases w with
  | nil => rfl
  | cons l w =>
    cases l with
    | opening => exact absurd rfl hw.1
    | dot => exact absurd rfl hw.2
    | _ => rfl

theorem leavesName_lexemes (c : Connector) (w : List Lexeme) : LeavesName (c.lexemes ++ w) := by
  cases c <;> simp [LeavesName, Connector.lexemes]

theorem leavesName_yieldRest {c : Connector} {w : List Lexeme} (hw : LeavesName w)
    (xs : List Operand) : LeavesName (yieldRest c xs ++ w) := by
  cases xs with
  | nil => exact hw
  | cons x xs =>
    rw [yieldRest, List.append_assoc, List.append_assoc]
    exact leavesName_lexemes c _

/-- Behind an argument is another one or the end of the call. -/
theorem leavesName_yieldMore (xs : List Chain) (w : List Lexeme) :
    LeavesName (yieldMore xs ++ .closing :: w) := by
  cases xs <;> simp [LeavesName, yieldMore]

theorem operator_lexemes {fs : List Frame} {x : Chain} {c : Connector} {w : List Lexeme}
    (h : x.admits c = true) :
    operator fs x (c.lexemes ++ w) = operand fs (.behind x c h) w := by
  have hextend : x.extend c = some (.behind x c h) := dif_pos h
  cases c with
  | op o =>
    have hop : operator fs x (.op o :: w) = (x.extend (.op o)).bind (operand fs · w) := by
      rw [operator]
    rw [Connector.lexemes, List.singleton_append, hop, hextend, Option.bind_some]
  | notLike =>
    have hnot : operator fs x (.not :: .op .like :: w) =
        (x.extend .notLike).bind (operand fs · w) := by
      rw [operator]
    rw [Connector.lexemes, List.cons_append, List.singleton_append, hnot, hextend,
      Option.bind_some]

/-- A call is closed behind its last argument. -/
theorem operator_closing {fs : List Frame} {p : Part} {f : String} {distinct : Bool}
    {args : List Chain} (x : Chain) (w : List Lexeme) :
    operator (.call p f distinct args :: fs) x (.closing :: w) =
      operator fs (p.add (.call f distinct (args ++ [x]))) w := rfl

theorem operator_comma {fs : List Frame} {p : Part} {f : String} {distinct : Bool}
    {args : List Chain} (x : Chain) (w : List Lexeme) :
    operator (.call p f distinct args :: fs) x (.comma :: w) =
      operand (.call p f distinct (args ++ [x]) :: fs) .start w := rfl

-- By recursion on the tree: whatever the stack holds, its lexemes are read as the tree.
mutual

theorem operand_yield {fs : List Frame} {p : Part} {w : List Lexeme} (hw : LeavesName w)
    (x : Operand) : operand fs p (x.yield ++ w) = operator fs (p.add x) w := by
  cases x with
  | column name table =>
    cases table with
    | none => exact operand_name hw
    | some table => rfl
  | null => rfl
  | truth b => rfl
  | whole n => cases n <;> rfl
  | text s => rfl
  | call f distinct args =>
    have hopen : operand fs p (.name f :: .opening :: (distinctLexemes distinct ++
        (yieldAll args ++ .closing :: w))) =
          operand (.call p f distinct [] :: fs) .start (yieldAll args ++ .closing :: w) := by
      cases distinct <;> rfl
    have hlexemes : (Operand.call f distinct args).yield ++ w = .name f :: .opening ::
        (distinctLexemes distinct ++ (yieldAll args ++ .closing :: w)) := by
      simp [Operand.yield]
    rw [hlexemes, hopen]
    cases args with
    | nil => rfl
    | cons y ys =>
      rw [yieldAll, List.append_assoc, operand_chain_yield (leavesName_yieldMore ys w) y,
        operator_yieldMore y ys, List.nil_append]
  | cast x typeName =>
    have hlexemes : (Operand.cast x typeName).yield ++ w =
        .cast :: .opening :: (x.yield ++ .as :: .name typeName :: .closing :: w) := by
      simp [Operand.yield]
    have hbehind : LeavesName (.as :: .name typeName :: .closing :: w) := by simp [LeavesName]
    rw [hlexemes, operand, operand_chain_yield hbehind x, operator]
  | paren x =>
    have hlexemes : (Operand.paren x).yield ++ w = .opening :: (x.yield ++ .closing :: w) := by
      simp [Operand.yield]
    have hbehind : LeavesName (.closing :: w) := by simp [LeavesName]
    rw [hlexemes, operand, operand_chain_yield hbehind x, operator]
termination_by structural x

theorem operand_chain_yield {fs : List Frame} {w : List Lexeme} (hw : LeavesName w) (x : Chain) :
    operand fs .start (x.yield ++ w) = operator fs x w := by
  cases x with
  | one x => exact operand_yield hw x
  | many c first second rest =>
    have hadmits : (Chain.one first).admits c = true := rfl
    have hrest := leavesName_yieldRest hw rest (c := c)
    rw [Chain.yield, List.append_assoc, List.append_assoc, List.append_assoc,
      operand_yield (leavesName_lexemes c _) first, Part.add, operator_lexemes hadmits,
      operand_yield hrest second, Part.add, Chain.add, operator_yieldRest hw rest,
      List.nil_append]
termination_by structural x

theorem operator_yieldRest {fs : List Frame} {c : Connector} {first second : Operand}
    {read : List Operand} {w : List Lexeme} (hw : LeavesName w) (xs : List Operand) :
    operator fs (.many c first second read) (yieldRest c xs ++ w) =
      operator fs (.many c first second (read ++ xs)) w := by
  cases xs with
  | nil => rw [yieldRest, List.nil_append, List.append_nil]
  | cons x xs =>
    have hadmits : (Chain.many c first second read).admits c = true := decide_eq_true rfl
    rw [yieldRest, List.append_assoc, List.append_assoc, operator_lexemes hadmits,
      operand_yield (leavesName_yieldRest hw xs) x, Part.add, Chain.add,
      operator_yieldRest hw xs, List.append_assoc, List.singleton_append]
termination_by structural xs

theorem operator_yieldMore {fs : List Frame} {p : Part} {f : String} {distinct : Bool}
    {args : List Chain} {w : List Lexeme} (x : Chain) (xs : List Chain) :
    operator (.call p f distinct args :: fs) x (yieldMore xs ++ .closing :: w) =
      operator fs (p.add (.call f distinct (args ++ x :: xs))) w := by
  cases xs with
  | nil => exact operator_closing x w
  | cons y ys =>
    rw [yieldMore, List.append_assoc, List.cons_append, operator_comma,
      operand_chain_yield (leavesName_yieldMore ys w) y, operator_yieldMore y ys,
      List.append_assoc, List.singleton_append]
termination_by structural xs

end

/-- A chain is what is read exactly when the lexemes are its yield. -/
theorem parse_eq_some_iff {w : List Lexeme} {x : Chain} : parse w = some x ↔ x.yield = w := by
  constructor
  · intro h
    exact operand_sound h
  · rintro rfl
    have hnil : LeavesName [] := by simp [LeavesName]
    have hread : operand [] .start (x.yield ++ []) = operator [] x [] :=
      operand_chain_yield hnil x
    rwa [List.append_nil, operator] at hread

/-- There is at most one chain for any lexemes. -/
theorem Chain.yield_injective : Function.Injective Chain.yield := by
  intro x y hyield
  have hx : parse y.yield = some x := parse_eq_some_iff.2 hyield
  have hy : parse y.yield = some y := parse_eq_some_iff.2 rfl
  exact Option.some.inj (hx.symm.trans hy)

end SqlDialects.Chains
