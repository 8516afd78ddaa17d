-- SUMMARY: A written table name is read back: its schema and its table are kept apart by the one dot outside quotes.
import Mathlib
import SqlDialects.Proofs.Lexing.Identifier

/-!
# Reading table names

A table name is written as its schema and its table, each quoted where it has to be,
with a dot between them. It is read by splitting the text at its first dot outside
double quotes, and by taking the quoting off each part that starts with a quote. All
dots of the two names stand between quotes, so nothing but the name can be read.
-/

namespace SqlDialects

namespace Identifier

/-! ## Splitting -/

/-- The characters of a text, each with whether it stands between double quotes. A quote
    that is written twice changes nothing for what follows it. -/
def placed : Bool → List Char → List (Char × Bool)
  | _, [] => []
  | inside, c :: cs => (c, inside) :: placed (inside ^^ (c = '"')) cs

def isBareDot (p : Char × Bool) : Bool := p.1 == '.' && !p.2

/-- How many dots of a text stand outside quotes. -/
def bareDots (cs : List Char) : Nat := (placed false cs).countP isBareDot

/-- What stands before and behind the first dot outside quotes. -/
def splitBare (cs : List Char) : List Char × Option (List Char) :=
  let ps := placed false cs
  match ps.dropWhile (!isBareDot ·) with
  | [] => (cs, none)
  | _ :: table => ((ps.takeWhile (!isBareDot ·)).map (·.1), some (table.map (·.1)))

/-- A part without its quotes; one that does not start with a quote has none. -/
def unquoted : List Char → Option (List Char)
  | [] => some []
  | c :: cs =>
    if c = '"' then
      match readQuoted '"' cs with
      | some (content, []) => some content
      | _ => none
    else some (c :: cs)

/-- A schema and a table with a dot between them, or a table alone. -/
def joined : List Char × Option (List Char) → List Char
  | (table, none) => table
  | (schema, some table) => schema ++ '.' :: table

/-- The table name that a text writes. -/
def readTable (cs : List Char) : Option (List Char) := do
  let (first, second) := splitBare cs
  return joined (← unquoted first, ← second.mapM unquoted)

/-! ## Places -/

/-- Whether what follows a text stands between quotes. -/
def endsInside (inside : Bool) (cs : List Char) : Bool :=
  cs.foldl (fun inside c => inside ^^ (c = '"')) inside

theorem map_fst_placed (inside : Bool) (cs : List Char) :
    (placed inside cs).map (·.1) = cs := by
  induction cs generalizing inside with
  | nil => rfl
  | cons c cs ih => rw [placed, List.map_cons, ih]

theorem placed_append (inside : Bool) (cs ds : List Char) :
    placed inside (cs ++ ds) = placed inside cs ++ placed (endsInside inside cs) ds := by
  induction cs generalizing inside with
  | nil => rfl
  | cons c cs ih =>
    rw [List.cons_append, placed, ih]
    rfl

theorem endsInside_append (inside : Bool) (cs ds : List Char) :
    endsInside inside (cs ++ ds) = endsInside (endsInside inside cs) ds := List.foldl_append

/-- Without a quote all characters stand where the first one stands. -/
theorem placed_of_not_mem {cs : List Char} (h : '"' ∉ cs) (inside : Bool) :
    placed inside cs = cs.map (·, inside) ∧ endsInside inside cs = inside := by
  induction cs with
  | nil => exact ⟨rfl, rfl⟩
  | cons c cs ih =>
    rw [List.mem_cons, not_or] at h
    have hc : (inside ^^ decide (c = '"')) = inside := by simp [Ne.symm h.1]
    rw [placed, endsInside, List.foldl_cons, hc, (ih h.2).1]
    exact ⟨rfl, (ih h.2).2⟩

/-- Behind quotes that are written twice, the token still goes on. -/
theorem endsInside_doubled (inside : Bool) (cs : List Char) :
    endsInside inside (doubled '"' cs) = inside := by
  induction cs with
  | nil => rfl
  | cons c cs ih =>
    rw [doubled]
    split
    next hc => cases inside <;> simpa [endsInside, hc] using ih
    next hc => simpa [endsInside, hc] using ih

/-- The dots between quotes are not bare, and the quotes that are outside are no dots. -/
theorem isBareDot_of_mem_doubled {cs : List Char} :
    ∀ p ∈ placed true (doubled '"' cs), isBareDot p = false := by
  induction cs with
  | nil => exact fun p hp => absurd hp (by simp [doubled, placed])
  | cons c cs ih =>
    rw [doubled]
    split
    next hc =>
      subst hc
      intro p hp
      rcases List.mem_cons.1 hp with rfl | hp
      · rfl
      · rcases List.mem_cons.1 hp with rfl | hp
        · rfl
        · exact ih p hp
    next hc =>
      have hinside : (true ^^ decide (c = '"')) = true := by simp [hc]
      rw [placed, hinside]
      exact List.forall_mem_cons.2 ⟨by simp [isBareDot], ih⟩

/-! ## Written names -/

theorem ne_of_isPlain {cs : List Char} (h : isPlain cs = true) : '"' ∉ cs ∧ '.' ∉ cs := by
  constructor <;>
    · intro hmem
      rcases isPart_or_eq_of_isPlain h _ hmem with hpart | hfeed
      · exact absurd hpart (by decide)
      · exact absurd hfeed (by decide)

/-- A written name has no bare dot, and what follows it stands outside quotes. -/
theorem placed_escaped (name : String) :
    (∀ p ∈ placed false (escaped name).toList, isBareDot p = false) ∧
      endsInside false (escaped name).toList = false := by
  rw [escaped]
  split
  next h =>
    obtain ⟨hquote, hdot⟩ := ne_of_isPlain (Bool.and_eq_true_iff.1 h).1
    obtain ⟨hplaced, hends⟩ := placed_of_not_mem hquote false
    refine ⟨?_, hends⟩
    rw [hplaced]
    refine List.forall_mem_map.2 fun c hc => ?_
    have hne : c ≠ '.' := fun heq => hdot (heq ▸ hc)
    simp [isBareDot, hne]
  next =>
    have htext : (quoted name).toList = ['"'] ++ (doubled '"' name.toList ++ ['"']) := by
      simp [quoted]
    have hopen : endsInside false ['"'] = true := by decide
    have hclose : endsInside true (doubled '"' name.toList ++ ['"']) = false := by
      rw [endsInside_append, endsInside_doubled]
      rfl
    rw [htext]
    constructor
    · rw [placed_append, placed_append, hopen, endsInside_doubled]
      simp only [List.forall_mem_append]
      exact ⟨by decide, isBareDot_of_mem_doubled, by decide⟩
    · rw [endsInside_append, hopen, hclose]

theorem bareDots_escaped (name : String) : bareDots (escaped name).toList = 0 :=
  List.countP_eq_zero.2 fun p hp => by simp [(placed_escaped name).1 p hp]

theorem bareDots_escaped_dot (schema table : String) :
    bareDots ((escaped schema).toList ++ '.' :: (escaped table).toList) = 1 := by
  have htable := bareDots_escaped table
  have hschema := bareDots_escaped schema
  rw [bareDots] at htable hschema ⊢
  rw [placed_append, (placed_escaped schema).2, List.countP_append, hschema]
  simp [placed, isBareDot, htable]

/-- A name alone is not split. -/
theorem splitBare_escaped (name : String) :
    splitBare (escaped name).toList = ((escaped name).toList, none) := by
  have hdrop : (placed false (escaped name).toList).dropWhile (!isBareDot ·) = [] :=
    List.dropWhile_eq_nil_iff.2 fun p hp => by simp [(placed_escaped name).1 p hp]
  rw [splitBare, hdrop]

/-- Two names with a dot between them are split at that dot. -/
theorem splitBare_escaped_dot (schema table : String) :
    splitBare ((escaped schema).toList ++ '.' :: (escaped table).toList) =
      ((escaped schema).toList, some (escaped table).toList) := by
  have hpass : ∀ p ∈ placed false (escaped schema).toList, (!isBareDot p) = true :=
    fun p hp => by simp [(placed_escaped schema).1 p hp]
  have hplaced : placed false ((escaped schema).toList ++ '.' :: (escaped table).toList) =
      placed false (escaped schema).toList ++
        ('.', false) :: placed false (escaped table).toList := by
    rw [placed_append, (placed_escaped schema).2]
    rfl
  have hdot : (!isBareDot ('.', false)) = false := by decide
  rw [splitBare, hplaced, List.dropWhile_append_of_pos hpass, List.takeWhile_append_of_pos hpass,
    List.dropWhile_cons, List.takeWhile_cons, hdot]
  simp [map_fst_placed]

theorem unquoted_escaped (name : String) : unquoted (escaped name).toList = some name.toList := by
  rw [escaped]
  split
  next h =>
    obtain ⟨hquote, -⟩ := ne_of_isPlain (Bool.and_eq_true_iff.1 h).1
    cases hname : name.toList with
    | nil => rfl
    | cons c cs =>
      have hc : c ≠ '"' := fun heq => hquote (by simp [hname, heq])
      rw [unquoted, if_neg hc]
  next =>
    have hread : readQuoted '"' (doubled '"' name.toList ++ ['"']) = some (name.toList, []) :=
      readQuoted_doubled .nil name.toList
    simp [quoted, unquoted, hread]

/-! ## Table names -/

/-- A table name is split where it has its first dot. -/
theorem splitTable_spec (name : String) :
    joined (splitTable name) = name.toList ∧
      ((splitTable name).2.isSome = true ↔ '.' ∈ name.toList) := by
  have happend := List.takeWhile_append_dropWhile (p := (· ≠ '.')) (l := name.toList)
  rw [splitTable]
  cases hdrop : name.toList.dropWhile (· ≠ '.') with
  | nil =>
    refine ⟨rfl, iff_of_false Bool.false_ne_true fun hmem => ?_⟩
    simpa using List.dropWhile_eq_nil_iff.1 hdrop _ hmem
  | cons dot table =>
    have hdot : dot = '.' := by
      have hne : name.toList.dropWhile (· ≠ '.') ≠ [] := by
        rw [hdrop]
        exact List.cons_ne_nil dot table
      have hhead := List.head_dropWhile_not (· ≠ '.') hne
      simpa only [hdrop, List.head_cons, decide_eq_false_iff_not, not_not] using hhead
    subst hdot
    rw [hdrop] at happend
    refine ⟨happend, iff_of_true rfl ?_⟩
    rw [← happend]
    exact List.mem_append_right _ List.mem_cons_self

/-- Every table name is read back from its text, with its first dot where it has one, and that
    is the only dot of the text outside quotes. So no two table names are written alike. -/
theorem table_readBack :
    (∀ name : String, readTable (table name).toList = some name.toList ∧
      bareDots (table name).toList = if '.' ∈ name.toList then 1 else 0) ∧
    Function.Injective table := by
  have hread (name : String) : readTable (table name).toList = some name.toList ∧
      bareDots (table name).toList = if '.' ∈ name.toList then 1 else 0 := by
    obtain ⟨hjoined, hdot⟩ := splitTable_spec name
    rw [table]
    rcases hsplit : splitTable name with ⟨first, _ | second⟩
    · rw [hsplit] at hjoined hdot
      have hno : '.' ∉ name.toList := fun hmem => absurd (hdot.2 hmem) Bool.false_ne_true
      simp only [readTable, splitBare_escaped, if_neg hno, bareDots_escaped]
      simp [unquoted_escaped, joined]
    · rw [hsplit] at hjoined hdot
      have htext : (escaped (String.ofList first) ++ "." ++ escaped (String.ofList second)).toList =
          (escaped (String.ofList first)).toList ++
            '.' :: (escaped (String.ofList second)).toList := by
        simp
      simp only [htext, readTable, splitBare_escaped_dot, if_pos (hdot.1 rfl),
        bareDots_escaped_dot]
      simpa [unquoted_escaped] using hjoined
  refine ⟨hread, fun name name' h => ?_⟩
  have hsame := (hread name).1
  rw [h, (hread name').1] at hsame
  exact String.ext (Option.some.inj hsame).symm

end Identifier

end SqlDialects
