-- SUMMARY: The text of a window over columns is read back: its keys, their directions and its frame.
import SqlDialects.Proofs.Lexing.Rendering
import SqlDialects.Proofs.Readers.Written
import SqlDialects.Proofs.Rendering

/-!
# Reading windows

The text of a window over columns is read back part by part, each part from the words
it starts with. Keys that are not there and a frame that is not there have no part. An
ascending key is written like the key alone, and is read as that.
-/

namespace SqlDialects

/-! ## Windows over columns -/

namespace Expr

/-- A column, by itself or of a table that has a name. -/
inductive IsColumn : Expr → Prop
  | intro (name : String) {table : Option String} (h : table ≠ some "") :
      IsColumn (.ident name table)

/-- A column to order by, with or without a direction. -/
inductive IsOrderKey : Expr → Prop
  | column {e : Expr} (h : e.IsColumn) : IsOrderKey e
  | ordered {e : Expr} (h : e.IsColumn) (descending : Bool) : IsOrderKey (.ordered e descending)

/-- The key alone, where it is ordered as it is without a direction. -/
def bareAscending : Expr → Expr
  | .ordered e false => e
  | e => e

end Expr

/-- A part of the text of a window. -/
inductive WindowPart
  | partition (keys : List Expr)
  | order (keys : List Expr)
  | frame (bounds : List Value)

namespace WindowPart

def partitionKeys : WindowPart → List Expr
  | .partition keys => keys
  | _ => []

def orderKeys : WindowPart → List Expr
  | .order keys => keys
  | _ => []

def bounds? : WindowPart → Option (List Value)
  | .frame bounds => some bounds
  | _ => none

end WindowPart

namespace Window

/-- The keys of a window are columns, and its frame is a pair of row offsets. -/
structure IsOverColumns (w : Window) : Prop where
  partitionBy : ∀ e ∈ w.partitionBy, e.IsColumn
  orderBy : ∀ e ∈ w.orderBy, e.IsOrderKey
  frame : IsFrame (fun _ => True) w.frame

/-- The parts that are there. -/
def parts (w : Window) : List WindowPart :=
  (if w.partitionBy.isEmpty then [] else [.partition w.partitionBy]) ++
    (if w.orderBy.isEmpty then [] else [.order (w.orderBy.map Expr.bareAscending)]) ++
    w.frame.toList.map .frame

variable {w : Window}

theorem flatMap_partitionKeys_parts : w.parts.flatMap WindowPart.partitionKeys = w.partitionBy := by
  rcases w with ⟨_ | _, _ | _, _ | _, _⟩ <;> simp [parts, WindowPart.partitionKeys]

theorem flatMap_orderKeys_parts :
    w.parts.flatMap WindowPart.orderKeys = w.orderBy.map Expr.bareAscending := by
  rcases w with ⟨_ | _, _ | _, _ | _, _⟩ <;> simp [parts, WindowPart.orderKeys]

theorem findSome?_bounds?_parts : w.parts.findSome? WindowPart.bounds? = w.frame := by
  rcases w with ⟨_ | _, _ | _, _ | _, _⟩ <;> simp [parts, List.findSome?_cons, WindowPart.bounds?]

end Window

open Identifier (isUndelimited)

namespace Reader

variable {d : Dialect} {e : Expr} {s : String} {rest : List Char}

/-! ## Keys -/

def column : Reader Expr := do
  let first ← written
  let second ← optional do expect "."; written
  return match second with
    | some name => .ident name (some first)
    | none => .ident first none

def orderKey : Reader Expr := do
  let key ← column
  let descending ← optional (expect " DESC")
  return if descending.isSome then .ordered key true else key

/-- A column ends where neither a name nor a dot goes on with it. -/
theorem takes_column (he : e.IsColumn) (hs : e.render d = .ok s)
    (hrest : StartsWithout (fun c => isUndelimited c || c == '.') rest) :
    column.Takes s.toList e rest := by
  obtain ⟨hname, hdot⟩ := startsWithout_or hrest
  obtain @⟨name, table, htable⟩ := he
  rw [Expr.render] at hs
  cases hs
  cases table with
  | none =>
    have hnone : (optional do expect "."; written).Takes [] none rest :=
      takes_optional_none (expect_bind_eq_none rfl hdot _)
    rw [qualifiedName, ← String.append_empty (s := Identifier.escaped name)]
    exact (takes_written name hname).next hnone.bind_pure
  | some table =>
    have hne : table ≠ "" := fun heq => htable (by rw [heq])
    rw [qualifiedName, if_neg hne, String.append_assoc]
    exact (takes_written table (.text (by decide) _ rest)).next <|
      (takes_written name hname).expect_next.optional_some.bind_pure

/-- Neither a column nor its direction goes on here. -/
structure EndsKey (rest : List Char) : Prop where
  column : StartsWithout (fun c => isUndelimited c || c == '.') rest
  direction : (expect " DESC").run rest = none

theorem takes_orderKey (he : e.IsOrderKey) (hs : e.render d = .ok s) (hrest : EndsKey rest) :
    orderKey.Takes s.toList e.bareAscending rest := by
  have hbare {key : Expr} {text : String} (hkey : key.IsColumn) (htext : key.render d = .ok text) :
      orderKey.Takes text.toList key rest := by
    have hcolumn := takes_column hkey htext hrest.column
    rw [← String.append_empty (s := text)]
    exact hcolumn.next (takes_optional_none hrest.direction).bind_pure
  cases he with
  | column hcolumn =>
    have heq : e.bareAscending = e := by
      cases hcolumn
      rfl
    rw [heq]
    exact hbare hcolumn hs
  | @ordered key hcolumn descending =>
    rw [Expr.render] at hs
    obtain ⟨text, htext, hs⟩ := bind_eq_ok_iff.1 hs
    cases hs
    cases descending with
    | false => exact hbare hcolumn htext
    | true =>
      have hkey : column.Takes text.toList key (" DESC".toList ++ rest) :=
        takes_column hcolumn htext (.append (by decide) rest)
      exact hkey.next (takes_expect " DESC" rest).optional_some.bind_pure

/-! ## Frames -/

/-- Whether an end of a frame comes before the current row. -/
def precedes : Reader Bool :=
  (do expect "PRECEDING"; return true) <|> (do expect "FOLLOWING"; return false)

def rowOffset : Reader Value := do
  let count ← whole
  expect " "
  let back ← precedes
  return .whole (if back then -count else count)

def unbounded : Reader Value := do
  expect "UNBOUNDED "
  let _ ← precedes
  return .null

/-- An end of a frame. The current row is no row away. -/
def bound : Reader Value :=
  rowOffset <|> unbounded <|> (do expect "CURRENT ROW"; return .whole 0)

def frame : Reader (List Value) := do
  expect "ROWS BETWEEN "
  let start ← bound
  expect " AND "
  let stop ← bound
  return [start, stop]

theorem takes_precedes (back : Bool) (rest : List Char) :
    precedes.Takes (if back then "PRECEDING" else "FOLLOWING").toList back rest := by
  cases back with
  | true => exact (takes_expect "PRECEDING" rest).bind_pure.orElse_left
  | false =>
    exact (takes_expect "FOLLOWING" rest).bind_pure.orElse_right
      (expect_bind_eq_none rfl (.append (by decide) rest) _)

/-- A whole number starts with a digit or a minus, and so does an offset. -/
theorem rowOffset_eq_none {cs : List Char} (h : StartsWithout (fun c => c.isDigit || c == '-') cs) :
    rowOffset.run cs = none := by
  obtain ⟨hdigit, hminus⟩ := startsWithout_or h
  have hsign : (optional (expect "-")).Takes [] none cs :=
    takes_optional_none (expect_eq_none rfl hminus)
  have hnatural : natural.run cs = none := by
    have htake : cs.takeWhile Char.isDigit = [] := by
      cases cs with
      | nil => rfl
      | cons c cs => exact List.takeWhile_cons_of_neg (by simpa using hdigit c rfl)
    rw [StateT.run, natural, htake]
  have hwhole : whole.run cs = none := by
    rw [whole, StateT.run_bind, show (optional (expect "-")).run cs = _ from hsign]
    simp only [Option.bind_eq_bind, Option.bind_some, StateT.run_bind, hnatural]
    rfl
  rw [rowOffset, StateT.run_bind, hwhole]
  rfl

theorem takes_rowOffset (n : Int) (back : Bool) (rest : List Char) :
    rowOffset.Takes (toString n ++ (" " ++ if back then "PRECEDING" else "FOLLOWING")).toList
      (.whole (if back then -n else n)) rest :=
  (takes_whole n (.text (by decide) _ rest)).next (takes_precedes back rest).bind_pure.expect_next

theorem takes_unbounded (back : Bool) (rest : List Char) :
    bound.Takes ("UNBOUNDED " ++ if back then "PRECEDING" else "FOLLOWING").toList .null rest :=
  (takes_precedes back rest).bind_pure.expect_next.orElse_left.orElse_right
    (rowOffset_eq_none (.text (by decide) _ rest))

theorem takes_bound {isStart : Bool} {v : Value} (hv : IsOffset (fun _ => True) v)
    (hs : boundText isStart v = .ok s) (rest : List Char) : bound.Takes s.toList v rest := by
  cases hv with
  | unbounded =>
    cases hs
    have hunbounded := takes_unbounded isStart rest
    cases isStart <;> exact hunbounded
  | @rows n hn =>
    rw [boundText_whole] at hs
    split at hs
    next hzero =>
      cases hs
      rw [hzero]
      exact ((takes_expect "CURRENT ROW" rest).bind_pure.orElse_right
        (expect_bind_eq_none rfl (.append (by decide) rest) _)).orElse_right
        (rowOffset_eq_none (.append (by decide) rest))
    next =>
      split at hs
      next hneg =>
        obtain ⟨count, hcount, hs⟩ := bind_eq_ok_iff.1 hs
        obtain ⟨-, rfl⟩ := wholeText_eq_ok_iff.1 hcount
        cases hs
        have hoffset := (takes_rowOffset (-n) true rest).orElse_left
          (q := unbounded <|> (do expect "CURRENT ROW"; return .whole 0))
        rwa [if_pos rfl, neg_neg] at hoffset
      next hneg =>
        obtain ⟨count, hcount, hs⟩ := bind_eq_ok_iff.1 hs
        obtain ⟨-, rfl⟩ := wholeText_eq_ok_iff.1 hcount
        cases hs
        exact (takes_rowOffset n false rest).orElse_left

/-! ## Parts -/

def windowPart : Reader WindowPart :=
  (do expect "PARTITION BY "; return .partition (← separated ", " column)) <|>
  (do expect "ORDER BY "; return .order (← separated ", " orderKey)) <|>
  (do return .frame (← frame))

def window : Reader (List WindowPart) := do
  expect "("
  let parts ← separated " " windowPart <|> pure []
  expect ")"
  return parts

theorem windowPart_eq_none {cs : List Char}
    (h : StartsWithout (fun c => c == 'P' || c == 'O' || c == 'R') cs) :
    windowPart.run cs = none := by
  obtain ⟨hkeys, hframe⟩ := startsWithout_or h
  obtain ⟨hpartition, horder⟩ := startsWithout_or hkeys
  refine orElse_eq_none (expect_bind_eq_none rfl hpartition _)
    (orElse_eq_none (expect_bind_eq_none rfl horder _) ?_)
  rw [StateT.run_bind, frame, expect_bind_eq_none rfl hframe]
  rfl

/-- No other key goes on here either. -/
structure EndsPart (rest : List Char) : Prop extends EndsKey rest where
  comma : StartsWithout (· == ',') rest

theorem EndsPart.separated {p : Reader Expr} {texts : List String} {keys : List Expr}
    (h : EndsPart rest) (hkeys : TakesEach p EndsKey texts keys) (hne : texts ≠ []) :
    (separated ", " p).Takes (commaSeparated texts).toList keys rest :=
  hkeys.separated hne (fun _ _ => ⟨.append (by decide) _, rfl⟩) (by decide) h.toEndsKey
    (expect_bind_eq_none rfl h.comma _)

/-- The part of a list of keys, and no part where there are no keys. -/
theorem takesEach_listPart {p : Reader Expr} {words : String} {kind : List Expr → WindowPart}
    {texts : List String} {keys : List Expr} (hkeys : TakesEach p EndsKey texts keys)
    (hpart : ∀ {text : String} {rest}, (separated ", " p).Takes text.toList keys rest →
      windowPart.Takes (words ++ text).toList (kind keys) rest) :
    TakesEach windowPart EndsPart (if texts.isEmpty then [] else [words ++ commaSeparated texts])
      (if keys.isEmpty then [] else [kind keys]) := by
  cases hkeys with
  | nil => exact .nil
  | cons hkey hkeys =>
    exact .cons (fun rest hrest =>
      hpart (hrest.separated (.cons hkey hkeys) (List.cons_ne_nil _ _))) .nil

theorem takes_partition {keys : List Expr} {text : String}
    (h : (separated ", " column).Takes text.toList keys rest) :
    windowPart.Takes ("PARTITION BY " ++ text).toList (.partition keys) rest :=
  h.bind_pure.expect_next.orElse_left

theorem takes_order {keys : List Expr} {text : String}
    (h : (separated ", " orderKey).Takes text.toList keys rest) :
    windowPart.Takes ("ORDER BY " ++ text).toList (.order keys) rest :=
  h.bind_pure.expect_next.orElse_left.orElse_right
    (expect_bind_eq_none rfl (.text (by decide) text rest) _)

/-- What starts otherwise than the keys do is read as the frame. -/
theorem takes_bounds {bounds : List Value} (h : IsFrame (fun _ => True) (some bounds))
    (hs : frameText bounds = .ok s) (rest : List Char) :
    windowPart.Takes s.toList (.frame bounds) rest := by
  cases h with
  | rows hstart hstop =>
    rw [frameText] at hs
    obtain ⟨first, hfirst, hs⟩ := bind_eq_ok_iff.1 hs
    obtain ⟨last, hlast, hs⟩ := bind_eq_ok_iff.1 hs
    cases hs
    rw [String.append_assoc, String.append_assoc]
    have hframe : frame.Takes ("ROWS BETWEEN " ++ (first ++ (" AND " ++ last))).toList _ rest :=
      .expect_next <| (takes_bound hstart hfirst _).next <| .expect_next <|
        (takes_bound hstop hlast rest).bind_pure
    exact (hframe.bind_pure.orElse_right
      (expect_bind_eq_none rfl (.text (by decide) _ rest) _)).orElse_right
      (expect_bind_eq_none rfl (.text (by decide) _ rest) _)

theorem takesEach_bounds {frame : Option (List Value)} {text? : Option String}
    (h : IsFrame (fun _ => True) frame) (hs : frame.mapM frameText = .ok text?) :
    TakesEach windowPart EndsPart text?.toList (frame.toList.map .frame) := by
  cases frame with
  | none =>
    cases hs
    exact .nil
  | some bounds =>
    rw [Option.mapM_some, map_eq_pure_bind] at hs
    obtain ⟨text, htext, hs⟩ := bind_eq_ok_iff.1 hs
    cases hs
    exact .cons (fun rest _ => takes_bounds h htext rest) .nil

/-- Where a window is written, each of its parts is read back. -/
theorem exists_takesEach_parts {w : Window} (h : w.IsOverColumns) (hs : w.render d = .ok s) :
    ∃ texts, s = parenthesised (" ".intercalate texts) ∧
      TakesEach windowPart EndsPart texts w.parts := by
  rw [Window.render] at hs
  obtain ⟨partition, hpartition, hs⟩ := bind_eq_ok_iff.1 hs
  obtain ⟨order, horder, hs⟩ := bind_eq_ok_iff.1 hs
  obtain ⟨text?, hframe, hs⟩ := bind_eq_ok_iff.1 hs
  cases hs
  have hcolumns : TakesEach column EndsKey partition w.partitionBy :=
    forall₂_takesBefore (renderAll_eq_ok_iff.1 hpartition) fun key hkey _ htext _ hrest =>
      takes_column (h.partitionBy key hkey) htext hrest.column
  have hkeys : TakesEach orderKey EndsKey order (w.orderBy.map Expr.bareAscending) := by
    rw [TakesEach, List.forall₂_map_right_iff]
    exact forall₂_takesBefore (renderAll_eq_ok_iff.1 horder) fun key hkey _ htext _ hrest =>
      takes_orderKey (h.orderBy key hkey) htext hrest
  have hmapped : (w.orderBy.map Expr.bareAscending).isEmpty = w.orderBy.isEmpty := by simp
  have horders := takesEach_listPart hkeys takes_order
  rw [hmapped] at horders
  exact ⟨_, rfl, List.rel_append (List.rel_append
    (takesEach_listPart hcolumns takes_partition) horders) (takesEach_bounds h.frame hframe)⟩

theorem endsPart_closing : EndsPart (")".toList ++ []) :=
  ⟨⟨.append (by decide) [], rfl⟩, .append (by decide) []⟩

/-- No part starts like a direction, so a part may stand behind another one. -/
theorem endsPart_blank {text : String} {value : WindowPart}
    (h : TakesBefore windowPart EndsPart text value) (cs : List Char) :
    EndsPart (" ".toList ++ (text.toList ++ cs)) := by
  refine ⟨⟨.append (by decide) _, ?_⟩, .append (by decide) _⟩
  have hrun : windowPart.run (text.toList ++ (")".toList ++ [])) = some (value, ")".toList ++ []) :=
    h _ endsPart_closing
  cases htext : text.toList with
  | nil =>
    rw [htext] at hrun
    cases hrun
  | cons c more =>
    have hc : c ≠ 'D' := by
      rintro rfl
      rw [htext, List.cons_append, windowPart_eq_none (.cons rfl _)] at hrun
      cases hrun
    simp [StateT.run, expect, List.dropPrefix?, hc]

/-- The parts end in front of the closing parenthesis, also where there are none. -/
theorem takes_parts {texts : List String} {parts : List WindowPart}
    (h : TakesEach windowPart EndsPart texts parts) :
    (separated " " windowPart <|> pure []).Takes (" ".intercalate texts).toList parts
      (")".toList ++ []) := by
  cases texts with
  | nil =>
    cases h
    exact .orElse_right rfl (takes_pure [] _)
  | cons text texts =>
    exact (h.separated (List.cons_ne_nil _ _) endsPart_blank (by decide) endsPart_closing
      rfl).orElse_left

theorem takes_window {w : Window} (h : w.IsOverColumns) (hs : w.render d = .ok s) :
    window.Takes s.toList w.parts [] := by
  obtain ⟨texts, rfl, hparts⟩ := exists_takesEach_parts h hs
  rw [parenthesised, String.append_assoc]
  exact .expect_next <| (takes_parts hparts).next <| (takes_expect ")" []).bind_pure

end Reader

/-- The text of a window over columns determines its keys, with their directions, and its frame,
    whatever the names hold. An ascending key has the text of the key alone. -/
theorem window_determined_by_text {d d' : Dialect} {w w' : Window} {s : String}
    (h : w.IsOverColumns) (h' : w'.IsOverColumns) (hs : w.render d = .ok s)
    (hs' : w'.render d' = .ok s) :
    w.partitionBy = w'.partitionBy ∧
      w.orderBy.map Expr.bareAscending = w'.orderBy.map Expr.bareAscending ∧
      w.frame = w'.frame := by
  have hread := (Reader.takes_window h hs).readAll
  rw [(Reader.takes_window h' hs').readAll, Option.some.injEq] at hread
  refine ⟨?_, ?_, ?_⟩
  · rw [← w.flatMap_partitionKeys_parts, ← hread, w'.flatMap_partitionKeys_parts]
  · rw [← w.flatMap_orderKeys_parts, ← hread, w'.flatMap_orderKeys_parts]
  · rw [← w.findSome?_bounds?_parts, ← hread, w'.findSome?_bounds?_parts]

/-- A window under a name, by a column of a table whose name says otherwise. -/
def misleadingWindow (order : Expr) (name : Option String) : Window where
  partitionBy := [.ident "a, b" (some "t ORDER BY \"x\"")]
  orderBy := [order]
  frame := some [.whole (-2), .null]
  name := name

theorem window_determined_by_text_ascending :
    let key := Expr.ident "day" none
    let w := misleadingWindow key none
    let w' := misleadingWindow (.ordered key false) (some "w")
    ∃ s, w.render (.standard .ansi) = .ok s ∧ w'.render (.standard .postgres) = .ok s ∧
      w.IsOverColumns ∧ w'.IsOverColumns ∧
      w.orderBy.map Expr.bareAscending = w'.orderBy.map Expr.bareAscending := by
  intro key w w'
  have hpartition : ∀ e ∈ [Expr.ident "a, b" (some "t ORDER BY \"x\"")], e.IsColumn :=
    List.forall_mem_singleton.2 (.intro _ (by decide))
  have hkey : key.IsColumn := .intro _ nofun
  have hw : w.IsOverColumns :=
    ⟨hpartition, List.forall_mem_singleton.2 (.column hkey), .rows (.rows trivial) .unbounded⟩
  have hw' : w'.IsOverColumns :=
    ⟨hpartition, List.forall_mem_singleton.2 (.ordered hkey false),
      .rows (.rows trivial) .unbounded⟩
  obtain ⟨text?, htext⟩ := exists_frame (.rows (.rows (isWritable_of_lt_ten (n := -2) (by decide)))
    .unbounded)
  have hrender (d : Dialect) (order : Expr) (name : Option String)
      (h : order.render d = .ok (Identifier.escaped "day")) :
      (misleadingWindow order name).render d = .ok (windowText
        [qualifiedName (some "t ORDER BY \"x\"") (Identifier.escaped "a, b")]
        [Identifier.escaped "day"] text?) := by
    simp only [Window.render, misleadingWindow, htext, renderAll, h]
    rfl
  have hs := hrender (.standard .ansi) key none rfl
  have hs' := hrender (.standard .postgres) (.ordered key false) (some "w") rfl
  exact ⟨_, hs, hs', hw, hw', (window_determined_by_text hw hw' hs hs').2.1⟩

end SqlDialects
