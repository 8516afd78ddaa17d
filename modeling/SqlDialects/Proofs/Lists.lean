-- SUMMARY: Lists related item by item, steps that are taken for each item of a list, and lists without repetition.
import Mathlib.Data.List.Forall2
import SqlDialects.Proofs.Steps

/-!
# Lists

A step taken for each item of a list gives a list of results exactly when the two lists
are related item by item, by what the step gives. So what is known of an item tells about
the item in its place in the other list.

Sorting what is kept of a list, each entry once, gives a strictly increasing list.
-/

namespace SqlDialects

variable {α β γ ε : Type} {R : α → β → Prop} {xs : List α} {ys : List β}

/-! ## Items in their places -/

theorem exists_forall₂ (h : ∀ x ∈ xs, ∃ y, R x y) : ∃ ys, List.Forall₂ R xs ys := by
  induction xs with
  | nil => exact ⟨[], .nil⟩
  | cons x xs ih =>
    obtain ⟨hx, hxs⟩ := List.forall_mem_cons.1 h
    obtain ⟨y, hy⟩ := hx
    obtain ⟨ys, hys⟩ := ih hxs
    exact ⟨y :: ys, .cons hy hys⟩

theorem exists_of_getElem?_left (h : List.Forall₂ R xs ys) {i : Nat} {x : α}
    (hx : xs[i]? = some x) : ∃ y, ys[i]? = some y ∧ R x y := by
  obtain ⟨hi, rfl⟩ := List.getElem?_eq_some_iff.1 hx
  have hi' : i < ys.length := h.length_eq ▸ hi
  exact ⟨ys[i], List.getElem?_eq_getElem hi', h.get hi hi'⟩

theorem exists_of_getElem?_right (h : List.Forall₂ R xs ys) {i : Nat} {y : β}
    (hy : ys[i]? = some y) : ∃ x, xs[i]? = some x ∧ R x y :=
  exists_of_getElem?_left (R := flip R) h.flip hy

theorem exists_of_mem_left (h : List.Forall₂ R xs ys) {x : α} (hx : x ∈ xs) :
    ∃ y ∈ ys, R x y := by
  obtain ⟨i, hi⟩ := List.getElem?_of_mem hx
  obtain ⟨y, hy, hxy⟩ := exists_of_getElem?_left h hi
  exact ⟨y, List.mem_of_getElem? hy, hxy⟩

theorem exists_of_mem_right (h : List.Forall₂ R xs ys) {y : β} (hy : y ∈ ys) :
    ∃ x ∈ xs, R x y :=
  exists_of_mem_left (R := flip R) h.flip hy

/-- Two lists that correspond do so by what their items are known to satisfy. -/
theorem forall₂_imp_of_mem {S : α → β → Prop} (h : List.Forall₂ R xs ys)
    (himp : ∀ x ∈ xs, ∀ y, R x y → S x y) : List.Forall₂ S xs ys := by
  induction h with
  | nil => exact .nil
  | cons hxy _ ih =>
    obtain ⟨hx, hxs⟩ := List.forall_mem_cons.1 himp
    exact .cons (hx _ hxy) (ih hxs)

/-! ## A step for each item -/

theorem mapM_eq_ok_iff {f : α → Except ε β} :
    xs.mapM f = .ok ys ↔ List.Forall₂ (fun x y => f x = .ok y) xs ys := by
  induction xs generalizing ys with
  | nil => rw [List.mapM_nil, pure_eq_ok_iff, List.forall₂_nil_left_iff, eq_comm]
  | cons x xs ih =>
    simp only [List.mapM_cons, bind_eq_ok_iff, pure_eq_ok_iff, List.forall₂_cons_left_iff, ih]
    constructor
    · rintro ⟨y, hy, more, hmore, rfl⟩
      exact ⟨y, more, hy, hmore, rfl⟩
    · rintro ⟨y, more, hy, hmore, rfl⟩
      exact ⟨y, hy, more, hmore, rfl⟩

theorem mapM_map_eq_ok {f : α → Except ε β} {item : γ → α} {value : γ → β}
    (h : ∀ x, f (item x) = .ok (value x)) (xs : List γ) :
    (xs.map item).mapM f = .ok (xs.map value) := by
  rw [mapM_eq_ok_iff, List.forall₂_map_left_iff, List.forall₂_map_right_iff]
  exact List.forall₂_same.2 fun x _ => h x

theorem mapM_congr {f : α → Except ε γ} {g : β → Except ε γ}
    (h : List.Forall₂ (fun x y => f x = g y) xs ys) : xs.mapM f = ys.mapM g := by
  induction h with
  | nil => rfl
  | cons hxy _ ih => rw [List.mapM_cons, List.mapM_cons, ih, hxy]

/-! ## Lists without repetition -/

theorem nodup_eraseDups [BEq α] [LawfulBEq α] (as : List α) : as.eraseDups.Nodup := by
  induction h : as.length using Nat.strongRecOn generalizing as with
  | _ n ih =>
    subst h
    cases as with
    | nil => exact List.Pairwise.nil
    | cons a rest =>
      rw [List.eraseDups_cons, List.nodup_cons]
      refine ⟨?_, ih _ (Nat.lt_succ_of_le (List.length_filter_le _ rest)) _ rfl⟩
      rw [List.mem_eraseDups, List.mem_filter]
      simp

/-- Sorted numbers without repetition are in strictly increasing order. -/
theorem pairwise_lt_sorted (ns : List Int) : (ns.eraseDups.mergeSort (· ≤ ·)).Pairwise (· < ·) := by
  have hsorted : (ns.eraseDups.mergeSort (· ≤ ·)).Pairwise fun a b => decide (a ≤ b) = true :=
    List.pairwise_mergeSort (fun a b c => by simpa using Int.le_trans)
      (fun a b => by simpa using Int.le_total a b) ns.eraseDups
  have hdistinct := (List.mergeSort_perm ns.eraseDups (· ≤ ·)).nodup_iff.2 (nodup_eraseDups ns)
  refine (hsorted.and hdistinct).imp fun hab => ?_
  have hle := of_decide_eq_true hab.1
  exact Int.lt_iff_le_and_ne.2 ⟨hle, hab.2⟩

theorem mem_sorted (ns : List Int) (n : Int) :
    n ∈ ns.eraseDups.mergeSort (· ≤ ·) ↔ n ∈ ns := by
  rw [(List.mergeSort_perm ns.eraseDups (· ≤ ·)).mem_iff, List.mem_eraseDups]

end SqlDialects
