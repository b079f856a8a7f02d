import CoinQuery.Proofs.Decimal.Binary64
import CoinQuery.Results.Order
import Mathlib.Tactic.Lemma

/-!
# Sorted records

A sort is only as good as its comparison.  Under either collation values compare by a key, numbers
by their rank and texts by their lower-case form, and keys lie on a line; so a collation is a total
preorder on all values, those included that its column never shows it (`Collation.transCmp_order`).
A sort specification compares records by one of their fields, forward or backward, and is a total
preorder again (`SortSpec.transCmp_order`).  `SortSpec.order_isTotalPreorder` spells out what that
promises to a sort.

From that comes what sorting establishes: the records stay the same up to order, and each stands
before those that follow it (`SortSpec.Orders`).  The collation in that statement is the one that
the sorted list has itself, since a list keeps its collation when its order changes.
-/

namespace CoinQuery

open Std

/-! ## Collations -/

namespace FieldValue

/-- The key of a numeric column.  What is no number has none, and comes first. -/
def rank? : FieldValue → Option Int
  | number x => some x.rank
  | _ => none

/-- The key of a text column. -/
def folded (v : FieldValue) : String := Text.lower v.asText

end FieldValue

namespace Collation

lemma order_numeric : numeric.order = compareOn FieldValue.rank? := by
  funext a b
  cases a <;> cases b <;> rfl

lemma order_text : text.order = compareOn FieldValue.folded := rfl

/-- **A collation is a total preorder** on all values. -/
instance transCmp_order (c : Collation) : TransCmp c.order := by
  cases c with
  | numeric =>
    rw [order_numeric]
    infer_instance
  | text =>
    rw [order_text]
    infer_instance

/-- The collation of a list does not depend on the order of its records. -/
lemma ofField_perm {records others : List Record} (h : records.Perm others) (field : String) :
    ofField records field = ofField others field := by
  rw [ofField, ofField, h.all_eq]

end Collation

/-! ## Sort specifications -/

/-- Reversing a comparison leaves it a total preorder. -/
instance SortDirection.transCmp_apply {α : Type} (d : SortDirection) (cmp : α → α → Ordering)
    [TransCmp cmp] : TransCmp fun a b => d.apply (cmp a b) := by
  cases d with
  | ascending => exact inferInstanceAs (TransCmp cmp)
  | descending =>
    have hswap : (fun a b => descending.apply (cmp a b)) = fun a b => cmp b a := by
      funext a b
      exact OrientedCmp.eq_swap.symm
    rw [hswap]
    infer_instance

namespace SortSpec

/-- **A sort specification is a total preorder** on all records, under every collation. -/
instance transCmp_order (spec : SortSpec) (c : Collation) : TransCmp (spec.order c) := by
  have hvalues : TransCmp fun a b => spec.direction.apply (c.order a b) := inferInstance
  exact { eq_swap := hvalues.eq_swap, isLE_trans := hvalues.isLE_trans }

end SortSpec

/-! ## What a sort asks of a comparison -/

/-- Of any two one does not come after the other. -/
lemma isLE_or_isLE {α : Type} (cmp : α → α → Ordering) [TransCmp cmp] (a b : α) :
    ((cmp a b).isLE || (cmp b a).isLE) = true := by
  have hswap : cmp b a = (cmp a b).swap := OrientedCmp.eq_swap
  rw [hswap]
  cases cmp a b <;> rfl

/-- A comparison that a sort can rely on: nothing differs from itself, swapping what is compared
swaps the answer, and "does not come after" is transitive and total. -/
structure IsTotalPreorder {α : Type} (cmp : α → α → Ordering) : Prop where
  refl : ∀ a, cmp a a = .eq
  swap : ∀ a b, cmp b a = (cmp a b).swap
  trans : ∀ a b c, cmp a b ≠ .gt → cmp b c ≠ .gt → cmp a c ≠ .gt
  total : ∀ a b, cmp a b ≠ .gt ∨ cmp b a ≠ .gt

lemma isTotalPreorder_of_transCmp {α : Type} (cmp : α → α → Ordering) [TransCmp cmp] :
    IsTotalPreorder cmp where
  refl a := ReflCmp.compare_self
  swap a b := OrientedCmp.eq_swap
  trans a b c hab hbc := by
    have hle : (cmp a c).isLE = true :=
      TransCmp.isLE_trans (Ordering.isLE_iff_ne_gt.mpr hab) (Ordering.isLE_iff_ne_gt.mpr hbc)
    exact Ordering.isLE_iff_ne_gt.mp hle
  total a b := by
    obtain hab | hba := (Bool.or_eq_true _ _).mp (isLE_or_isLE cmp a b)
    · exact Or.inl (Ordering.isLE_iff_ne_gt.mp hab)
    · exact Or.inr (Ordering.isLE_iff_ne_gt.mp hba)

namespace SortSpec

/-- **A sort compares by a total preorder**, under either collation and in either direction, on all
values of a field and so on all records, those mixed whose values are missing, numbers and texts.
For texts it does not matter how they are lower-cased.  Numbers compare as their bits do when read as
a signed word, after the bits below a sign are flipped; so two numbers compare equal only if they
have the same bits. -/
theorem order_isTotalPreorder :
    (∀ (d : SortDirection) (c : Collation),
      IsTotalPreorder fun a b : FieldValue => d.apply (c.order a b)) ∧
    (∀ (spec : SortSpec) (c : Collation), IsTotalPreorder (spec.order c)) ∧
    (∀ (d : SortDirection) (lower : String → String),
      IsTotalPreorder fun a b : FieldValue => d.apply (compare (lower a.asText) (lower b.asText))) ∧
    ∀ x y : Binary64,
      Collation.numeric.order (.number x) (.number y) =
        compare x.signAdjusted.toInt y.signAdjusted.toInt ∧
      (Collation.numeric.order (.number x) (.number y) = .eq ↔ x = y) := by
  refine ⟨?_, ?_, ?_, ?_⟩
  · intro d c
    exact isTotalPreorder_of_transCmp _
  · intro spec c
    exact isTotalPreorder_of_transCmp _
  · intro d lower
    have htexts : TransCmp (compareOn fun v : FieldValue => lower v.asText) := inferInstance
    exact isTotalPreorder_of_transCmp fun a b =>
      d.apply (compareOn (fun v : FieldValue => lower v.asText) a b)
  · intro x y
    have hranks : Collation.numeric.order (.number x) (.number y) = compare x.rank y.rank := rfl
    rw [hranks]
    constructor
    · rw [x.rank_eq_toInt, y.rank_eq_toInt]
    · rw [Std.compare_eq_iff_eq]
      exact Binary64.rank_injective.eq_iff

/-- No record of the list comes after one that follows it, under the collation that the list has
as a whole. -/
def Orders (spec : SortSpec) (records : List Record) : Prop :=
  records.Pairwise fun a b => spec.order (.ofField records spec.field) a b ≠ .gt

lemma perm_sort (spec : SortSpec) (records : List Record) : (spec.sort records).Perm records :=
  List.mergeSort_perm _ _

/-- Sorting puts in front what does not come after, under the collation of the list. -/
lemma sort_eq_mergeSort (spec : SortSpec) (records : List Record) :
    spec.sort records =
      records.mergeSort fun a b => (spec.order (.ofField records spec.field) a b).isLE := by
  have hle : (fun a b => spec.order (.ofField records spec.field) a b != .gt) =
      fun a b => (spec.order (.ofField records spec.field) a b).isLE := by
    funext a b
    cases spec.order (.ofField records spec.field) a b <;> rfl
  rw [← hle]
  rfl

lemma orders_sort (spec : SortSpec) (records : List Record) : spec.Orders (spec.sort records) := by
  let c := Collation.ofField records spec.field
  have hcollation : Collation.ofField (spec.sort records) spec.field = c :=
    Collation.ofField_perm (spec.perm_sort records) spec.field
  have hsorted := List.pairwise_mergeSort (fun _ _ _ => TransCmp.isLE_trans)
    (isLE_or_isLE (spec.order c)) records
  rw [Orders, hcollation, sort_eq_mergeSort]
  exact hsorted.imp Ordering.isLE_iff_ne_gt.mp

end SortSpec

end CoinQuery
