import CoinQuery.Proofs.Results.Order
import Mathlib.Data.List.Perm.Basic

/-!
# Sorting is stable

A comparison leaves records tied that differ elsewhere, so an order of them is not settled by it.
`SortSpec.sort` keeps tied records as they stood, forward and backward alike, and with that there is
one order only: `SortSpec.Arranges` says of a list that it has the same records, in the order of the
specification, with ties as before, and `sort` gives the one list of which this is true
(`SortSpec.sort_eq_iff`).

What is tied does not depend on the direction.  A sort in some direction therefore leaves nothing
that a later sort by the same field could tell, and the later one comes out as if it were the first
(`SortSpec.sort_stable`).
-/

namespace CoinQuery

open Std

/-! ## Lists in order, with ties as they stood -/

section Ties

variable {α : Type} {cmp : α → α → Ordering} [TransCmp cmp]

/-- In a list in order nothing comes before the head. -/
lemma head_ne_gt {a b : α} {l : List α} (h : (a :: l).Pairwise fun a b => cmp a b ≠ .gt)
    (hb : b ∈ a :: l) : cmp a b ≠ .gt := by
  obtain rfl | hb := List.mem_cons.mp hb
  · have hself : cmp b b = .eq := ReflCmp.compare_self
    rw [hself]
    decide
  · exact List.rel_of_pairwise_cons h hb

/-- A list in order is told by what it contains and by the order within each tie. -/
lemma eq_of_perm_of_ties {l l' : List α} (hperm : l.Perm l')
    (hordered : l.Pairwise fun a b => cmp a b ≠ .gt)
    (hordered' : l'.Pairwise fun a b => cmp a b ≠ .gt)
    (hties : ∀ a, l.filter (cmp · a = .eq) = l'.filter (cmp · a = .eq)) : l = l' := by
  induction l generalizing l' with
  | nil => exact (List.nil_perm.mp hperm).symm
  | cons a l ih =>
    cases l' with
    | nil => exact List.perm_nil.mp hperm
    | cons b l' =>
      -- neither head comes after the other, so they are tied, and each is the first of its tie
      have hself : cmp a a = .eq := ReflCmp.compare_self
      have htied : cmp b a = .eq := by
        have hba : cmp b a ≠ .gt := head_ne_gt hordered' (hperm.mem_iff.mp List.mem_cons_self)
        have hab : cmp a b ≠ .gt := head_ne_gt hordered (hperm.mem_iff.mpr List.mem_cons_self)
        have hswap : cmp a b = (cmp b a).swap := OrientedCmp.eq_swap
        rw [hswap] at hab
        cases h : cmp b a with
        | lt => exact absurd (by rw [h]; rfl) hab
        | eq => rfl
        | gt => exact absurd h hba
      obtain rfl : a = b := by
        have hfirst := congrArg List.head? (hties a)
        rw [List.filter_cons_of_pos (by simpa using hself),
          List.filter_cons_of_pos (by simpa using htied)] at hfirst
        exact Option.some.inj hfirst
      have htail : ∀ c, l.filter (cmp · c = .eq) = l'.filter (cmp · c = .eq) := by
        intro c
        have hc := hties c
        rw [List.filter_cons, List.filter_cons] at hc
        split at hc
        · exact (List.cons.inj hc).2
        · exact hc
      rw [ih ((List.perm_cons a).mp hperm) hordered.tail hordered'.tail htail]

/-- Merge sort leaves each tie as it stood: a tie is in order already. -/
lemma filter_mergeSort (l : List α) (a : α) :
    (l.mergeSort fun b c => (cmp b c).isLE).filter (cmp · a = .eq) =
      l.filter (cmp · a = .eq) := by
  have hordered : (l.filter (cmp · a = .eq)).Pairwise fun b c => (cmp b c).isLE = true := by
    refine List.pairwise_of_forall_mem_list fun b hb c hc => ?_
    have hba : cmp b a = .eq := of_decide_eq_true (List.mem_filter.mp hb).2
    have hca : cmp c a = .eq := of_decide_eq_true (List.mem_filter.mp hc).2
    rw [TransCmp.eq_trans hba (OrientedCmp.eq_symm hca)]
    rfl
  have hsublist := List.sublist_mergeSort (fun _ _ _ => TransCmp.isLE_trans) (isLE_or_isLE cmp)
    hordered List.filter_sublist
  have hties := hsublist.filter (cmp · a = .eq)
  rw [List.filter_filter] at hties
  simp only [Bool.and_self] at hties
  have hlength := ((List.mergeSort_perm l fun b c => (cmp b c).isLE).filter
    (cmp · a = .eq)).length_eq
  exact (hties.eq_of_length hlength.symm).symm

end Ties

/-! ## The stable sort -/

namespace SortSpec

/-- The records that compare equal with `r`, as they stand. -/
def tiedWith (spec : SortSpec) (c : Collation) (r : Record) (records : List Record) : List Record :=
  records.filter (spec.order c · r = .eq)

/-- A list is what a stable sort makes of the records: all of them, in order, and those that compare
equal as they stood. -/
structure Arranges (spec : SortSpec) (records sorted : List Record) : Prop where
  perm : sorted.Perm records
  orders : spec.Orders sorted
  ties : ∀ r, spec.tiedWith (.ofField records spec.field) r sorted =
    spec.tiedWith (.ofField records spec.field) r records

variable {spec : SortSpec} {records sorted : List Record}

lemma arranges_sort (spec : SortSpec) (records : List Record) :
    spec.Arranges records (spec.sort records) where
  perm := spec.perm_sort records
  orders := spec.orders_sort records
  ties r := by
    rw [sort_eq_mergeSort]
    exact filter_mergeSort records r

lemma Arranges.ordered (h : spec.Arranges records sorted) :
    sorted.Pairwise fun a b => spec.order (.ofField records spec.field) a b ≠ .gt := by
  rw [← Collation.ofField_perm h.perm]
  exact h.orders

/-- Records are sorted to the one list in which they are in order, with ties as they stood. -/
lemma sort_eq_iff : spec.sort records = sorted ↔ spec.Arranges records sorted := by
  constructor
  · rintro rfl
    exact spec.arranges_sort records
  · intro h
    have hsort := spec.arranges_sort records
    refine eq_of_perm_of_ties (hsort.perm.trans h.perm.symm) hsort.ordered h.ordered fun r => ?_
    exact (hsort.ties r).trans (h.ties r).symm

/-- Which records are tied does not depend on the direction. -/
lemma tiedWith_direction (field : String) (d d' : SortDirection) (c : Collation) :
    tiedWith ⟨field, d⟩ c = tiedWith ⟨field, d'⟩ c := by
  have happly : ∀ (d : SortDirection) (o : Ordering), d.apply o = .eq ↔ o = .eq := by
    intro d o
    cases d <;> cases o <;> decide
  funext r records
  simp only [tiedWith, order, happly]

/-- What was sorted by the same field before is sorted as if it were not. -/
lemma Arranges.of_sort {field : String} {d d' : SortDirection}
    (h : Arranges ⟨field, d⟩ (sort ⟨field, d'⟩ records) sorted) :
    Arranges ⟨field, d⟩ records sorted := by
  have hperm : (sort ⟨field, d'⟩ records).Perm records := perm_sort _ records
  have hcollation := Collation.ofField_perm hperm field
  refine ⟨h.perm.trans hperm, h.orders, fun r => ?_⟩
  have hties := h.ties r
  rw [hcollation] at hties
  calc tiedWith ⟨field, d⟩ (.ofField records field) r sorted
      = tiedWith ⟨field, d⟩ (.ofField records field) r (sort ⟨field, d'⟩ records) := hties
    _ = tiedWith ⟨field, d'⟩ (.ofField records field) r (sort ⟨field, d'⟩ records) := by
        rw [tiedWith_direction field d d']
    _ = tiedWith ⟨field, d'⟩ (.ofField records field) r records :=
        (arranges_sort ⟨field, d'⟩ records).ties r
    _ = tiedWith ⟨field, d⟩ (.ofField records field) r records := by
        rw [tiedWith_direction field d d']

/-- **Sorting is the stable sort, and forgets earlier directions.**  In either direction a list is
sorted to the one list that has the same records, none of them after one that follows it, with
records that compare equal as they stood.  Its collation is that of every other order of the same
records.  So a sort by a field comes out the same after another sort by that field, in the same
direction or in the other. -/
theorem sort_stable (field : String) (records : List Record) :
    (∀ d sorted, sort ⟨field, d⟩ records = sorted ↔ Arranges ⟨field, d⟩ records sorted) ∧
    (∀ others : List Record, others.Perm records →
      Collation.ofField others field = Collation.ofField records field) ∧
    ∀ d d', sort ⟨field, d⟩ (sort ⟨field, d'⟩ records) = sort ⟨field, d⟩ records := by
  refine ⟨fun d sorted => sort_eq_iff, fun others h => Collation.ofField_perm h field, ?_⟩
  intro d d'
  have htwice := arranges_sort ⟨field, d⟩ (sort ⟨field, d'⟩ records)
  exact (sort_eq_iff.mpr htwice.of_sort).symm

/-- Two spellings of one region are tied, and stay as they stood when the list is sorted forward and
then backward. -/
theorem sort_stable_tied :
    let found (region : String) : Record :=
      ⟨[("region", .string region)], by simp [Json.settle?, Json.settleMembers?, Json.putMember]⟩
    let records := [found "attica", found "Boeotia", found "ATTICA"]
    let others := [found "Boeotia", found "attica", found "ATTICA"]
    others.Perm records ∧ Collation.ofField others "region" = .text ∧
      tiedWith ⟨"region", .descending⟩ .text (found "Attica")
        (sort ⟨"region", .descending⟩ (sort ⟨"region", .ascending⟩ records)) =
      [found "attica", found "ATTICA"] := by
  intro found records others
  obtain ⟨hsort, hcollation, htwice⟩ := sort_stable "region" records
  have hperm : others.Perm records := List.Perm.swap _ _ _
  have htext : Collation.ofField records "region" = .text := by decide
  refine ⟨hperm, (hcollation others hperm).trans htext, ?_⟩
  have hties := ((hsort .descending _).mp rfl).ties (found "Attica")
  let spec : SortSpec := ⟨"region", .descending⟩
  have hlower : spec.order .text (found "attica") (found "Attica") = .eq := by decide
  have hupper : spec.order .text (found "ATTICA") (found "Attica") = .eq := by decide
  have hother : spec.order .text (found "Boeotia") (found "Attica") ≠ .eq := by decide
  rw [htwice, ← htext, hties, htext]
  simp [tiedWith, records, spec, hlower, hupper, hother]

end SortSpec

end CoinQuery
