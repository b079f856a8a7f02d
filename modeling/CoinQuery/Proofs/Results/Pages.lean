import CoinQuery.Engine.Operation
import CoinQuery.Proofs.Results.Order
import Mathlib.Algebra.Order.Floor.Div

/-!
# What a set of results keeps

A set of results keeps four things that different operations change: the list, the sort last asked
for, the page shown and the number of pages.  They fit together because a new list is sorted and
counted when it comes in, and because a sort reorders the list without changing its length.

`ResultSet.Consistent` is the invariant.  It compares the set with what was asked of it, with the
list that was given last and the sort that was asked for last, whichever of the two came first.  The
main result `ResultSet.run_consistent` says what it means for whoever looks at the results after any
sequence of operations.
-/

namespace CoinQuery

namespace ResultOperation

/-! ## What was asked for -/

/-- The list that an operation brings in. -/
def given? : ResultOperation → Option (List Record)
  | setResults records => some records
  | _ => none

/-- The sort that an operation asks for. -/
def asked? : ResultOperation → Option SortSpec
  | sort spec => some spec
  | _ => none

/-- The list that was given last; before the first there are no records. -/
def lastGiven (operations : List ResultOperation) : List Record :=
  (operations.filterMap given?).getLast?.getD []

/-- The sort that was asked for last. -/
def lastAsked (operations : List ResultOperation) : Option SortSpec :=
  (operations.filterMap asked?).getLast?

lemma lastGiven_concat (operations : List ResultOperation) (o : ResultOperation) :
    lastGiven (operations ++ [o]) = o.given?.getD (lastGiven operations) := by
  rw [lastGiven, List.filterMap_append]
  cases h : o.given? <;> simp [lastGiven, h]

lemma lastAsked_concat (operations : List ResultOperation) (o : ResultOperation) :
    lastAsked (operations ++ [o]) = o.asked?.or (lastAsked operations) := by
  rw [lastAsked, List.filterMap_append]
  cases h : o.asked? <;> simp [lastAsked, h]

end ResultOperation

open ResultOperation

/-! ## Counting pages -/

lemma pageCount_eq (length pageSize : Nat) :
    pageCount length pageSize = max 1 (length ⌈/⌉ pageSize) := by
  rw [pageCount, Nat.ceilDiv_eq_add_pred_div]

/-- No records take one page, whatever its size. -/
lemma pageCount_zero (pageSize : Nat) : pageCount 0 pageSize = 1 := by
  rw [pageCount_eq, zero_ceilDiv]
  rfl

namespace ResultSet

variable {s : ResultSet} {pageSize : Nat} {operations : List ResultOperation}

/-! ## Arranging and turning -/

lemma perm_arranged (spec : Option SortSpec) (records : List Record) :
    (arranged spec records).Perm records := by
  cases spec with
  | none => exact List.Perm.refl records
  | some spec => exact spec.perm_sort records

/-- The page shown is one of the pages. -/
def OnPage (s : ResultSet) : Prop := 1 ≤ s.page ∧ s.page ≤ s.totalPages

/-- Asking for a page shows some page and changes nothing else. -/
lemma exists_page_setPage (h : s.OnPage) (n : Nat) :
    ∃ page, (1 ≤ page ∧ page ≤ s.totalPages) ∧ (s.setPage n).2 = { s with page } := by
  rw [setPage]
  split
  · rename_i hn
    exact ⟨n, by simpa using hn, rfl⟩
  · exact ⟨s.page, h, rfl⟩

lemma exists_page_previousPage (h : s.OnPage) :
    ∃ page, (1 ≤ page ∧ page ≤ s.totalPages) ∧ s.previousPage.2 = { s with page } := by
  rw [previousPage]
  split
  · exact exists_page_setPage h (s.page - 1)
  · exact ⟨s.page, h, rfl⟩

/-! ## The invariant -/

/-- The results after operations on an empty set with pages of this size. -/
structure Consistent (pageSize : Nat) (operations : List ResultOperation) (s : ResultSet) :
    Prop where
  records : s.records.Perm (lastGiven operations)
  sortSpec : s.sortSpec = lastAsked operations
  ordered : ∀ spec, s.sortSpec = some spec → spec.Orders s.records
  pageSize : s.pageSize = max pageSize 1
  totalPages : s.totalPages = pageCount s.records.length s.pageSize
  page : s.OnPage

lemma consistent_withPageSize (pageSize : Nat) : (withPageSize pageSize).Consistent pageSize [] where
  records := List.Perm.refl []
  sortSpec := rfl
  ordered := fun spec h => by cases h
  pageSize := rfl
  totalPages := (pageCount_zero _).symm
  page := ⟨Nat.le_refl 1, Nat.le_refl 1⟩

lemma Consistent.setResults (h : s.Consistent pageSize operations) (records : List Record) :
    (s.setResults records).Consistent pageSize (operations ++ [.setResults records]) where
  records := by
    rw [lastGiven_concat]
    exact perm_arranged s.sortSpec records
  sortSpec := by
    rw [lastAsked_concat]
    exact h.sortSpec
  ordered := by
    intro spec (hspec : s.sortSpec = some spec)
    have harranged : (s.setResults records).records = spec.sort records := by
      rw [ResultSet.setResults, hspec]
      rfl
    rw [harranged]
    exact spec.orders_sort records
  pageSize := h.pageSize
  totalPages := rfl
  page := ⟨Nat.le_refl 1, Nat.le_max_left _ _⟩

lemma Consistent.sort (h : s.Consistent pageSize operations) (spec : SortSpec) :
    (s.sort spec).Consistent pageSize (operations ++ [.sort spec]) where
  records := by
    rw [lastGiven_concat]
    exact (spec.perm_sort s.records).trans h.records
  sortSpec := by
    rw [lastAsked_concat]
    rfl
  ordered := by
    intro asked hasked
    obtain rfl : spec = asked := Option.some.inj hasked
    exact spec.orders_sort s.records
  pageSize := h.pageSize
  totalPages := by
    have hlength : (s.sort spec).records.length = s.records.length :=
      (spec.perm_sort s.records).length_eq
    rw [hlength]
    exact h.totalPages
  page := h.page

/-- Turning to another page. -/
lemma Consistent.turn (h : s.Consistent pageSize operations) {o : ResultOperation}
    (hgiven : o.given? = none) (hasked : o.asked? = none) {page : Nat}
    (hpage : 1 ≤ page ∧ page ≤ s.totalPages) :
    ({ s with page } : ResultSet).Consistent pageSize (operations ++ [o]) where
  records := by
    rw [lastGiven_concat, hgiven]
    exact h.records
  sortSpec := by
    rw [lastAsked_concat, hasked]
    exact h.sortSpec
  ordered := h.ordered
  pageSize := h.pageSize
  totalPages := h.totalPages
  page := hpage

lemma Consistent.step (h : s.Consistent pageSize operations) (o : ResultOperation) :
    (s.step o).2.Consistent pageSize (operations ++ [o]) := by
  cases o with
  | setResults records => exact h.setResults records
  | sort spec => exact h.sort spec
  | setPage n =>
    obtain ⟨page, hpage, hturned⟩ := exists_page_setPage h.page n
    rw [ResultSet.step, Prod.map_snd, hturned]
    exact h.turn rfl rfl hpage
  | nextPage =>
    obtain ⟨page, hpage, hturned⟩ := exists_page_setPage h.page (s.page + 1)
    rw [ResultSet.step, Prod.map_snd, nextPage, hturned]
    exact h.turn rfl rfl hpage
  | previousPage =>
    obtain ⟨page, hpage, hturned⟩ := exists_page_previousPage h.page
    rw [ResultSet.step, Prod.map_snd, hturned]
    exact h.turn rfl rfl hpage

/-! ## Runs -/

/-- The results after a sequence of operations. -/
def run (s : ResultSet) (operations : List ResultOperation) : ResultSet :=
  operations.foldl (fun s o => (s.step o).2) s

lemma run_concat (s : ResultSet) (operations : List ResultOperation) (o : ResultOperation) :
    s.run (operations ++ [o]) = ((s.run operations).step o).2 := by
  simp [run, List.foldl_append]

lemma consistent_run (pageSize : Nat) (operations : List ResultOperation) :
    ((withPageSize pageSize).run operations).Consistent pageSize operations := by
  induction operations using List.reverseRecOn with
  | nil => exact consistent_withPageSize pageSize
  | append_singleton operations o ih =>
    rw [run_concat]
    exact ih.step o

/-- **The results stay consistent** over every sequence of operations, for every page size, where a
page of none holds one.  The records are those given last, up to order.  Once a sort was asked for,
no record comes after one that follows it, by the sort last asked for and the collation of the whole
list.  There are as many pages as the records fill, and at least one, and the page shown is one of
them.  Sorting again leaves the page and the number of pages, and a new list is shown from its first
page. -/
theorem run_consistent (pageSize : Nat) (operations : List ResultOperation) :
    let s := (withPageSize pageSize).run operations
    s.records.Perm (lastGiven operations) ∧
    (∀ spec, lastAsked operations = some spec → spec.Orders s.records) ∧
    s.totalPages = max 1 (s.records.length ⌈/⌉ max pageSize 1) ∧
    (1 ≤ s.page ∧ s.page ≤ s.totalPages) ∧
    (∀ spec, (s.sort spec).page = s.page ∧ (s.sort spec).totalPages = s.totalPages) ∧
    ∀ records, (s.setResults records).page = 1 := by
  intro s
  have h : s.Consistent pageSize operations := consistent_run pageSize operations
  refine ⟨h.records, ?_, ?_, h.page, fun _ => ⟨rfl, rfl⟩, fun _ => rfl⟩
  · intro spec hspec
    exact h.ordered spec (h.sortSpec.trans hspec)
  · rw [h.totalPages, h.pageSize, pageCount_eq]

/-- A sort that was asked for before there were records orders the ones that come later, and pages
are counted and turned as usual. -/
theorem run_consistent_sorted_before :
    let spec : SortSpec := ⟨"region", .descending⟩
    let found (region : String) : Record :=
      ⟨[("region", .string region)], by simp [Json.settle?, Json.settleMembers?, Json.putMember]⟩
    let records := [found "Attica", found "Thrace", found "Boeotia"]
    let operations : List ResultOperation := [.sort spec, .setResults records, .nextPage]
    let s := (withPageSize 2).run operations
    lastAsked operations = some spec ∧ spec.Orders s.records ∧ s.records.Perm records ∧
      s.totalPages = 2 := by
  intro spec found records operations s
  obtain ⟨hrecords, hordered, htotal, -⟩ := run_consistent 2 operations
  refine ⟨rfl, hordered spec rfl, hrecords, ?_⟩
  have hlength : s.records.length = 3 := hrecords.length_eq
  calc s.totalPages = max 1 (3 ⌈/⌉ max 2 1) := by rw [htotal, hlength]
    _ = pageCount 3 2 := (pageCount_eq 3 2).symm
    _ = 2 := by decide

end ResultSet

end CoinQuery
