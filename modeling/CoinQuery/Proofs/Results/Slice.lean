import CoinQuery.Proofs.Results.Pages
import CoinQuery.Text.Numeral

/-!
# Pages partition the list

A page is a slice of the list, cut out between two places that are computed from its number.  That
the slices neither overlap nor leave anything out rests on how pages are counted: a page behind the
first is counted exactly when the pages in front of it do not hold the whole list
(`lt_pageCount_iff`).  So the places stay within the list, every page in front of the last is full,
and the page shown starts within the list unless it is the first.

The last of these also bounds what is computed on the way.  A page size may be as large as a word
allows, but a page behind the first is smaller than the list, so the sums and products fit a word
whenever the list is shorter than half of what a word can count.  `ResultSet.run_partitions` puts
this together for whatever state the operations lead to.
-/

namespace CoinQuery

open Text

/-- There is a page behind page `n` exactly when `n` full pages do not hold the whole list. -/
lemma lt_pageCount_iff {length pageSize n : Nat} (hsize : 0 < pageSize) (hn : 1 ≤ n) :
    n < pageCount length pageSize ↔ n * pageSize < length := by
  have hfirst : ¬ n < 1 := Nat.not_lt_of_le hn
  rw [pageCount_eq, lt_max_iff, or_iff_right hfirst, ← not_le, ceilDiv_le_iff_le_mul hsize,
    Nat.mul_comm, not_le]

/-- Slices of one size, one behind the other, give the list up to where the last of them ends. -/
lemma flatMap_slices {α : Type} (l : List α) (size n : Nat) :
    ((List.range' 1 n).flatMap fun k => (l.drop ((k - 1) * size)).take size) =
      l.take (n * size) := by
  induction n with
  | zero => simp
  | succ n ih =>
    have hlast : 1 + n - 1 = n := Nat.add_sub_cancel_left 1 n
    rw [List.range'_1_concat, List.flatMap_append, ih, List.flatMap_singleton, hlast, Nat.succ_mul,
      List.take_add]

namespace ResultSet

variable {s : ResultSet} {pageSize n : Nat} {operations : List ResultOperation}

/-! ## Slices -/

/-- The records that are shown when page `n` is asked for. -/
def pageAt (s : ResultSet) (n : Nat) : List Record := (s.setPage n).2.pageSlice

lemma sliceStart_le_sliceStop (s : ResultSet) : s.sliceStart ≤ s.sliceStop :=
  Nat.le_min.mpr ⟨Nat.le_add_right _ _, Nat.min_le_right _ _⟩

lemma sliceStop_le_length (s : ResultSet) : s.sliceStop ≤ s.records.length := Nat.min_le_right _ _

/-- The limits that keep a slice within the list do not show in it. -/
lemma pageSlice_eq (s : ResultSet) :
    s.pageSlice = (s.records.drop s.offset).take s.pageSize := by
  rw [pageSlice, sliceStop, sliceStart]
  rcases Nat.le_total s.offset s.records.length with hle | hle
  · rw [Nat.min_eq_left hle, List.take_eq_take_iff, List.length_drop]
    omega
  · rw [Nat.min_eq_right hle, List.drop_eq_nil_of_le hle, List.drop_length]
    simp

lemma setPage_of_mem (hn : 1 ≤ n ∧ n ≤ s.totalPages) :
    s.setPage n = (true, { s with page := n }) := by
  rw [setPage, if_pos (by simpa using hn)]

lemma setPage_fst_iff : (s.setPage n).1 = true ↔ 1 ≤ n ∧ n ≤ s.totalPages := by
  rw [setPage]
  split
  · rename_i hn
    simpa using hn
  · rename_i hn
    simpa using hn

lemma pageAt_eq (hn : 1 ≤ n ∧ n ≤ s.totalPages) :
    s.pageAt n = (s.records.drop ((n - 1) * s.pageSize)).take s.pageSize := by
  rw [pageAt, setPage_of_mem hn, pageSlice_eq]
  rfl

/-! ## What counting the pages settles -/

lemma Consistent.pageSize_pos (h : s.Consistent pageSize operations) : 0 < s.pageSize := by
  rw [h.pageSize]
  exact Nat.le_max_right _ _

lemma Consistent.lt_totalPages_iff (h : s.Consistent pageSize operations) (hn : 1 ≤ n) :
    n < s.totalPages ↔ n * s.pageSize < s.records.length := by
  rw [h.totalPages]
  exact lt_pageCount_iff h.pageSize_pos hn

/-- All pages together reach to the end of the list. -/
lemma Consistent.length_le (h : s.Consistent pageSize operations) :
    s.records.length ≤ s.totalPages * s.pageSize := by
  have hpages : 1 ≤ s.totalPages := Nat.le_trans h.page.1 h.page.2
  exact Nat.le_of_not_lt fun hlt => Nat.lt_irrefl _ ((h.lt_totalPages_iff hpages).mpr hlt)

/-- A page behind the first starts within the list, and the pages are smaller than the list. -/
lemma Consistent.offset_lt (h : s.Consistent pageSize operations) (hpage : s.page ≠ 1) :
    s.offset < s.records.length ∧ s.pageSize < s.records.length := by
  obtain ⟨hfirst, hlast⟩ := h.page
  have hbefore : 1 ≤ s.page - 1 := by omega
  have hoffset : s.offset < s.records.length := (h.lt_totalPages_iff hbefore).mp (by omega)
  exact ⟨hoffset, Nat.lt_of_le_of_lt (Nat.le_mul_of_pos_left _ hbefore) hoffset⟩

/-- Whatever is computed for a page fits a word. -/
lemma Consistent.fitsWord (h : s.Consistent pageSize operations) (hsize : pageSize < wordLimit)
    (hfew : s.records.length < wordLimit / 2) :
    s.page + 1 < wordLimit ∧ s.offset < wordLimit ∧ s.sliceStart + s.pageSize < wordLimit := by
  have hword : wordLimit = 18446744073709551616 := rfl
  by_cases hpage : s.page = 1
  · have hoffset : s.offset = 0 := by rw [offset, hpage, Nat.sub_self, Nat.zero_mul]
    have hstart : s.sliceStart = 0 := by rw [sliceStart, hoffset, Nat.zero_min]
    have hpageSize := h.pageSize
    omega
  · obtain ⟨hoffset, hsmall⟩ := h.offset_lt hpage
    have hbefore : s.page - 1 ≤ s.offset := Nat.le_mul_of_pos_right _ h.pageSize_pos
    have hstart : s.sliceStart ≤ s.offset := Nat.min_le_left _ _
    omega

/-- The pages one after the other are the list. -/
lemma Consistent.flatMap_pageAt (h : s.Consistent pageSize operations) :
    (List.range' 1 s.totalPages).flatMap s.pageAt = s.records := by
  have hpages : (List.range' 1 s.totalPages).flatMap s.pageAt =
      (List.range' 1 s.totalPages).flatMap fun k =>
        (s.records.drop ((k - 1) * s.pageSize)).take s.pageSize := by
    refine List.flatMap_congr fun n hn => pageAt_eq ?_
    rw [List.mem_range'_1] at hn
    omega
  rw [hpages, flatMap_slices, List.take_of_length_le h.length_le]

lemma Consistent.length_pageAt_of_lt (h : s.Consistent pageSize operations)
    (hn : 1 ≤ n ∧ n < s.totalPages) : (s.pageAt n).length = s.pageSize := by
  have hfull : n * s.pageSize < s.records.length := (h.lt_totalPages_iff hn.1).mp hn.2
  have hends : (n - 1) * s.pageSize + s.pageSize = n * s.pageSize := by
    rw [← Nat.succ_mul, Nat.succ_eq_add_one, Nat.sub_add_cancel hn.1]
  rw [pageAt_eq ⟨hn.1, hn.2.le⟩, List.length_take, List.length_drop]
  omega

lemma Consistent.pageAt_last_ne_nil (h : s.Consistent pageSize operations)
    (hrecords : s.records ≠ []) : s.pageAt s.totalPages ≠ [] := by
  have hpages : 1 ≤ s.totalPages := Nat.le_trans h.page.1 h.page.2
  have hlength : 0 < s.records.length := List.length_pos_iff.mpr hrecords
  have hstart : (s.totalPages - 1) * s.pageSize < s.records.length := by
    by_cases hone : s.totalPages = 1
    · rw [hone, Nat.sub_self, Nat.zero_mul]
      exact hlength
    · exact (h.lt_totalPages_iff (by omega)).mp (by omega)
  have hsize := h.pageSize_pos
  rw [pageAt_eq ⟨hpages, le_rfl⟩, ← List.length_pos_iff, List.length_take, List.length_drop]
  omega

/-! ## Turning pages -/

/-- What the operations of a sequence answer, in order. -/
def replies (s : ResultSet) : List ResultOperation → List (Option Bool)
  | [] => []
  | o :: rest => (s.step o).1 :: (s.step o).2.replies rest

lemma nextPage_of_lt (h : s.page < s.totalPages) :
    s.nextPage = (true, { s with page := s.page + 1 }) :=
  setPage_of_mem ⟨Nat.le_add_left 1 s.page, h⟩

lemma nextPage_of_not_lt (h : ¬ s.page < s.totalPages) : s.nextPage = (false, s) := by
  have hlast : s.totalPages < s.page + 1 := Nat.lt_succ_of_le (Nat.le_of_not_lt h)
  rw [nextPage, setPage, if_neg (by simpa using hlast)]

lemma hasNext_eq (s : ResultSet) : s.hasNext = s.nextPage.1 := by
  by_cases h : s.page < s.totalPages
  · rw [nextPage_of_lt h, hasNext, decide_eq_true h]
  · rw [nextPage_of_not_lt h, hasNext, decide_eq_false h]

lemma hasPrevious_eq (h : s.OnPage) : s.hasPrevious = s.previousPage.1 := by
  rw [hasPrevious, previousPage]
  split
  · rename_i hpage
    have hmem : 1 ≤ s.page - 1 ∧ s.page - 1 ≤ s.totalPages := by
      have hlast := h.2
      omega
    rw [setPage_of_mem hmem, decide_eq_true hpage]
  · rename_i hpage
    exact decide_eq_false hpage

/-- The next page is shown once for each page behind the one shown. -/
lemma count_replies_nextPage (h : s.page ≤ s.totalPages) (n : Nat) :
    (s.replies (List.replicate n .nextPage)).count (some true) =
      min n (s.totalPages - s.page) := by
  induction n generalizing s with
  | zero => simp [replies]
  | succ n ih =>
    rw [List.replicate_succ, replies, step, Prod.map_fst, Prod.map_snd]
    by_cases hlt : s.page < s.totalPages
    · have hturned := ih (s := { s with page := s.page + 1 }) hlt
      have hbehind : min n (s.totalPages - (s.page + 1)) + 1 =
          min (n + 1) (s.totalPages - s.page) := by omega
      rw [nextPage_of_lt hlt, List.count_cons_self, id, hturned]
      exact hbehind
    · rw [nextPage_of_not_lt hlt, List.count_cons_of_ne (by simp), id, ih h]
      omega

/-! ## Runs -/

/-- **Pages partition the list**, after every sequence of operations, for every page size that a
word can hold, as long as the list is shorter than half of what a word can count.  Whatever is
computed for the page shown fits a word, and its slice lies within the list.  The pages from the
first to the last, one after the other, are the list; all but the last are full, and the last is
empty only if the list is.  There is a page behind or in front of the one shown exactly when asking
for it shows it, and whoever asks for the next page again and again, from the first page on, is
shown another one exactly as often as there are pages behind the first. -/
theorem run_partitions (pageSize : Nat) (hsize : pageSize < wordLimit)
    (operations : List ResultOperation)
    (hfew : ((withPageSize pageSize).run operations).records.length < wordLimit / 2) :
    let s := (withPageSize pageSize).run operations
    (1 ≤ s.page ∧ s.page + 1 < wordLimit ∧ (s.page - 1) * s.pageSize < wordLimit ∧
      s.sliceStart + s.pageSize < wordLimit) ∧
    (s.sliceStart ≤ s.sliceStop ∧ s.sliceStop ≤ s.records.length) ∧
    (∀ n, (s.setPage n).1 = true ↔ 1 ≤ n ∧ n ≤ s.totalPages) ∧
    (List.range' 1 s.totalPages).flatMap s.pageAt = s.records ∧
    (∀ n, 1 ≤ n ∧ n < s.totalPages → (s.pageAt n).length = s.pageSize) ∧
    (s.records ≠ [] → s.pageAt s.totalPages ≠ []) ∧
    (s.hasNext = s.nextPage.1 ∧ s.hasPrevious = s.previousPage.1) ∧
    ∀ n, ((s.setPage 1).2.replies (List.replicate n .nextPage)).count (some true) =
      min n (s.totalPages - 1) := by
  intro s
  have h : s.Consistent pageSize operations := consistent_run pageSize operations
  have hpages : 1 ≤ s.totalPages := Nat.le_trans h.page.1 h.page.2
  refine ⟨⟨h.page.1, h.fitsWord hsize hfew⟩, ⟨s.sliceStart_le_sliceStop, s.sliceStop_le_length⟩,
    fun n => setPage_fst_iff, h.flatMap_pageAt, fun n => h.length_pageAt_of_lt,
    h.pageAt_last_ne_nil, ⟨s.hasNext_eq, hasPrevious_eq h.page⟩, ?_⟩
  intro n
  rw [setPage_of_mem ⟨le_rfl, hpages⟩]
  exact count_replies_nextPage (s := { s with page := 1 }) hpages n

/-- One record over a full page takes a page of its own, and the greatest page size holds any list
that fits. -/
theorem run_partitions_one_over :
    let found (region : String) : Record :=
      ⟨[("region", .string region)], by simp [Json.settle?, Json.settleMembers?, Json.putMember]⟩
    let operations : List ResultOperation :=
      [.setResults [found "Attica", found "Thrace", found "Boeotia"], .nextPage]
    let s := (withPageSize 2).run operations
    let whole := (withPageSize (wordLimit - 1)).run operations
    s.pageAt 1 ++ s.pageAt 2 = s.records ∧ (s.pageAt 1).length = 2 ∧ s.pageAt 2 ≠ [] ∧
      whole.sliceStart + whole.pageSize < wordLimit ∧ whole.pageAt 1 = whole.records := by
  intro found operations s whole
  obtain ⟨-, -, -, hpages, hfull, hlast, -⟩ := run_partitions 2 (by decide) operations (by decide)
  obtain ⟨⟨-, -, -, hfits⟩, -, -, hwhole, -⟩ :=
    run_partitions (wordLimit - 1) (by decide) operations (by decide)
  have hlength : s.records.length = 3 := by decide
  have hsize : s.pageSize = 2 := by decide
  have htotal : s.totalPages = 2 := by decide
  have hone : whole.totalPages = 1 := by decide
  refine ⟨?_, ?_, ?_, hfits, ?_⟩
  · calc s.pageAt 1 ++ s.pageAt 2 = (List.range' 1 2).flatMap s.pageAt := by simp [List.range']
      _ = (List.range' 1 s.totalPages).flatMap s.pageAt := by rw [htotal]
      _ = s.records := hpages
  · rw [← hsize]
    exact hfull 1 ⟨le_rfl, by decide⟩
  · rw [← htotal]
    exact hlast (List.ne_nil_of_length_eq_add_one hlength)
  · calc whole.pageAt 1 = (List.range' 1 1).flatMap whole.pageAt := by simp
      _ = (List.range' 1 whole.totalPages).flatMap whole.pageAt := by rw [hone]
      _ = whole.records := hwhole

end ResultSet

end CoinQuery
