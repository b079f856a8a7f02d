import CoinQuery.Proofs.Results.Slice
import CoinQuery.Proofs.Results.Classes

/-!
# Groups partition a page

Records are grouped by the text of a field, and those without a text share a key of their own.  That
no value but a missing, null or empty one is without a text has to be read off how values are
written: numbers have digits, and truth values, lists and objects their JSON text
(`Record.asText_field_eq_empty_iff`).

Grouping goes through a page once.  It looks each record's key up among the groups made so far, and
changes them.  What it has made after some records is told without that search: the keys are those
of the records, in the order in which they first occur, and each group holds the records with its
key as they stand (`ResultGroup.Divides`).  One more record keeps this so
(`ResultGroup.Divides.place`), and `ResultSet.groups_partition` says what it comes to for a page.
-/

namespace CoinQuery

/-! ## The texts of values -/

lemma Layout.positionalText_ne_empty (wholePoint : Bool) (d : Decimal) :
    positionalText wholePoint d ≠ "" := by
  simp only [positionalText]
  split
  · simp [String.append_eq_empty_iff]
  · split <;> simp [String.append_eq_empty_iff]

lemma Layout.scientificText_ne_empty (d : Decimal) (leading : Int) :
    scientificText d leading ≠ "" := by
  simp [scientificText, String.append_eq_empty_iff]

/-- Every number has a text, those that are no finite number included. -/
lemma Layout.text_ne_empty (layout : Layout) (x : Binary64) : layout.text x ≠ "" := by
  have hmagnitude : layout.magnitudeText x ≠ "" := by
    simp only [magnitudeText]
    split
    · exact positionalText_ne_empty _ _
    · split
      · exact positionalText_ne_empty _ _
      · exact scientificText_ne_empty _ _
  rw [text]
  split
  · decide
  · intro h
    have hunsigned := (String.append_eq_empty_iff.mp h).2
    split at hunsigned
    · exact hmagnitude hunsigned
    · exact absurd hunsigned (by decide)

/-- A value that is no number and no string is written in words or between brackets. -/
lemma Json.text_ne_empty {j : Json} (hnumber : ∀ n, j ≠ .number n) (hstring : ∀ s, j ≠ .string s) :
    j.text ≠ "" := by
  cases j with
  | null => simp [text, append]
  | bool b => cases b <;> simp [text, append]
  | number n => exact absurd rfl (hnumber n)
  | string s => exact absurd rfl (hstring s)
  | array items => simp [text, append]
  | object members => simp [text, append]
  | unreadable => simp [text, append]

lemma FieldValue.isBlank_iff (v : FieldValue) : v.isBlank = true ↔ v.asText = "" := by
  cases v with
  | missing => simp [isBlank, asText]
  | number x => simpa [isBlank, asText] using numberLayout.text_ne_empty x
  | text s => simp [isBlank, asText]

/-- The values without a text. -/
lemma Record.asText_field_eq_empty_iff (r : Record) (name : String) :
    (r.field name).asText = "" ↔
      r.fields.get? name = none ∨ r.fields.get? name = some .null ∨
        r.fields.get? name = some (.string "") := by
  rw [field]
  split
  · simp_all [FieldValue.asText]
  · simp_all [FieldValue.asText]
  · rename_i n hn
    simpa [hn, FieldValue.asText] using FieldValue.numberLayout.text_ne_empty n.toBinary64
  · simp_all [FieldValue.asText]
  · rename_i j hnull hnumber hstring hj
    have htext : j.text ≠ "" := Json.text_ne_empty hnumber hstring
    simp_all [FieldValue.asText]

namespace ResultGroup

variable {field key : String} {r : Record} {records : List Record} {groups : List ResultGroup}

lemma keyOf_eq (field : String) (r : Record) :
    keyOf field r =
      if (r.field field).asText = "" then uncategorized else (r.field field).asText := by
  rw [keyOf]
  exact if_congr (FieldValue.isBlank_iff _) rfl rfl

/-! ## Placing a record -/

/-- A group with one record more. -/
def extend (r : Record) (g : ResultGroup) : ResultGroup := { g with records := g.records ++ [r] }

lemma place_of_not_mem (h : key ∉ groups.map ResultGroup.key) :
    place key r groups = groups ++ [⟨key, [r]⟩] := by
  induction groups with
  | nil => rfl
  | cons g groups ih =>
    rw [List.map_cons, List.mem_cons, not_or] at h
    rw [place, if_neg (Ne.symm h.1), ih h.2, List.cons_append]

/-- Where keys are distinct the search finds the one group there is. -/
lemma place_of_mem (hkeys : (groups.map ResultGroup.key).Nodup)
    (h : key ∈ groups.map ResultGroup.key) :
    place key r groups = groups.map fun g => if g.key = key then g.extend r else g := by
  induction groups with
  | nil => cases h
  | cons g groups ih =>
    rw [List.map_cons, List.nodup_cons] at hkeys
    rw [List.map_cons, List.mem_cons] at h
    rw [place, List.map_cons]
    by_cases hg : g.key = key
    · have hothers : (groups.map fun g => if g.key = key then g.extend r else g) = groups := by
        refine (List.map_congr_left fun g' hg' => if_neg fun heq => hkeys.1 ?_).trans
          (List.map_id' groups)
        rw [hg, ← heq]
        exact List.mem_map_of_mem hg'
      rw [if_pos hg, if_pos hg, hothers]
      rfl
    · rw [if_neg hg, if_neg hg, ih hkeys.2 (h.resolve_left (Ne.symm hg))]

/-! ## What the groups of a list are -/

def keysOf (field : String) (records : List Record) : List String := records.map (keyOf field)

lemma keysOf_concat (field : String) (records : List Record) (r : Record) :
    keysOf field (records ++ [r]) = keysOf field records ++ [keyOf field r] := by
  rw [keysOf, List.map_append]
  rfl

lemma keyOf_mem_keysOf (field : String) (h : r ∈ records) : keyOf field r ∈ keysOf field records :=
  List.mem_map_of_mem h

/-- The first occurrence of `k` stands in front of the first occurrence of `k'`. -/
def Precedes (keys : List String) (k k' : String) : Prop := keys.idxOf k < keys.idxOf k'

/-- Keys that occur keep their order, whatever comes behind them. -/
lemma Precedes.concat {keys : List String} {k k' : String} (h : Precedes keys k k') (hk : k ∈ keys)
    (hk' : k' ∈ keys) (last : String) : Precedes (keys ++ [last]) k k' := by
  rw [Precedes, List.idxOf_append_of_mem hk, List.idxOf_append_of_mem hk']
  exact h

/-- A key that did not occur comes behind those that did. -/
lemma precedes_last {keys : List String} {k last : String} (hk : k ∈ keys) (hlast : last ∉ keys) :
    Precedes (keys ++ [last]) k last := by
  rw [Precedes, List.idxOf_append_of_mem hk, List.idxOf_append_of_notMem hlast]
  exact Nat.lt_add_right _ (List.idxOf_lt_length_iff.mpr hk)

/-- The groups of a list by a field: their keys are those of the records, in the order in which they
first occur, and each holds the records with its key. -/
structure Divides (field : String) (records : List Record) (groups : List ResultGroup) : Prop where
  keys : ∀ k, k ∈ groups.map ResultGroup.key ↔ k ∈ keysOf field records
  ordered : (groups.map ResultGroup.key).Pairwise (Precedes (keysOf field records))
  records : ∀ g ∈ groups, g.records = records.filter (keyOf field · = g.key)

lemma divides_nil (field : String) : Divides field [] [] where
  keys _ := Iff.rfl
  ordered := List.Pairwise.nil
  records _ h := by cases h

lemma Divides.nodup (h : Divides field records groups) : (groups.map ResultGroup.key).Nodup := by
  refine h.ordered.imp ?_
  rintro k _ hlt rfl
  exact Nat.lt_irrefl _ hlt

/-- The keys keep their order when one more record is read. -/
lemma Divides.ordered_concat (h : Divides field records groups) (r : Record) :
    (groups.map ResultGroup.key).Pairwise (Precedes (keysOf field (records ++ [r]))) := by
  rw [keysOf_concat]
  refine h.ordered.imp_of_mem fun hk hk' hlt => ?_
  exact hlt.concat ((h.keys _).mp hk) ((h.keys _).mp hk') _

/-- A record whose key occurred goes into its group. -/
lemma Divides.extend (h : Divides field records groups)
    (hkey : keyOf field r ∈ groups.map ResultGroup.key) :
    Divides field (records ++ [r])
      (groups.map fun g => if g.key = keyOf field r then g.extend r else g) := by
  have hsame : (groups.map fun g => if g.key = keyOf field r then g.extend r else g).map
      ResultGroup.key = groups.map ResultGroup.key := by
    rw [List.map_map]
    refine List.map_congr_left fun g _ => ?_
    by_cases hg : g.key = keyOf field r <;> simp [hg, ResultGroup.extend]
  refine ⟨fun k => ?_, ?_, fun g hg => ?_⟩
  · rw [hsame, keysOf_concat, List.mem_append, List.mem_singleton, ← h.keys]
    exact ⟨Or.inl, fun hk => hk.elim id fun heq => heq ▸ hkey⟩
  · rw [hsame]
    exact h.ordered_concat r
  · obtain ⟨old, hold, rfl⟩ := List.mem_map.mp hg
    rw [List.filter_append]
    by_cases hmatch : old.key = keyOf field r
    · simp [hmatch, ResultGroup.extend, h.records old hold]
    · simp [hmatch, h.records old hold, Ne.symm hmatch]

/-- A record with a new key opens a group behind the others. -/
lemma Divides.concat (h : Divides field records groups)
    (hkey : keyOf field r ∉ groups.map ResultGroup.key) :
    Divides field (records ++ [r]) (groups ++ [⟨keyOf field r, [r]⟩]) := by
  have hnew : keyOf field r ∉ keysOf field records := fun hmem => hkey ((h.keys _).mpr hmem)
  have hkeys : (groups ++ [(⟨keyOf field r, [r]⟩ : ResultGroup)]).map ResultGroup.key =
      groups.map ResultGroup.key ++ [keyOf field r] := List.map_append
  refine ⟨fun k => ?_, ?_, fun g hg => ?_⟩
  · rw [hkeys, keysOf_concat, List.mem_append, List.mem_append, h.keys]
  · rw [hkeys, List.pairwise_append]
    refine ⟨h.ordered_concat r, List.pairwise_singleton _ _, fun k hk k' hk' => ?_⟩
    obtain rfl := List.mem_singleton.mp hk'
    rw [keysOf_concat]
    exact precedes_last ((h.keys k).mp hk) hnew
  · rw [List.filter_append]
    rcases List.mem_append.mp hg with hold | hlast
    · have hother : keyOf field r ≠ g.key := fun heq => hkey (heq ▸ List.mem_map_of_mem hold)
      simp [h.records g hold, hother]
    · obtain rfl := List.mem_singleton.mp hlast
      have hnone : records.filter (keyOf field · = keyOf field r) = [] := by
        refine List.filter_eq_nil_iff.mpr fun other hother heq => hnew ?_
        exact of_decide_eq_true heq ▸ keyOf_mem_keysOf field hother
      simp [hnone]

lemma Divides.place (h : Divides field records groups) (r : Record) :
    Divides field (records ++ [r]) (place (keyOf field r) r groups) := by
  by_cases hkey : keyOf field r ∈ groups.map ResultGroup.key
  · rw [place_of_mem h.nodup hkey]
    exact h.extend hkey
  · rw [place_of_not_mem hkey]
    exact h.concat hkey

/-- What going through a list makes of no groups. -/
lemma divides_ofRecords (field : String) (records : List Record) :
    Divides field records (ofRecords field records) := by
  induction records using List.reverseRecOn with
  | nil => exact divides_nil field
  | append_singleton records r ih =>
    rw [ofRecords, List.foldl_append]
    exact ih.place r

/-- The groups together hold every record once. -/
lemma Divides.perm (h : Divides field records groups) :
    (groups.flatMap ResultGroup.records).Perm records := by
  have hclasses : groups.flatMap ResultGroup.records =
      (groups.map ResultGroup.key).flatMap fun k => records.filter (keyOf field · = k) := by
    rw [List.flatMap_map]
    exact List.flatMap_congr h.records
  rw [hclasses]
  exact perm_flatMap_filter h.nodup fun r hr => (h.keys _).mpr (keyOf_mem_keysOf field hr)

lemma Divides.records_ne_nil (h : Divides field records groups) {g : ResultGroup}
    (hg : g ∈ groups) : g.records ≠ [] := by
  obtain ⟨r, hr, hkey⟩ := List.mem_map.mp ((h.keys g.key).mp (List.mem_map_of_mem hg))
  rw [h.records g hg]
  exact List.ne_nil_of_mem (List.mem_filter.mpr ⟨hr, decide_eq_true hkey⟩)

end ResultGroup

namespace ResultSet

open ResultGroup

/-- **Groups partition a page**, whatever the results and the field.  The key of a record is the
text of its field, or that of the uncategorized where this text is empty, which it is exactly for a
value that is missing, null or the empty string.  The keys of the groups differ from each other and
come in the order in which they first occur on the page.  No group is empty, and each holds the
records of the page with its key, as they stand on the page.  So together the groups hold the
records of the page, each as often as it stands there; and the page is the part of the list between
the places that its number names. -/
theorem groups_partition (s : ResultSet) (field : String) :
    let groups := s.groups field
    (∀ r, keyOf field r =
      if (r.field field).asText = "" then "uncategorized" else (r.field field).asText) ∧
    (∀ r : Record, (r.field field).asText = "" ↔
      r.fields.get? field = none ∨ r.fields.get? field = some .null ∨
        r.fields.get? field = some (.string "")) ∧
    (groups.map ResultGroup.key).Nodup ∧
    (groups.map ResultGroup.key).Pairwise (Precedes (s.pageSlice.map (keyOf field))) ∧
    (∀ g ∈ groups, g.records ≠ [] ∧ g.records = s.pageSlice.filter (keyOf field · = g.key)) ∧
    (groups.flatMap ResultGroup.records).Perm s.pageSlice ∧
    s.pageSlice = (s.records.drop ((s.page - 1) * s.pageSize)).take s.pageSize := by
  intro groups
  have h : Divides field s.pageSlice groups := divides_ofRecords field s.pageSlice
  refine ⟨keyOf_eq field, fun r => r.asText_field_eq_empty_iff field, h.nodup, h.ordered, ?_,
    h.perm, s.pageSlice_eq⟩
  intro g hg
  exact ⟨h.records_ne_nil hg, h.records g hg⟩

/-- Records without a text fall into one group with those whose text is the key of that group, and
the records of the next page into none. -/
theorem groups_partition_uncategorized :
    let found (region : Json) (h : region.settle? = some region) : Record :=
      ⟨[("region", region)], by simp [Json.settle?, Json.settleMembers?, Json.putMember, h]⟩
    let named := found (.string "uncategorized") rfl
    let records := [named, found (.bool true) rfl, found (.string "") rfl, found .null rfl, named]
    let s := (withPageSize 4).run [.setResults records]
    let groups := s.groups "region"
    groups.map ResultGroup.key = ["uncategorized", "true"] ∧
      (groups.flatMap ResultGroup.records).Perm s.pageSlice ∧
      ∀ g ∈ groups.head?, g.records = s.pageSlice.filter (keyOf "region" · = "uncategorized") ∧
        g.records.length = 3 := by
  intro found named records s groups
  obtain ⟨-, -, -, -, hrecords, hperm, -⟩ := groups_partition s "region"
  have hkeys : groups.map ResultGroup.key = ["uncategorized", "true"] := by decide
  have hlengths : groups.map (·.records.length) = [3, 1] := by decide
  refine ⟨hkeys, hperm, fun g hg => ?_⟩
  have hmem : g ∈ groups := List.mem_of_mem_head? hg
  have hkey : g.key = "uncategorized" := by
    have hfirst : (groups.map ResultGroup.key).head? = some g.key := by rw [List.head?_map, hg]; rfl
    rw [hkeys] at hfirst
    exact (Option.some.inj hfirst).symm
  have hlength : g.records.length = 3 := by
    have hfirst : (groups.map (·.records.length)).head? = some g.records.length := by
      rw [List.head?_map, hg]
      rfl
    rw [hlengths] at hfirst
    exact (Option.some.inj hfirst).symm
  rw [← hkey]
  exact ⟨(hrecords g hmem).2, hlength⟩

end ResultSet

end CoinQuery
