import CoinQuery.Proofs.Coin.Portable
import CoinQuery.Proofs.Results.Classes
import CoinQuery.Service.Recommendations

/-!
# Recommendations listed and looked up

The result of a lookup names its tables freely: a category has several names, and blanks and the
case of letters do not matter.  So several tables of one result may stand for one category
(`Recommendations.tables`).  The listing shows each of them, by category and in the order of the
result, with the rows that are objects, and the length counts what is shown.  Looking up a category,
and with it picking a row by its index, finds the first table only.

`Recommendations.ofResult_lists` says when this makes a difference: exactly when a table that is not
the first of its category has a row.  Then the row is shown and counted, and no index picks it
(`Recommendations.ofResult_hides_row`).
-/

namespace CoinQuery

/-! ## Rows -/

def Json.isObject : Json → Bool
  | object _ => true
  | _ => false

lemma Item.isObject_toJson (item : Item) : item.toJson.isObject = true := rfl

/-- The items that are read of settled rows are the objects among these, as they stand. -/
lemma Item.map_toJson_filterMap {rows : List Json} (h : ∀ row ∈ rows, row.settle? = some row) :
    (rows.filterMap ofJson?).map toJson = rows.filter Json.isObject := by
  induction rows with
  | nil => rfl
  | cons row rows ih =>
    have hrows := ih fun other hother => h other (List.mem_cons_of_mem row hother)
    cases row with
    | object members =>
      have hread : ofJson? (.object members) = some ⟨⟨members, h _ List.mem_cons_self⟩⟩ :=
        ofJson?_toJson ⟨⟨members, h _ List.mem_cons_self⟩⟩
      rw [List.filterMap_cons_some hread, List.map_cons, hrows,
        List.filter_cons_of_pos (by rfl)]
      rfl
    | _ => exact hrows

lemma Json.settle?_of_mem_array {rows : List Json} (h : settle? (array rows) = some (array rows)) :
    ∀ row ∈ rows, settle? row = some row := by
  have hrows : settleItems? rows = some rows := by simpa [settle?] using h
  exact List.forall₂_same.mp (settleItems?_forall₂ hrows)

lemma Json.Fields.settle?_of_mem {fields : Fields} {member : String × Json}
    (h : member ∈ fields.members) : settle? member.2 = some member.2 := by
  have hmembers : settleMembers? fields.members = some fields.members := by
    simpa [settle?] using fields.settled
  exact (settled_of_settleMembers? hmembers).2 member h

lemma Category.index_injective : Function.Injective index := by
  intro a b h
  cases a <;> cases b <;> first | rfl | cases h

namespace Recommendations

/-! ## What is shown -/

/-- The rows of a table, if it is a list and stands for the category: those that are objects. -/
def rowsUnder? (category : Category) : String × Json → Option (List Json)
  | (name, .array rows) =>
    if Category.named name = .ok category then some (rows.filter Json.isObject) else none
  | _ => none

/-- The tables of a result that stand for a category, in the order of the result. -/
def tables (result : Json.Fields) (category : Category) : List (List Json) :=
  result.members.filterMap (rowsUnder? category)

/-- The lists that are shown under a category, in the order in which they are shown. -/
def shown (r : Recommendations) (category : Category) : List (List Item) :=
  (r.entries.filter (·.1 = category)).map Prod.snd

variable {result : Json.Fields} {category : Category}

/-- Sorting by category leaves the entries of one category as they stood. -/
lemma filter_entries_ofResult (result : Json.Fields) (category : Category) :
    (ofResult result).entries.filter (·.1 = category) =
      (result.members.filterMap entry?).filter (·.1 = category) := by
  let byCategory := compareOn fun e : Category × List Item => e.1.index
  have hle : (fun a b : Category × List Item => decide (a.1.index ≤ b.1.index)) =
      fun a b => (byCategory a b).isLE := by
    funext a b
    exact Bool.eq_iff_iff.mpr (decide_eq_true_iff.trans Nat.isLE_compare.symm)
  have htied : (fun e : Category × List Item => decide (e.1 = category)) =
      fun e => decide (byCategory e (category, []) = .eq) := by
    funext e
    exact decide_eq_decide.mpr (Category.index_injective.eq_iff.symm.trans Nat.compare_eq_eq.symm)
  rw [htied, ofResult, hle]
  exact filter_mergeSort _ _

/-- An entry is made of every list whose name stands for a category. -/
lemma entry?_array (name : String) (rows : List Json) :
    entry? (name, .array rows) =
      (Category.named name).toOption.map fun c => (c, rows.filterMap Item.ofJson?) := by
  have hhierarchy : (Category.named Scope.hierarchyTable).toOption = none := by decide +kernel
  unfold entry?
  split
  · rename_i hname
    obtain rfl : name = Scope.hierarchyTable := hname
    rw [hhierarchy, Option.map_none]
  · cases hnamed : Category.named name with
    | ok c => simp [rows?, Except.toOption]
    | error e => simp [rows?, Except.toOption]

lemma entry?_of_not_array {value : Json} (h : rows? value = none) (name : String) :
    entry? (name, value) = none := by
  unfold entry?
  split
  · rfl
  · simp [h]

/-- What is shown of a table are its rows. -/
lemma map_toJson_entry? {member : String × Json} (hmember : member ∈ result.members)
    (category : Category) :
    Option.map (fun e => e.2.map Item.toJson)
        (Option.filter (fun e => decide (e.1 = category)) <| entry? member) =
      rowsUnder? category member := by
  obtain ⟨name, value⟩ := member
  cases value with
  | array rows =>
    have hrows : ∀ row ∈ rows, row.settle? = some row :=
      Json.settle?_of_mem_array (Json.Fields.settle?_of_mem hmember)
    rw [entry?_array, rowsUnder?]
    cases hnamed : Category.named name with
    | error e => simp [Except.toOption]
    | ok c =>
      by_cases hc : c = category
      · simp [Except.toOption, hc, Item.map_toJson_filterMap hrows]
      · simp [Except.toOption, hc]
  | _ =>
    rw [entry?_of_not_array rfl]
    rfl

lemma map_toJson_shown_ofResult (result : Json.Fields) (category : Category) :
    ((ofResult result).shown category).map (·.map Item.toJson) = tables result category := by
  rw [shown, filter_entries_ofResult, tables, List.filter_filterMap, List.map_filterMap,
    List.map_filterMap]
  refine List.filterMap_congr fun member hmember => ?_
  rw [← map_toJson_entry? hmember, Option.map_map]
  rfl

/-- The lists shown are those that are written as the rows of the tables. -/
lemma shown_ofResult_eq_iff {lists : List (List Item)} :
    (ofResult result).shown category = lists ↔
      tables result category = lists.map (·.map Item.toJson) := by
  have hinjective : Function.Injective Item.toJson := fun _ _ h => Item.lawful.write_injective h
  rw [← map_toJson_shown_ofResult]
  exact (List.map_injective_iff.mpr (List.map_injective_iff.mpr hinjective)).eq_iff.symm

/-- The listing goes by category. -/
lemma pairwise_entries_ofResult (result : Json.Fields) :
    (ofResult result).entries.Pairwise fun a b => a.1.index ≤ b.1.index := by
  have htrans : ∀ a b c : Category × List Item, decide (a.1.index ≤ b.1.index) = true →
      decide (b.1.index ≤ c.1.index) = true → decide (a.1.index ≤ c.1.index) = true := by
    simp only [decide_eq_true_eq]
    exact fun _ _ _ => Nat.le_trans
  have htotal : ∀ a b : Category × List Item,
      (decide (a.1.index ≤ b.1.index) || decide (b.1.index ≤ a.1.index)) = true := by
    simp only [Bool.or_eq_true, decide_eq_true_eq]
    exact fun _ _ => Nat.le_total _ _
  exact (List.pairwise_mergeSort htrans htotal _).imp of_decide_eq_true

/-! ## What is counted and found -/

/-- Everything shown is counted. -/
lemma length_eq_sum_shown (r : Recommendations) :
    r.length = (Category.all.map fun c => (r.shown c).flatten.length).sum := by
  have hclasses : (Category.all.flatMap fun c => r.entries.filter (·.1 = c)).Perm r.entries :=
    perm_flatMap_filter (by decide) fun e _ => by cases e.1 <;> decide
  have hperm := hclasses.flatMap_right (fun e : Category × List Item => e.2)
  rw [length, ← hperm.length_eq, List.flatMap_assoc, List.length_flatMap]
  rfl

/-- Looking a category up finds the first list that is shown under it. -/
lemma items_eq_headD (r : Recommendations) (category : Category) :
    r.items category = (r.shown category).headD [] := by
  rw [shown, List.headD_eq_head?_getD, List.head?_map, List.head?_filter]
  rfl

/-- Of some lists the first is all there is exactly when the others are empty. -/
lemma flatten_eq_headD_iff {α : Type} {lists : List (List α)} :
    lists.flatten = lists.headD [] ↔ ∀ later ∈ lists.tail, later = [] := by
  cases lists with
  | nil => simp
  | cons first later => simp

/-- The first of some lists is as long as all of them only if it is all there is. -/
lemma length_flatten_eq_iff {α : Type} {lists : List (List α)} :
    lists.flatten.length = (lists.headD []).length ↔ ∀ later ∈ lists.tail, later = [] := by
  rw [← flatten_eq_headD_iff]
  cases lists with
  | nil => simp
  | cons first later =>
    rw [List.flatten_cons, List.headD_cons, List.length_append, Nat.add_eq_left,
      List.length_eq_zero_iff, List.append_right_eq_self]

lemma length_headD_le {α : Type} (lists : List (List α)) :
    (lists.headD []).length ≤ lists.flatten.length := by
  cases lists with
  | nil => exact Nat.le_refl 0
  | cons first later => simp

/-- The count is what can be looked up only if it is for every category. -/
lemma length_eq_sum_items_iff (r : Recommendations) :
    r.length = (Category.all.map fun c => (r.items c).length).sum ↔
      ∀ c, (r.shown c).flatten.length = (r.items c).length := by
  have hle : ∀ c, (r.items c).length ≤ (r.shown c).flatten.length := by
    intro c
    rw [items_eq_headD]
    exact length_headD_le _
  rw [length_eq_sum_shown]
  constructor
  · intro hsum c
    simp only [Category.all, List.map_cons, List.map_nil, List.sum_cons, List.sum_nil] at hsum
    have hanimal := hle .animal
    have hobject := hle .object
    have hperson := hle .person
    have hplant := hle .plant
    have hverb := hle .verb
    cases c <;> omega
  · intro h
    simp only [h]

/-- Behind the first list shown there is none with an item exactly when behind the first table there
is none with a row. -/
lemma forall_mem_tail_shown_iff (result : Json.Fields) (category : Category) :
    (∀ later ∈ ((ofResult result).shown category).tail, later = []) ↔
      ∀ later ∈ (tables result category).tail, later = [] := by
  rw [← map_toJson_shown_ofResult, ← List.map_tail, List.forall_mem_map]
  simp only [List.map_eq_nil_iff]

/-- **What is listed, and what of it can be picked.**  The listing goes by category, and under each
it shows the tables that stand for this category, in the order of the result, each with its rows
that are objects.  All that is shown is counted.  Picking by an index finds the rows of the first
table alone.  So looking a category up gives all that is shown under it exactly when no other table
of it has a row, the count is the number of rows that can be looked up exactly when this is so for
every category, and then every row shown can be picked by some index. -/
theorem ofResult_lists (result : Json.Fields) :
    let r := ofResult result
    (r.entries.Pairwise fun a b => a.1.index ≤ b.1.index) ∧
    (∀ c, (r.shown c).map (·.map Item.toJson) = tables result c) ∧
    r.length = (Category.all.map fun c => (r.shown c).flatten.length).sum ∧
    (∀ c i, r.item? c i = ((r.shown c).headD [])[i]?) ∧
    (∀ c, (r.shown c).flatten = r.items c ↔ ∀ later ∈ (tables result c).tail, later = []) ∧
    (r.length = (Category.all.map fun c => (r.items c).length).sum ↔
      ∀ c, ∀ later ∈ (tables result c).tail, later = []) ∧
    ((∀ c, ∀ later ∈ (tables result c).tail, later = []) →
      ∀ c, ∀ item ∈ (r.shown c).flatten, ∃ i, r.item? c i = some item) := by
  intro r
  have hall : ∀ c, (r.shown c).flatten = r.items c ↔
      ∀ later ∈ (tables result c).tail, later = [] := by
    intro c
    rw [items_eq_headD, flatten_eq_headD_iff, forall_mem_tail_shown_iff]
  refine ⟨pairwise_entries_ofResult result, map_toJson_shown_ofResult result,
    r.length_eq_sum_shown, ?_, hall, ?_, ?_⟩
  · intro c i
    rw [item?, items_eq_headD]
  · rw [length_eq_sum_items_iff]
    refine forall_congr' fun c => ?_
    rw [items_eq_headD, length_flatten_eq_iff, forall_mem_tail_shown_iff]
  · intro hfirst c item hitem
    rw [(hall c).mpr (hfirst c)] at hitem
    exact List.mem_iff_getElem?.mp hitem

/-- A second table of a category does no harm as long as none of its rows is an object.  Nor do
tables that are no lists or stand for no category: nothing is shown of them. -/
theorem ofResult_lists_empty_table :
    let row (name : String) : Json := .object [("name_en", .string name)]
    let result : Json.Fields :=
      ⟨[("hierarchy", .array [row "weapon"]), ("list_obj", .array [row "bow", .null, row "lyre"]),
        ("list_object", .array [.string "shield"]), ("list_person", .null)], by rfl⟩
    let r := ofResult result
    tables result .object = [[row "bow", row "lyre"], []] ∧
      (r.shown .object).flatten = r.items .object ∧
      ∀ item ∈ (r.shown .object).flatten, ∃ i, r.item? .object i = some item := by
  intro row result r
  obtain ⟨-, -, -, -, hall, -, hpicked⟩ := ofResult_lists result
  have hhierarchy : Category.named "hierarchy" = .error (.unknownCategory "hierarchy") := by
    decide +kernel
  have hobj : Category.named "list_obj" = .ok .object := by decide +kernel
  have hobject : Category.named "list_object" = .ok .object := by decide +kernel
  have htables : ∀ c, tables result c =
      if c = .object then [[row "bow", row "lyre"], []] else [] := by
    intro c
    by_cases hc : c = .object
    · simp [tables, result, rowsUnder?, hhierarchy, hobj, hobject, hc, List.filter_cons,
        Json.isObject, row]
    · simp [tables, result, rowsUnder?, hhierarchy, hobj, hobject, hc, Ne.symm hc]
  have hfirst : ∀ c, ∀ later ∈ (tables result c).tail, later = [] := by
    intro c
    rw [htables]
    split <;> simp
  exact ⟨htables .object, (hall .object).mpr (hfirst .object), hpicked hfirst .object⟩

/-- A row of a second table of its category is shown and counted, but no index picks it. -/
theorem ofResult_hides_row :
    let item (name : String) : Item := ⟨⟨[("name_en", .string name)], by rfl⟩⟩
    let result : Json.Fields :=
      ⟨[("list_obj", .array [(item "bow").toJson]), ("list_object", .array [(item "lyre").toJson])],
        by rfl⟩
    let r := ofResult result
    r.length = 2 ∧ (Category.all.map fun c => (r.items c).length).sum = 1 ∧
      (r.shown .object).flatten = [item "bow", item "lyre"] ∧ r.items .object = [item "bow"] ∧
      ∀ i, r.item? .object i ≠ some (item "lyre") := by
  intro item result r
  have hobj : Category.named "list_obj" = .ok .object := by decide +kernel
  have hobject : Category.named "list_object" = .ok .object := by decide +kernel
  have hshown : ∀ c, r.shown c = if c = .object then [[item "bow"], [item "lyre"]] else [] := by
    intro c
    refine shown_ofResult_eq_iff.mpr ?_
    by_cases hc : c = .object
    · simp [tables, result, rowsUnder?, hobj, hobject, hc, Item.isObject_toJson]
    · simp [tables, result, rowsUnder?, hobj, hobject, hc, Ne.symm hc]
  have hitems : r.items .object = [item "bow"] := by rw [items_eq_headD, hshown]; rfl
  refine ⟨?_, ?_, ?_, hitems, ?_⟩
  · rw [length_eq_sum_shown]
    simp only [hshown]
    rfl
  · simp only [items_eq_headD, hshown]
    rfl
  · rw [hshown]
    rfl
  · intro i hi
    have hmem : item "lyre" ∈ [item "bow"] := by
      rw [item?, hitems] at hi
      exact List.mem_of_getElem? hi
    have hnames := congrArg (·.fields.text? "name_en") (List.mem_singleton.mp hmem)
    exact absurd hnames (by decide)

end Recommendations

end CoinQuery
