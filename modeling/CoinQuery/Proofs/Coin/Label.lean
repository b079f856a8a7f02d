import CoinQuery.Coin.Set
import CoinQuery.Text.Blank
import CoinQuery.Text.DecimalDigit
import Mathlib.Data.List.Induction
import Mathlib.Data.List.Nodup

/-!
# Labels of coins

A label is written as `C` and the decimal numeral of a place, and two readers take it apart again:
`Coin.labelPosition?` reads the text of a node, and the scanner of relations reads a label wherever
it stands in a text.  Both rest on the same three facts about the numeral of a number: it consists
of ASCII digits, it stands for that number, and no zero stands in front of it unless it is `0`.
No other characters have these three properties (`Text.isNumeral_iff`).

The second part relates the two directions between ids and places.  `CoinSet.idAt?_of_position?`
needs nothing; its converse `CoinSet.position?_of_idAt?` holds in a set with distinct ids, where a
coin has no second place.  When a coin is removed from such a set, the others keep their ids, and
those behind it move up by one place (`CoinSet.position?_eraseIdx`).
-/

namespace CoinQuery

open Text

/-! ## Numerals -/

namespace Text

lemma isDigit_of_mem_toDigits {n : Nat} {c : Char} (hc : c ∈ Nat.toDigits 10 n) :
    c.isDigit = true :=
  Nat.isDigit_of_mem_toDigits (by omega) (by omega) hc

/-- The numeral of a positive number begins with another digit than zero. -/
lemma head?_toDigits_ne_zero {n : Nat} (hn : 0 < n) : (Nat.toDigits 10 n).head? ≠ some '0' := by
  induction n using Nat.strongRecOn with
  | ind n ih =>
    by_cases hlt : n < 10
    · rw [Nat.toDigits_of_lt_base hlt]
      intro hzero
      have hdigit : n.digitChar = '0' := Option.some.inj hzero
      have hval := Nat.toNat_digitChar_of_lt_ten hlt
      rw [hdigit] at hval
      simp at hval
      omega
    · have hhigh : (Nat.toDigits 10 (n / 10)).head? ≠ some '0' := ih (n / 10) (by omega) (by omega)
      rw [Nat.toDigits_of_base_le (by omega) (by omega), List.head?_append]
      cases hd : (Nat.toDigits 10 (n / 10)).head? with
      | none => exact absurd (List.head?_eq_none_iff.mp hd) Nat.toDigits_ne_nil
      | some d => rwa [hd] at hhigh

lemma toDigits_ne_zero_cons (n : Nat) (c : Char) (cs : List Char) :
    Nat.toDigits 10 n ≠ '0' :: c :: cs := by
  intro h
  rcases Nat.eq_zero_or_pos n with rfl | hn
  · simp at h
  · exact head?_toDigits_ne_zero hn (by rw [h]; rfl)

/-- A run of ASCII digits is read as the number it stands for, if that fits a word. -/
lemma wordOfDigits?_eq_some_iff {digits : List Char} {n : Nat} : wordOfDigits? digits = some n ↔
    digits ≠ [] ∧ (∀ c ∈ digits, c.isDigit = true) ∧ Nat.ofDigitChars 10 digits 0 = n ∧
      n < wordLimit := by
  constructor
  · intro h
    unfold wordOfDigits? at h
    split at h
    case isFalse => cases h
    case isTrue hdigits =>
      simp only [ne_eq, Bool.and_eq_true, decide_eq_true_eq, List.all_eq_true] at hdigits
      dsimp only at h
      split at h
      case isFalse => cases h
      case isTrue hlt =>
        obtain rfl := Option.some.inj h
        exact ⟨hdigits.1, hdigits.2, rfl, hlt⟩
  · rintro ⟨hne, hdigits, rfl, hlt⟩
    have hall : digits.all Char.isDigit = true := List.all_eq_true.mpr hdigits
    simp [wordOfDigits?, hne, hall, hlt]

lemma lt_wordLimit_of_wordOfDigits? {digits : List Char} {n : Nat}
    (h : wordOfDigits? digits = some n) : n < wordLimit :=
  (wordOfDigits?_eq_some_iff.mp h).2.2.2

/-- A numeral stands for its number, if the number fits a word. -/
lemma wordOfDigits?_toDigits {n : Nat} (hn : n < wordLimit) :
    wordOfDigits? (Nat.toDigits 10 n) = some n :=
  wordOfDigits?_eq_some_iff.mpr ⟨Nat.toDigits_ne_nil, fun _ => isDigit_of_mem_toDigits,
    Nat.ofDigitChars_ten_toDigits, hn⟩

/-- The characters are the decimal numeral of a number: ASCII digits that stand for it, with a zero
in front only where the zero is all. -/
structure IsNumeral (digits : List Char) (n : Nat) : Prop where
  ne_nil : digits ≠ []
  isDigit : ∀ c ∈ digits, c.isDigit = true
  head?_ne_zero : digits ≠ ['0'] → digits.head? ≠ some '0'
  value : Nat.ofDigitChars 10 digits 0 = n

lemma digitChar_sub_of_isDigit {c : Char} (hc : c.isDigit = true) :
    (c.toNat - '0'.toNat).digitChar = c := by
  obtain ⟨hlow, hhigh⟩ := Char.isDigit_iff_toNat.mp hc
  have hzero : '0'.toNat = 48 := rfl
  have hnine : '9'.toNat = 57 := rfl
  rw [← Char.toNat_inj, Nat.toNat_digitChar_of_lt_ten (by omega)]
  omega

/-- Digits without a superfluous zero are what their number is written as. -/
lemma toDigits_ofDigitChars {digits : List Char} (hne : digits ≠ [])
    (hdigits : ∀ c ∈ digits, c.isDigit = true)
    (hzero : digits ≠ ['0'] → digits.head? ≠ some '0') :
    Nat.toDigits 10 (Nat.ofDigitChars 10 digits 0) = digits := by
  induction digits using List.reverseRecOn with
  | nil => exact absurd rfl hne
  | append_singleton front c ih =>
    have hc : c.isDigit = true := hdigits c (by simp)
    have hlast : c.toNat - '0'.toNat < 10 := by
      obtain ⟨-, hhigh⟩ := Char.isDigit_iff_toNat.mp hc
      have hnine : '9'.toNat = 57 := rfl
      have hzero : '0'.toNat = 48 := rfl
      omega
    have hvalue : Nat.ofDigitChars 10 (front ++ [c]) 0 =
        10 * Nat.ofDigitChars 10 front 0 + (c.toNat - '0'.toNat) := by
      rw [Nat.ofDigitChars_append, Nat.ofDigitChars_cons, Nat.ofDigitChars_nil]
    by_cases hfront : front = []
    · subst hfront
      rw [hvalue, Nat.ofDigitChars_nil, Nat.mul_zero, Nat.zero_add,
        Nat.toDigits_of_lt_base hlast, digitChar_sub_of_isDigit hc, List.nil_append]
    · have hhead : front.head? ≠ some '0' := by
        have hlong : front ++ [c] ≠ ['0'] := by
          intro h
          obtain ⟨hnil, -⟩ | ⟨-, hnil⟩ := List.append_eq_singleton_iff.mp h
          · exact hfront hnil
          · cases hnil
        rw [← List.head?_append_of_ne_nil front hfront]
        exact hzero hlong
      have hwritten := ih hfront (fun d hd => hdigits d (by simp [hd])) (fun _ => hhead)
      have hpos : 0 < Nat.ofDigitChars 10 front 0 := by
        by_contra hnot
        rw [Nat.eq_zero_of_not_pos hnot] at hwritten
        exact hhead (by rw [← hwritten]; rfl)
      rw [hvalue, Nat.toDigits_of_base_le (by omega) (by omega), Nat.mul_add_div (by omega),
        Nat.mul_add_mod, Nat.div_eq_of_lt hlast, Nat.mod_eq_of_lt hlast, Nat.add_zero, hwritten,
        digitChar_sub_of_isDigit hc]

lemma isNumeral_iff {digits : List Char} {n : Nat} :
    IsNumeral digits n ↔ digits = Nat.toDigits 10 n := by
  constructor
  · rintro ⟨hne, hdigits, hzero, rfl⟩
    exact (toDigits_ofDigitChars hne hdigits hzero).symm
  · rintro rfl
    refine ⟨Nat.toDigits_ne_nil, fun _ => isDigit_of_mem_toDigits, fun hlong => ?_,
      Nat.ofDigitChars_ten_toDigits⟩
    apply head?_toDigits_ne_zero
    apply Nat.pos_of_ne_zero
    rintro rfl
    exact hlong rfl

/-- Digits are no blanks: those of ASCII stand above the space and below the next blank. -/
lemma isBlank_of_isDigit {c : Char} (hc : c.isDigit = true) : isBlank c = false := by
  have hrange : 48 ≤ c.toNat ∧ c.toNat ≤ 57 := by
    simpa [Char.isDigit, UInt32.le_iff_toNat_le] using hc
  simp only [isBlank, inRanges, blankRanges, List.any_cons, List.any_nil, Bool.or_eq_false_iff,
    Bool.and_eq_false_iff, decide_eq_false_iff_not, and_true]
  omega

lemma trimChars_of_not_blank {cs : List Char} (h : ∀ c ∈ cs, isBlank c = false) :
    trimChars cs = cs := by
  have hdrop : ∀ ds : List Char, (∀ c ∈ ds, isBlank c = false) → ds.dropWhile isBlank = ds := by
    intro ds hds
    cases ds with
    | nil => rfl
    | cons d ds => simp [hds d (by simp)]
  rw [trimChars, hdrop cs h, hdrop cs.reverse (fun c hc => h c (List.mem_reverse.mp hc)),
    List.reverse_reverse]

end Text

/-! ## Labels as texts -/

namespace Coin

lemma toList_label (n : Nat) : (label n).toList = 'C' :: Nat.toDigits 10 n := by
  simp [label]

lemma label_injective : Function.Injective label := by
  intro m n h
  have hdigits : Nat.toDigits 10 m = Nat.toDigits 10 n := by
    have hchars := congrArg String.toList h
    rw [toList_label, toList_label] at hchars
    exact (List.cons.inj hchars).2
  simpa using congrArg (fun digits => Nat.ofDigitChars 10 digits 0) hdigits

/-- The label of a place is read as that place. -/
lemma labelPosition?_label {n : Nat} (hn : n < wordLimit) : labelPosition? (label n) = some n := by
  rw [labelPosition?, toList_label]
  exact wordOfDigits?_toDigits hn

lemma lt_wordLimit_of_labelPosition? {text : String} {n : Nat}
    (h : labelPosition? text = some n) : n < wordLimit := by
  unfold labelPosition? at h
  split at h
  · exact lt_wordLimit_of_wordOfDigits? h
  · cases h

/-- No blank stands around a label. -/
lemma trim_label (n : Nat) : trim (label n) = label n := by
  have hblank : ∀ c ∈ (label n).toList, isBlank c = false := by
    intro c hc
    rw [toList_label, List.mem_cons] at hc
    rcases hc with rfl | hc
    · decide
    · exact isBlank_of_isDigit (isDigit_of_mem_toDigits hc)
  rw [trim, trimChars_of_not_blank hblank, String.ofList_toList]

end Coin

/-! ## Ids and places -/

namespace CoinSet

/-- No two coins of the set have one id. -/
def Distinct (coins : CoinSet) : Prop := (coins.map Coin.id).Nodup

instance (coins : CoinSet) : Decidable coins.Distinct :=
  inferInstanceAs (Decidable (coins.map Coin.id).Nodup)

lemma Distinct.sublist {coins other : CoinSet} (hd : coins.Distinct) (h : other.Sublist coins) :
    other.Distinct :=
  List.Nodup.sublist (h.map Coin.id) hd

lemma holds_iff {coins : CoinSet} {id : CoinId} :
    coins.holds id = true ↔ ∃ c ∈ coins, c.id = id := by
  simp [holds, position?, List.findIdx?_isSome]

/-- The coin at the place of an id has that id. -/
lemma idAt?_of_position? {coins : CoinSet} {id : CoinId} {p : Nat}
    (h : coins.position? id = some p) : coins.idAt? (p + 1) = some id := by
  obtain ⟨hp, hid, -⟩ := List.findIdx?_eq_some_iff_getElem.mp h
  simpa [idAt?, List.getElem?_eq_getElem hp] using hid

/-- Where ids are distinct, an id stands at one place only. -/
lemma position?_of_idAt? {coins : CoinSet} (hd : coins.Distinct) {id : CoinId} {p : Nat}
    (h : coins.idAt? (p + 1) = some id) : coins.position? id = some p := by
  obtain ⟨c, hc, rfl⟩ := Option.map_eq_some_iff.mp h
  obtain ⟨hp, hget⟩ := List.getElem?_eq_some_iff.mp hc
  refine List.findIdx?_eq_some_iff_getElem.mpr ⟨hp, by simp [hget], ?_⟩
  intro j hj
  have hlast : p < (coins.map Coin.id).length := by simpa using hp
  have hearlier : j < (coins.map Coin.id).length := Nat.lt_trans hj hlast
  have hne : (coins.map Coin.id)[j] ≠ (coins.map Coin.id)[p] :=
    fun heq => absurd ((List.Nodup.getElem_inj_iff hd).mp heq) (Nat.ne_of_lt hj)
  simpa [hget] using hne

lemma lt_length_of_position? {coins : CoinSet} {id : CoinId} {p : Nat}
    (h : coins.position? id = some p) : p < coins.length :=
  (List.findIdx?_eq_some_iff_getElem.mp h).1

/-- A label names no coin when it is `C0` or counts past the last coin. -/
lemma idAt?_eq_none_iff {coins : CoinSet} {n : Nat} :
    coins.idAt? n = none ↔ n = 0 ∨ coins.length < n := by
  cases n with
  | zero => simp [idAt?]
  | succ p =>
    have hpast : coins.idAt? (p + 1) = none ↔ coins.length ≤ p := by
      rw [idAt?, Option.map_eq_none_iff, List.getElem?_eq_none_iff]
    rw [hpast]
    omega

lemma holds_of_idAt? {coins : CoinSet} {id : CoinId} {n : Nat} (h : coins.idAt? n = some id) :
    coins.holds id = true := by
  cases n with
  | zero => simp [idAt?] at h
  | succ p =>
    obtain ⟨c, hc, hid⟩ := Option.map_eq_some_iff.mp h
    exact holds_iff.mpr ⟨c, List.mem_of_getElem? hc, hid⟩

/-- A label names the coin that has it. -/
lemma idAt?_eq_some_iff_labelOf? {coins : CoinSet} (hd : coins.Distinct) {id : CoinId} {n : Nat} :
    coins.idAt? n = some id ↔ coins.labelOf? id = some (Coin.label n) := by
  constructor
  · intro h
    cases n with
    | zero => simp [idAt?] at h
    | succ p => rw [labelOf?, position?_of_idAt? hd h, Option.map_some]
  · intro h
    obtain ⟨p, hp, hlabel⟩ := Option.map_eq_some_iff.mp h
    obtain rfl := Coin.label_injective hlabel
    exact idAt?_of_position? hp

/-! ## Removing a coin -/

lemma getElem?_eraseIdx_of_ne (coins : CoinSet) {i p : Nat} (h : p ≠ i) :
    (coins.eraseIdx i)[if i < p then p - 1 else p]? = coins[p]? := by
  by_cases hlt : i < p
  · rw [if_pos hlt, List.getElem?_eraseIdx_of_ge (by omega), Nat.sub_add_cancel (by omega)]
  · rw [if_neg hlt, List.getElem?_eraseIdx_of_lt (by omega)]

/-- The places behind the coin that is removed move up by one. -/
lemma position?_eraseIdx {coins : CoinSet} (hd : coins.Distinct) {id : CoinId} {i p : Nat}
    (hp : coins.position? id = some p) (h : p ≠ i) :
    CoinSet.position? (coins.eraseIdx i) id = some (if i < p then p - 1 else p) := by
  have hdistinct : CoinSet.Distinct (coins.eraseIdx i) :=
    hd.sublist (List.eraseIdx_sublist coins i)
  apply position?_of_idAt? hdistinct
  rw [idAt?, getElem?_eraseIdx_of_ne coins h]
  exact idAt?_of_position? hp

/-- Where ids are distinct, the coin at a place is removed by its id. -/
lemma eraseIdx_eq_filter {coins : CoinSet} (hd : coins.Distinct) {i : Nat} {coin : Coin}
    (h : coins[i]? = some coin) : coins.eraseIdx i = coins.filter (·.id ≠ coin.id) := by
  induction coins generalizing i with
  | nil => cases h
  | cons c coins ih =>
    obtain ⟨hfirst, hrest⟩ := List.nodup_cons.mp hd
    cases i with
    | zero =>
      obtain rfl : c = coin := Option.some.inj h
      have hothers : ∀ d ∈ coins, decide (d.id ≠ c.id) = true := by
        intro d hd
        have hne : d.id ≠ c.id := fun heq => hfirst (heq ▸ List.mem_map_of_mem hd)
        exact decide_eq_true hne
      rw [List.eraseIdx_cons_zero, List.filter_cons_of_neg (by simp),
        List.filter_eq_self.mpr hothers]
    | succ i =>
      have hmem : coin ∈ coins := List.mem_of_getElem? h
      have hne : c.id ≠ coin.id := fun heq => hfirst (heq ▸ List.mem_map_of_mem hmem)
      rw [List.eraseIdx_cons_succ, List.filter_cons_of_pos (by simp [hne]), ih hrest h]

/-- The coin that is removed has no second place. -/
lemma holds_eraseIdx_self {coins : CoinSet} (hd : coins.Distinct) {i : Nat} {coin : Coin}
    (h : coins[i]? = some coin) : CoinSet.holds (coins.eraseIdx i) coin.id = false := by
  rw [eraseIdx_eq_filter hd h, ← Bool.not_eq_true, holds_iff]
  rintro ⟨c, hc, hid⟩
  exact absurd hid (of_decide_eq_true (List.mem_filter.mp hc).2)

end CoinSet

end CoinQuery
