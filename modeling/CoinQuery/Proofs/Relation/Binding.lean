import CoinQuery.Proofs.Relation.Reading
import CoinQuery.Relation.Binding
import CoinQuery.Relation.Pruning

/-!
# Binding and what is shown

Binding replaces the label of a coin by a reference to it; showing replaces the reference by the
label again.  `Token.unbind` is the second direction as a function on tokens, and the two laws
between them carry every round trip of a relation through its text or its nodes:

* `Token.text_unbind`: unbinding does not change what is shown;
* `Token.bind_unbind`: binding an unbound token gives what binding the token itself gives.

`Relation.parse_text` is the round trip of the canonical text.  Where ids are distinct binding does
not change what is shown either (`Relation.text_bind`).
-/

namespace CoinQuery

open Text

/-- The number of a label fits a word. -/
def Token.FitsWord : Token → Prop
  | .ref (.label n) => n < wordLimit
  | _ => True

instance : DecidablePred Token.FitsWord
  | .ref (.label n) => inferInstanceAs (Decidable (n < wordLimit))
  | .ref (.coin _) => isTrue trivial
  | .op _ => isTrue trivial

/-- Every label left in the relation is `C0` or counts past the last coin. -/
def Relation.LabelsUnresolved (r : Relation) (coins : CoinSet) : Prop :=
  ∀ n, Token.label n ∈ r → n = 0 ∨ coins.length < n

/-! ## Unbinding -/

namespace Token

/-- What a text tells of a token: the label its coin has now in the place of a reference. -/
def unbind (coins : CoinSet) : Token → Token
  | .ref (.coin id) =>
    match coins.position? id with
    | some p => .label (p + 1)
    | none => .coin id
  | t => t

variable (coins : CoinSet)

lemma text_unbind (t : Token) : (t.unbind coins).text coins = t.text coins := by
  match t with
  | .ref (.coin id) =>
    cases hp : coins.position? id with
    | none => simp [unbind, hp]
    | some p => simp [unbind, hp, text, Reference.text, CoinSet.labelOf?]
  | .ref (.label n) => rfl
  | .op o => rfl

/-- The coin whose label a reference shows is the coin it refers to. -/
lemma bind_unbind (t : Token) : (t.unbind coins).bind coins = t.bind coins := by
  match t with
  | .ref (.coin id) =>
    cases hp : coins.position? id with
    | none => simp [unbind, hp]
    | some p => simp [unbind, hp, bind, CoinSet.idAt?_of_position? hp]
  | .ref (.label n) => rfl
  | .op o => rfl

variable {coins}

/-- An unbound token can be spelled, unless it is a stale reference. -/
lemma isReadable_unbind (hfit : coins.length < wordLimit) {t : Token} (hword : t.FitsWord)
    (hlive : t.isStale coins = false) : (t.unbind coins).IsReadable := by
  match t with
  | .ref (.coin id) =>
    cases hp : coins.position? id with
    | none => simp [isStale, CoinSet.holds, hp] at hlive
    | some p =>
      have hlt := CoinSet.lt_length_of_position? hp
      simp only [unbind, hp, IsReadable]
      omega
  | .ref (.label n) => exact hword
  | .op o => trivial

/-! ## Binding one token -/

lemma bind_label_of_idAt? {n : Nat} {id : CoinId} (h : coins.idAt? n = some id) :
    (Token.label n).bind coins = .coin id := by
  simp [bind, h]

lemma bind_label_of_none {n : Nat} (h : coins.idAt? n = none) :
    (Token.label n).bind coins = .label n := by
  simp [bind, h]

/-- A label that is left names no coin. -/
lemma idAt?_of_bind {t : Token} {n : Nat} (h : t.bind coins = .label n) :
    coins.idAt? n = none := by
  match t with
  | .ref (.coin id) => simp [bind] at h
  | .ref (.label m) =>
    cases hm : coins.idAt? m with
    | none =>
      rw [bind_label_of_none hm] at h
      obtain rfl : m = n := by simpa using h
      exact hm
    | some id => simp [bind_label_of_idAt? hm] at h
  | .op o => simp [bind] at h

lemma bind_eq_self {t : Token} (h : ∀ n, t = .label n → coins.idAt? n = none) :
    t.bind coins = t := by
  match t with
  | .ref (.coin id) => rfl
  | .ref (.label n) => exact bind_label_of_none (h n rfl)
  | .op o => rfl

/-- Binding refers to coins of the set only. -/
lemma isStale_bind (t : Token) : (t.bind coins).isStale coins = t.isStale coins := by
  match t with
  | .ref (.coin id) => rfl
  | .ref (.label n) =>
    cases hn : coins.idAt? n with
    | none => rw [bind_label_of_none hn]
    | some id => simp [bind_label_of_idAt? hn, isStale, CoinSet.holds_of_idAt? hn]
  | .op o => rfl

lemma text_bind (hd : coins.Distinct) (t : Token) : (t.bind coins).text coins = t.text coins := by
  match t with
  | .ref (.coin id) => rfl
  -- `C0` names no place, so the places begin behind it
  | .ref (.label 0) => rfl
  | .ref (.label (p + 1)) =>
    cases hid : coins.idAt? (p + 1) with
    | none => rw [bind_label_of_none hid]
    | some id =>
      rw [bind_label_of_idAt? hid]
      simp [text, Reference.text, CoinSet.labelOf?, CoinSet.position?_of_idAt? hd hid]
  | .op o => rfl

end Token

/-! ## Relations -/

namespace Relation

variable {coins : CoinSet} {r : Relation}

lemma stale_eq_nil_iff : r.stale coins = [] ↔ ∀ t ∈ r, t.isStale coins = false := by
  rw [stale, List.filterMap_eq_nil_iff]
  apply forall₂_congr
  intro t _
  match t with
  | .ref (.coin id) => cases h : coins.holds id <;> simp [Token.isStale, h]
  | .ref (.label n) => simp [Token.isStale]
  | .op o => simp [Token.isStale]

lemma stale_bind_eq_nil (h : r.stale coins = []) : (r.bind coins).stale coins = [] := by
  rw [stale_eq_nil_iff] at h ⊢
  intro t ht
  obtain ⟨u, hu, rfl⟩ := List.mem_map.mp ht
  rw [Token.isStale_bind]
  exact h u hu

lemma labelsUnresolved_bind (r : Relation) (coins : CoinSet) :
    (r.bind coins).LabelsUnresolved coins := by
  intro n hn
  obtain ⟨t, ht, hbind⟩ := List.mem_map.mp hn
  exact CoinSet.idAt?_eq_none_iff.mp (Token.idAt?_of_bind hbind)

/-- Binding leaves a relation alone when none of its labels names a coin. -/
lemma bind_eq_self (h : r.LabelsUnresolved coins) : r.bind coins = r := by
  have hsame : ∀ t ∈ r, t.bind coins = t := fun t ht =>
    Token.bind_eq_self fun n hn => CoinSet.idAt?_eq_none_iff.mpr (h n (hn ▸ ht))
  calc r.bind coins = r.map id := List.map_congr_left hsame
    _ = r := List.map_id r

/-- What keeps the text of each token keeps the text of a relation. -/
lemma text_map {f : Token → Token} (h : ∀ t, (f t).text coins = t.text coins) (r : Relation) :
    text (r.map f) coins = r.text coins := by
  have htexts : (r.map f).map (Token.text coins) = r.map (Token.text coins) := by
    rw [List.map_map]
    exact List.map_congr_left fun t _ => h t
  rw [text, htexts, text]

lemma text_bind (hd : coins.Distinct) (r : Relation) :
    (r.bind coins).text coins = r.text coins := text_map (Token.text_bind hd) r

/-! ## The round trip of canonical text -/

lemma bind_map_unbind (r : Relation) (coins : CoinSet) :
    bind (r.map (Token.unbind coins)) coins = r.bind coins := by
  rw [bind, List.map_map]
  exact List.map_congr_left fun t _ => Token.bind_unbind coins t

/-- Reading the canonical text of a relation without stale references binds the relation. -/
lemma parse_text (hfit : coins.length < wordLimit) (hword : ∀ t ∈ r, t.FitsWord)
    (hlive : r.stale coins = []) : parse (r.text coins) coins = r.bind coins := by
  have hread : ∀ t ∈ r.map (Token.unbind coins), t.IsReadable := by
    intro t ht
    obtain ⟨u, hu, rfl⟩ := List.mem_map.mp ht
    exact Token.isReadable_unbind hfit (hword u hu) (stale_eq_nil_iff.mp hlive u hu)
  calc parse (r.text coins) coins
      = bind (ofText (text (r.map (Token.unbind coins)) coins)) coins := by
        rw [parse, text_map (Token.text_unbind coins)]
    _ = bind (r.map (Token.unbind coins)) coins := by rw [ofText_text hread]
    _ = r.bind coins := bind_map_unbind r coins

end Relation

end CoinQuery
