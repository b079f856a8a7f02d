import CoinQuery.Proofs.Relation.Binding
import Mathlib.Data.List.Forall2

/-!
# What binding changes

Binding works on labels that count a coin of the set, and makes of each the reference to the coin
that has this label (`Token.Binds`).  Where ids are distinct the reference shows the label again, so
binding can be done at any time without anybody seeing it.

Nor does it matter when binding is done while the set grows.  Coins are put behind the set, so a
label keeps the coin that it counts, and binding against the set as it was before is made good by
binding against the set as it is (`Relation.bind_bind_append`).  `Relation.bindEach` binds after
every single coin.

The main result is `Relation.bind_keeps_shown`.
-/

namespace CoinQuery

/-! ## Labels and a set that grows -/

namespace CoinSet

variable {coins : CoinSet} {n : Nat} {id : CoinId}

/-- A label that counts a coin of the set counts the same coin when others are put behind it. -/
lemma idAt?_append_of_some (h : coins.idAt? n = some id) (later : CoinSet) :
    CoinSet.idAt? (coins ++ later) n = some id := by
  cases n with
  | zero => cases h
  | succ p =>
    obtain ⟨coin, hcoin, rfl⟩ := Option.map_eq_some_iff.mp h
    have hp : p < coins.length := (List.getElem?_eq_some_iff.mp hcoin).1
    rw [idAt?, List.getElem?_append_left hp, hcoin, Option.map_some]

end CoinSet

/-! ## One token -/

/-- What binding makes of a token: a label that counts a coin of the set becomes the reference to
the coin with this label, and any other token stays what it is. -/
inductive Token.Binds (coins : CoinSet) : Token → Token → Prop
  | named {n : Nat} {id : CoinId} (first : 1 ≤ n) (last : n ≤ coins.length)
      (labelled : coins.labelOf? id = some (Coin.label n)) : Binds coins (.label n) (.coin id)
  | kept {t : Token} (counts : ∀ n, t = .label n → n = 0 ∨ coins.length < n) : Binds coins t t

namespace Token

variable {coins : CoinSet}

lemma binds_bind (hd : coins.Distinct) (t : Token) : Binds coins t (t.bind coins) := by
  match t with
  | .ref (.coin _) | .op _ => exact .kept fun _ h => by cases h
  | .ref (.label n) =>
    cases hid : coins.idAt? n with
    | none =>
      rw [bind_label_of_none hid]
      refine .kept fun m hm => ?_
      obtain rfl : n = m := by simpa using hm
      exact CoinSet.idAt?_eq_none_iff.mp hid
    | some id =>
      have hcounts : ¬ (n = 0 ∨ coins.length < n) := by
        rw [← CoinSet.idAt?_eq_none_iff, hid]
        exact Option.some_ne_none id
      rw [bind_label_of_idAt? hid]
      exact .named (by omega) (by omega) ((CoinSet.idAt?_eq_some_iff_labelOf? hd).mp hid)

/-- A token is bindable when binding makes another one of it. -/
lemma isBindable_iff {t : Token} : t.isBindable coins = true ↔ t ≠ t.bind coins := by
  match t with
  | .ref (.coin _) | .op _ => simp [isBindable, bind]
  | .ref (.label n) =>
    cases hid : coins.idAt? n with
    | none => simp [isBindable, bind_label_of_none hid, hid]
    | some id => simp [isBindable, bind_label_of_idAt? hid, hid]

lemma bind_bind_append (t : Token) (coins later : CoinSet) :
    (t.bind coins).bind (coins ++ later) = t.bind (coins ++ later) := by
  match t with
  | .ref (.coin _) | .op _ => rfl
  | .ref (.label n) =>
    cases hid : coins.idAt? n with
    | none => rw [bind_label_of_none hid]
    | some id =>
      rw [bind_label_of_idAt? hid, bind_label_of_idAt? (CoinSet.idAt?_append_of_some hid later)]
      rfl

end Token

namespace VisualNode

variable {coins : CoinSet}

/-- Of the node drawn for a token, binding changes the token alone. -/
lemma ofToken_bind (hd : coins.Distinct) (t : Token) :
    ofToken coins (t.bind coins) = { ofToken coins t with token := t.bind coins } := by
  match t with
  | .ref (.coin _) | .op _ => rfl
  | .ref (.label n) =>
    have htext := Token.text_bind hd (.label n)
    cases hid : coins.idAt? n with
    | none => rw [Token.bind_label_of_none hid]; rfl
    | some id =>
      rw [Token.bind_label_of_idAt? hid] at htext ⊢
      exact congrArg (VisualNode.mk _) htext

lemma markup_ofToken_bind (hd : coins.Distinct) (t : Token) :
    (ofToken coins (t.bind coins)).markup = (ofToken coins t).markup := by
  match t with
  | .ref (.coin _) | .op _ => rfl
  | .ref (.label n) =>
    rw [ofToken_bind hd]
    cases hid : coins.idAt? n with
    | none => rw [Token.bind_label_of_none hid]; rfl
    | some id => rw [Token.bind_label_of_idAt? hid]; rfl

end VisualNode

/-! ## Relations -/

namespace Relation

variable {coins : CoinSet}

/-- Binding after each of the coins that are put behind the set one after the other. -/
def bindEach (r : Relation) (coins : CoinSet) : List Coin → Relation
  | [] => r
  | coin :: added => bindEach (r.bind (coins ++ [coin])) (coins ++ [coin]) added

lemma bind_bind_append (r : Relation) (coins later : CoinSet) :
    (r.bind coins).bind (coins ++ later) = r.bind (coins ++ later) := by
  rw [bind, bind, List.map_map]
  exact List.map_congr_left fun t _ => t.bind_bind_append coins later

lemma bindEach_bind (r : Relation) (coins : CoinSet) (added : List Coin) :
    (r.bind coins).bindEach coins added = r.bind (coins ++ added) := by
  induction added generalizing r coins with
  | nil => rw [bindEach, List.append_nil]
  | cons coin added ih =>
    calc (r.bind coins).bindEach coins (coin :: added)
        = (r.bind (coins ++ [coin])).bindEach (coins ++ [coin]) added := by
          rw [bindEach, bind_bind_append]
      _ = r.bind (coins ++ [coin] ++ added) := ih r (coins ++ [coin])
      _ = r.bind (coins ++ coin :: added) := by rw [List.append_assoc, List.singleton_append]

lemma map_visual_bind {α : Type} {f : VisualNode → α}
    (h : ∀ t, f (VisualNode.ofToken coins (t.bind coins)) = f (VisualNode.ofToken coins t))
    (r : Relation) : ((r.bind coins).visual coins).map f = (r.visual coins).map f := by
  rw [visual, visual, bind, List.map_map, List.map_map, List.map_map]
  exact List.map_congr_left fun t _ => h t

/-- The number that binding gives is that of the tokens it changed. -/
lemma bindCount_eq_countP_zip (r : Relation) (coins : CoinSet) :
    r.bindCount coins = (r.zip (r.bind coins)).countP fun p => p.1 ≠ p.2 := by
  induction r with
  | nil => rfl
  | cons t r ih =>
    have hchanged : t.isBindable coins = decide (t ≠ t.bind coins) := by
      rw [Bool.eq_iff_iff, Token.isBindable_iff, decide_eq_true_iff]
    have hrest : r.countP (Token.isBindable coins) =
        (r.zip (bind r coins)).countP fun p => p.1 ≠ p.2 := ih
    rw [bindCount, bind, List.map_cons, List.zip_cons_cons, List.countP_cons, List.countP_cons,
      hrest, hchanged]
    rfl

lemma bindCount_bind (r : Relation) (coins : CoinSet) : (r.bind coins).bindCount coins = 0 := by
  rw [bindCount, List.countP_eq_zero]
  intro t ht
  rw [Token.isBindable_iff, not_not]
  refine (Token.bind_eq_self fun n hn => ?_).symm
  exact CoinSet.idAt?_eq_none_iff.mpr (labelsUnresolved_bind r coins n (hn ▸ ht))

/-- **Binding never changes what is shown.**  In a set with distinct ids, binding makes of every
label that counts a coin the reference to the coin with this label, and leaves all other tokens.
The canonical text stays, and so do the texts and the markup of the nodes.  The number it gives is
that of the tokens it changed; no label of a coin is left, so binding again changes none.  When
coins are put behind the set, binding after each of them comes to the same as binding once, against
the set with all of them, whether the relation was bound before or not. -/
theorem bind_keeps_shown (hd : coins.Distinct) (r : Relation) :
    List.Forall₂ (Token.Binds coins) r (r.bind coins) ∧
    ((r.bind coins).text coins = r.text coins ∧
      ((r.bind coins).visual coins).map VisualNode.text = (r.visual coins).map VisualNode.text ∧
      ((r.bind coins).visual coins).map VisualNode.markup =
        (r.visual coins).map VisualNode.markup) ∧
    (r.bindCount coins = (r.zip (r.bind coins)).countP (fun p => p.1 ≠ p.2) ∧
      (∀ n, Token.label n ∈ r.bind coins → coins.idAt? n = none) ∧
      (r.bind coins).bindCount coins = 0) ∧
    (∀ added, (r.bind coins).bindEach coins added = r.bind (coins ++ added)) ∧
    ∀ coin added, r.bindEach coins (coin :: added) = r.bind (coins ++ coin :: added) := by
  refine ⟨?_, ⟨text_bind hd r, ?_, ?_⟩,
    ⟨bindCount_eq_countP_zip r coins, ?_, bindCount_bind r coins⟩, bindEach_bind r coins, ?_⟩
  · exact List.forall₂_map_right_iff.mpr
      (List.forall₂_same.mpr fun t _ => Token.binds_bind hd t)
  · exact map_visual_bind (fun t => by rw [VisualNode.ofToken_bind hd]) r
  · exact map_visual_bind (VisualNode.markup_ofToken_bind hd) r
  · exact fun n hn => CoinSet.idAt?_eq_none_iff.mpr (labelsUnresolved_bind r coins n hn)
  · intro coin added
    calc r.bindEach coins (coin :: added)
        = r.bind (coins ++ [coin] ++ added) := bindEach_bind r (coins ++ [coin]) added
      _ = r.bind (coins ++ coin :: added) := by rw [List.append_assoc, List.singleton_append]

/-- Two coins whose ids do not follow each other; one label counts past them until a third comes. -/
theorem bind_keeps_shown_out_of_order :
    let coins : CoinSet := [⟨⟨7⟩, .empty⟩, ⟨⟨4⟩, .empty⟩]
    let later : Coin := ⟨⟨9⟩, .empty⟩
    let r : Relation := [.label 2, .op .or, .label 0, .coin ⟨5⟩, .op .not, .label 3, .label 1]
    let bound : Relation :=
      [.coin ⟨4⟩, .op .or, .label 0, .coin ⟨5⟩, .op .not, .label 3, .coin ⟨7⟩]
    coins.Distinct ∧ r.bind coins = bound ∧ bound.text coins = "C2 OR C0C? NOT C3C1" ∧
      r.bindCount coins = 2 ∧ bound.bindCount coins = 0 ∧
      bound.bindEach coins [later] = r.bind (coins ++ [later]) := by
  intro coins later r bound
  have hd : coins.Distinct := by decide
  obtain ⟨-, ⟨htext, -, -⟩, ⟨hcount, -, hagain⟩, heach, -⟩ := bind_keeps_shown hd r
  exact ⟨hd, rfl, htext.trans (by decide), hcount.trans (by decide), hagain, heach [later]⟩

end Relation

end CoinQuery
