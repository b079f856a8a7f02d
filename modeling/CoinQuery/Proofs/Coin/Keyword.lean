import CoinQuery.Coin.Description
import Mathlib.Data.List.DropRight
import Mathlib.Data.List.TakeWhile

/-!
# Looking up keywords

A keyword is looked up by a text that may have blanks around it: they are taken off, and the first
keyword with the text that is left is meant.  So a keyword can only be found when no blanks stand
around its own text (`Keyword.IsTrimmed`).  That is so of every keyword that is added, since
trimming a text once more does nothing (`Text.trim_trim`).

There may be several keywords with one text.  `Keyword.IsFirst` tells the one that is meant from the
others, by what stands in front of it and behind it.
-/

namespace CoinQuery

open Text

/-! ## Trimming -/

namespace Text

/-- Trimming takes blanks off the back of what is left when they are taken off the front. -/
lemma trimChars_eq (cs : List Char) :
    trimChars cs = (cs.dropWhile isBlank).rdropWhile isBlank := rfl

/-- What is left begins as the text without the blanks in front does. -/
lemma dropWhile_trimChars (cs : List Char) : (trimChars cs).dropWhile isBlank = trimChars cs := by
  rw [List.dropWhile_eq_self_iff]
  intro hpos
  have hpart : trimChars cs <+: cs.dropWhile isBlank := List.rdropWhile_prefix _ _
  have hlong : 0 < (cs.dropWhile isBlank).length := Nat.lt_of_lt_of_le hpos hpart.length_le
  rw [hpart.getElem hpos]
  exact List.dropWhile_eq_self_iff.mp (List.dropWhile_idempotent _ _) hlong

lemma trimChars_trimChars (cs : List Char) : trimChars (trimChars cs) = trimChars cs := by
  rw [trimChars_eq (trimChars cs), dropWhile_trimChars, trimChars_eq, List.rdropWhile_idempotent]

lemma trim_trim (s : String) : trim (trim s) = trim s := by
  rw [trim, trim, String.toList_ofList, trimChars_trimChars]

end Text

/-! ## Keywords of one text -/

namespace Keyword

/-- There is something in the text, and no blank around it. -/
structure IsTrimmed (k : Keyword) : Prop where
  text_ne_empty : k.text ≠ ""
  trim_text : trim k.text = k.text

/-- The keyword with the other flag. -/
def flip (k : Keyword) : Keyword := { k with negated := !k.negated }

lemma flip_flip (k : Keyword) : k.flip.flip = k := by
  rw [flip, flip, Bool.not_not]

/-- The first of the keywords that has this text stands between those `before` it, which have other
texts, and those `after` it. -/
structure IsFirst (text : String) (keywords before : List Keyword) (first : Keyword)
    (after : List Keyword) : Prop where
  split : keywords = before ++ first :: after
  text_eq : first.text = text
  others : ∀ k ∈ before, k.text ≠ text

variable {text : String} {keywords before after : List Keyword} {first : Keyword}

lemma exists_isFirst {k : Keyword} (h : k ∈ keywords) :
    ∃ before first after, IsFirst k.text keywords before first after := by
  induction keywords with
  | nil => cases h
  | cons head rest ih =>
    by_cases hhead : head.text = k.text
    · exact ⟨[], head, rest, rfl, hhead, fun _ hnone => by cases hnone⟩
    · have hk : k ∈ rest := by
        rcases List.mem_cons.mp h with rfl | hk
        · exact absurd rfl hhead
        · exact hk
      obtain ⟨before, first, after, hsplit, htext, hothers⟩ := ih hk
      refine ⟨head :: before, first, after, by rw [hsplit, List.cons_append], htext, ?_⟩
      exact List.forall_mem_cons.mpr ⟨hhead, hothers⟩

lemma IsFirst.flip (h : IsFirst text keywords before first after) :
    IsFirst text (before ++ first.flip :: after) before first.flip after :=
  ⟨rfl, h.text_eq, h.others⟩

lemma IsFirst.removeFirst? (h : IsFirst text keywords before first after) :
    removeFirst? text keywords = some (first, before ++ after) := by
  obtain ⟨rfl, htext, hothers⟩ := h
  induction before with
  | nil => rw [List.nil_append, Keyword.removeFirst?, if_pos htext, List.nil_append]
  | cons k before ih =>
    obtain ⟨hk, hbefore⟩ := List.forall_mem_cons.mp hothers
    rw [List.cons_append, Keyword.removeFirst?, if_neg hk, ih hbefore]
    rfl

lemma IsFirst.toggleFirst? (h : IsFirst text keywords before first after) :
    toggleFirst? text keywords = some (!first.negated, before ++ first.flip :: after) := by
  obtain ⟨rfl, htext, hothers⟩ := h
  induction before with
  | nil => rw [List.nil_append, Keyword.toggleFirst?, if_pos htext]; rfl
  | cons k before ih =>
    obtain ⟨hk, hbefore⟩ := List.forall_mem_cons.mp hothers
    rw [List.cons_append, Keyword.toggleFirst?, if_neg hk, ih hbefore]
    rfl

lemma removeFirst?_eq_none (h : ∀ k ∈ keywords, k.text ≠ text) :
    removeFirst? text keywords = none := by
  induction keywords with
  | nil => rfl
  | cons k rest ih =>
    obtain ⟨hk, hrest⟩ := List.forall_mem_cons.mp h
    rw [removeFirst?, if_neg hk, ih hrest, Option.map_none]

lemma toggleFirst?_eq_none (h : ∀ k ∈ keywords, k.text ≠ text) :
    toggleFirst? text keywords = none := by
  induction keywords with
  | nil => rfl
  | cons k rest ih =>
    obtain ⟨hk, hrest⟩ := List.forall_mem_cons.mp h
    rw [toggleFirst?, if_neg hk, ih hrest, Option.map_none]

end Keyword

end CoinQuery
