import CoinQuery.Proofs.Results.Stability

/-!
# Classes of a list

A key divides a list into classes, those of its elements that have one key, each in the order of the
list.  The classes of all keys together are the list again, up to order (`perm_flatMap_filter`).
-/

namespace CoinQuery

variable {α κ : Type} [DecidableEq κ] {key : α → κ}

/-- The classes of distinct keys, with a key for every element among them, hold every element of
the list once. -/
lemma perm_flatMap_filter {keys : List κ} (hkeys : keys.Nodup) {l : List α}
    (hmem : ∀ a ∈ l, key a ∈ keys) : (keys.flatMap fun k => l.filter (key · = k)).Perm l := by
  induction keys generalizing l with
  | nil =>
    have hnil : l = [] := List.eq_nil_iff_forall_not_mem.mpr fun a ha => by simpa using hmem a ha
    rw [hnil]
    exact List.Perm.refl _
  | cons k keys ih =>
    obtain ⟨hk, hkeys⟩ := List.nodup_cons.mp hkeys
    -- what has another key than the first is the list that the other keys divide
    have hrest : ((keys.flatMap fun k' => l.filter (key · = k'))).Perm
        (l.filter fun a => !decide (key a = k)) := by
      have hclasses : (keys.flatMap fun k' => l.filter (key · = k')) =
          keys.flatMap fun k' => (l.filter fun a => !decide (key a = k)).filter (key · = k') := by
        refine List.flatMap_congr fun k' hk' => ?_
        rw [List.filter_filter]
        refine List.filter_congr fun a _ => ?_
        have hne : k' ≠ k := fun heq => hk (heq ▸ hk')
        by_cases ha : key a = k' <;> simp [ha, hne]
      rw [hclasses]
      refine ih hkeys fun a ha => ?_
      obtain ⟨ha, hother⟩ := List.mem_filter.mp ha
      have hne : key a ≠ k := by simpa using hother
      exact (List.mem_cons.mp (hmem a ha)).resolve_left hne
    rw [List.flatMap_cons]
    exact (hrest.append_left _).trans (List.filter_append_perm (key · = k) l)

end CoinQuery
