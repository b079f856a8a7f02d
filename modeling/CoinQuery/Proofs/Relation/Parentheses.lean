import CoinQuery.Proofs.Relation.PrunedDiagnosis
import Mathlib.Combinatorics.Enumerative.DyckWord

/-!
# Matching parentheses

A closing parenthesis is matched with the nearest opening one before it that is not matched yet, and
the closing ones are matched in the order in which they stand (`Relation.pairsBefore`).  A diagnosis
does not keep the pairs.  It counts how many parentheses are open, and this is enough: the count is
the number of opening parentheses that are not matched yet (`Relation.unmatched_succ`), so a closing
one finds a partner exactly when the count is not zero.

The parentheses of a relation are a word of two letters (`Relation.parentheses`), and nothing is
left unmatched exactly when this is a Dyck word (`Relation.exists_dyckWord_iff`).  The main result
is `Relation.diagnose_matches_parentheses`.
-/

namespace CoinQuery

namespace Relation

/-! ## Pairs -/

/-- The places in front of `stop` where this operator stands, without those that are matched. -/
def unmatchedBefore (o : Operator) (r : Relation) (stop : Nat) (matched : List Nat) : List Nat :=
  (List.range stop).filter fun i => r[i]? = some (.op o) ∧ i ∉ matched

/-- The pairs of matched parentheses in front of a place: each closing one is matched with the
nearest opening one before it that is in no pair yet. -/
def pairsBefore (r : Relation) : (stop : Nat) → List (Nat × Nat)
  | 0 => []
  | i + 1 =>
    let pairs := r.pairsBefore i
    if r[i]? = some (.op .closeParen) then
      let nearest? := (r.unmatchedBefore .openParen i (pairs.map Prod.fst)).getLast?
      pairs ++ (nearest?.map (·, i)).toList
    else pairs

/-- The opening parentheses in front of a place that are not matched there, in order. -/
def openingsBefore (r : Relation) (stop : Nat) : List Nat :=
  unmatchedBefore .openParen r stop ((r.pairsBefore stop).map Prod.fst)

/-- The closing parentheses in front of a place that match nothing, in order. -/
def closingsBefore (r : Relation) (stop : Nat) : List Nat :=
  unmatchedBefore .closeParen r stop ((r.pairsBefore stop).map Prod.snd)

def unmatchedOpenings (r : Relation) : List Nat := r.openingsBefore r.length

def unmatchedClosings (r : Relation) : List Nat := r.closingsBefore r.length

section Pairs

variable {o : Operator} {r : Relation} {i stop : Nat} {matched : List Nat}

lemma lt_of_mem_unmatchedBefore (h : i ∈ unmatchedBefore o r stop matched) : i < stop :=
  List.mem_range.mp (List.mem_filter.mp h).1

lemma nodup_unmatchedBefore : (unmatchedBefore o r stop matched).Nodup :=
  List.nodup_range.filter _

lemma unmatchedBefore_succ_of_eq (h : r[i]? = some (.op o)) (hi : i ∉ matched) :
    unmatchedBefore o r (i + 1) matched = unmatchedBefore o r i matched ++ [i] := by
  rw [unmatchedBefore, List.range_succ, List.filter_append, List.filter_singleton,
    decide_eq_true (And.intro h hi)]
  rfl

lemma unmatchedBefore_succ_of_ne (h : r[i]? ≠ some (.op o)) :
    unmatchedBefore o r (i + 1) matched = unmatchedBefore o r i matched := by
  have hnot : ¬ (r[i]? = some (.op o) ∧ i ∉ matched) := fun hi => h hi.1
  rw [unmatchedBefore, List.range_succ, List.filter_append, List.filter_singleton,
    decide_eq_false hnot]
  exact List.append_nil _

/-- One more place that is matched is one place less. -/
lemma unmatchedBefore_concat (j : Nat) : unmatchedBefore o r stop (matched ++ [j]) =
    (unmatchedBefore o r stop matched).filter (· ≠ j) := by
  rw [unmatchedBefore, unmatchedBefore, List.filter_filter]
  refine List.filter_congr fun i _ => ?_
  rw [← Bool.decide_and]
  refine decide_eq_decide.mpr ?_
  rw [List.mem_append, List.mem_singleton, not_or]
  tauto

lemma filter_ne_concat_self {places : List Nat} {j : Nat} (h : j ∉ places) :
    (places ++ [j]).filter (· ≠ j) = places := by
  have hothers : ∀ i ∈ places, decide (i ≠ j) = true := fun i hi =>
    decide_eq_true fun heq => h (heq ▸ hi)
  rw [List.filter_append, List.filter_eq_self.mpr hothers, List.filter_cons_of_neg (by simp)]
  exact List.append_nil _

lemma pairsBefore_of_not_close (h : r[i]? ≠ some (.op .closeParen)) :
    r.pairsBefore (i + 1) = r.pairsBefore i := by
  rw [pairsBefore, if_neg h]

lemma pairsBefore_of_close (h : r[i]? = some (.op .closeParen)) :
    r.pairsBefore (i + 1) =
      r.pairsBefore i ++ ((r.openingsBefore i).getLast?.map (·, i)).toList := by
  rw [pairsBefore, if_pos h]
  rfl

/-- An opening parenthesis stands before the closing one that matches it. -/
lemma lt_of_mem_pairsBefore {p : Nat × Nat} (h : p ∈ r.pairsBefore stop) :
    p.1 < p.2 ∧ p.2 < stop := by
  induction stop with
  | zero => cases h
  | succ i ih =>
    by_cases hclose : r[i]? = some (.op .closeParen)
    · rw [pairsBefore_of_close hclose, List.mem_append, Option.mem_toList] at h
      rcases h with hold | hnew
      · have := ih hold
        omega
      · obtain ⟨opening, hlast, rfl⟩ := Option.map_eq_some_iff.mp hnew
        exact ⟨lt_of_mem_unmatchedBefore (List.mem_of_getLast? hlast), Nat.lt_succ_self i⟩
    · rw [pairsBefore_of_not_close hclose] at h
      have := ih h
      omega

/-- A place is in none of the pairs in front of it. -/
lemma not_mem_map_pairsBefore {f : Nat × Nat → Nat} (hf : ∀ p : Nat × Nat, p.1 < p.2 → f p ≤ p.2)
    (r : Relation) (i : Nat) : i ∉ (r.pairsBefore i).map f := by
  intro h
  obtain ⟨p, hp, rfl⟩ := List.mem_map.mp h
  obtain ⟨hpair, hstop⟩ := lt_of_mem_pairsBefore hp
  exact Nat.not_le_of_lt hstop (hf p hpair)

lemma not_mem_map_fst (r : Relation) (i : Nat) : i ∉ (r.pairsBefore i).map Prod.fst :=
  not_mem_map_pairsBefore (fun _ => Nat.le_of_lt) r i

lemma not_mem_map_snd (r : Relation) (i : Nat) : i ∉ (r.pairsBefore i).map Prod.snd :=
  not_mem_map_pairsBefore (fun _ _ => Nat.le_refl _) r i

end Pairs

/-! ## One more token -/

section Step

variable {r : Relation} {i : Nat}

lemma before_succ_of_open (h : r[i]? = some (.op .openParen)) :
    r.openingsBefore (i + 1) = r.openingsBefore i ++ [i] ∧
      r.closingsBefore (i + 1) = r.closingsBefore i := by
  have hclose : r[i]? ≠ some (.op .closeParen) := by rw [h]; decide
  constructor
  · rw [openingsBefore, pairsBefore_of_not_close hclose,
      unmatchedBefore_succ_of_eq h (not_mem_map_fst r i)]
    rfl
  · rw [closingsBefore, pairsBefore_of_not_close hclose, unmatchedBefore_succ_of_ne hclose]
    rfl

lemma before_succ_of_other (hopen : r[i]? ≠ some (.op .openParen))
    (hclose : r[i]? ≠ some (.op .closeParen)) :
    r.openingsBefore (i + 1) = r.openingsBefore i ∧
      r.closingsBefore (i + 1) = r.closingsBefore i := by
  constructor
  · rw [openingsBefore, pairsBefore_of_not_close hclose, unmatchedBefore_succ_of_ne hopen]
    rfl
  · rw [closingsBefore, pairsBefore_of_not_close hclose, unmatchedBefore_succ_of_ne hclose]
    rfl

/-- Where all opening parentheses are matched, a closing one matches nothing. -/
lemma before_succ_of_close_of_nil (h : r[i]? = some (.op .closeParen))
    (hnone : r.openingsBefore i = []) :
    r.openingsBefore (i + 1) = [] ∧ r.closingsBefore (i + 1) = r.closingsBefore i ++ [i] := by
  have hpairs : r.pairsBefore (i + 1) = r.pairsBefore i := by
    rw [pairsBefore_of_close h, hnone]
    exact List.append_nil _
  have hopen : r[i]? ≠ some (.op .openParen) := by rw [h]; decide
  constructor
  · rw [openingsBefore, hpairs, unmatchedBefore_succ_of_ne hopen]
    exact hnone
  · rw [closingsBefore, hpairs, unmatchedBefore_succ_of_eq h (not_mem_map_snd r i)]
    rfl

/-- A closing parenthesis matches the last of the opening ones. -/
lemma before_succ_of_close_of_concat {front : List Nat} {o : Nat}
    (h : r[i]? = some (.op .closeParen)) (hlast : r.openingsBefore i = front ++ [o]) :
    r.openingsBefore (i + 1) = front ∧ r.closingsBefore (i + 1) = r.closingsBefore i := by
  have hpairs : r.pairsBefore (i + 1) = r.pairsBefore i ++ [(o, i)] := by
    rw [pairsBefore_of_close h, hlast, List.getLast?_concat, Option.map_some, Option.toList_some]
  have hopen : r[i]? ≠ some (.op .openParen) := by rw [h]; decide
  constructor
  · -- no other of them stands at the same place
    have hnodup : (front ++ [o]).Nodup := hlast ▸ nodup_unmatchedBefore
    have hfront : o ∉ front := fun ho =>
      List.disjoint_of_nodup_append hnodup ho (List.mem_singleton_self o)
    calc r.openingsBefore (i + 1)
        = (r.openingsBefore i).filter (· ≠ o) := by
          rw [openingsBefore, hpairs, List.map_append, List.map_cons, List.map_nil,
            unmatchedBefore_concat, unmatchedBefore_succ_of_ne hopen]
          rfl
      _ = front := by rw [hlast, filter_ne_concat_self hfront]
  · have hbefore : i ∉ r.closingsBefore i := fun hi =>
      Nat.lt_irrefl i (lt_of_mem_unmatchedBefore hi)
    calc r.closingsBefore (i + 1)
        = (r.closingsBefore i ++ [i]).filter (· ≠ i) := by
          rw [closingsBefore, hpairs, List.map_append, List.map_cons, List.map_nil,
            unmatchedBefore_concat, unmatchedBefore_succ_of_eq h (not_mem_map_snd r i)]
          rfl
      _ = r.closingsBefore i := filter_ne_concat_self hbefore

/-- What a token does to the places that are unmatched, as a diagnosis reckons it: with the number
of open parentheses alone. -/
lemma unmatched_succ {t : Token} (h : r[i]? = some t) :
    (r.openingsBefore (i + 1)).length = depthBehind (r.openingsBefore i).length t ∧
      r.closingsBefore (i + 1) = r.closingsBefore i ++
        if t = .op .closeParen ∧ (r.openingsBefore i).length = 0 then [i] else [] := by
  match t, h with
  | .op .openParen, h =>
    obtain ⟨hopenings, hclosings⟩ := before_succ_of_open h
    rw [hopenings, hclosings, List.length_append, if_neg (by simp), List.append_nil]
    exact ⟨rfl, rfl⟩
  | .op .closeParen, h =>
    rcases List.eq_nil_or_concat (r.openingsBefore i) with hnone | ⟨front, o, hlast⟩
    · obtain ⟨hopenings, hclosings⟩ := before_succ_of_close_of_nil h hnone
      rw [hopenings, hclosings, hnone, if_pos ⟨rfl, rfl⟩]
      exact ⟨rfl, rfl⟩
    · rw [List.concat_eq_append] at hlast
      obtain ⟨hopenings, hclosings⟩ := before_succ_of_close_of_concat h hlast
      rw [hopenings, hclosings, hlast, List.length_append, if_neg (by simp), List.append_nil]
      exact ⟨rfl, rfl⟩
  | .ref _, h | .op .and, h | .op .or, h | .op .not, h =>
    obtain ⟨hopenings, hclosings⟩ := before_succ_of_other (r := r) (i := i)
      (by rw [h]; simp) (by rw [h]; simp)
    rw [hopenings, hclosings, if_neg (by simp), List.append_nil]
    exact ⟨rfl, rfl⟩

end Step

/-! ## What is reported -/

section Diagnosis

variable {coins : CoinSet} {index depth : Nat} {previous : Option Token} {r : Relation}

lemma unmatchedClose_issueAt? (next : Option Token) (t : Token) :
    (issueAt? coins index depth previous next t).toList.filter (·.kind = .unmatchedClose) =
      if t = .op .closeParen ∧ depth = 0 then [.unmatchedClose index] else [] := by
  match t with
  | .ref (.label _) | .op .openParen => rfl
  | .op .closeParen => by_cases hdepth : depth = 0 <;> simp [issueAt?, hdepth, Issue.kind]
  | .ref (.coin _) | .op .and | .op .or | .op .not =>
    simp only [issueAt?]
    split <;> rfl

/-- The closing parentheses in front of a place that match nothing, and those reported from there
on, are all that match nothing. -/
lemma unmatchedClose_diagnoseFrom {i : Nat} (hi : i ≤ r.length) :
    (r.closingsBefore i).map .unmatchedClose ++
        (diagnoseFrom coins i (r.openingsBefore i).length previous (r.drop i)).filter
          (·.kind = .unmatchedClose) =
      r.unmatchedClosings.map .unmatchedClose := by
  generalize hrest : r.drop i = rest
  induction rest generalizing i previous with
  | nil =>
    obtain rfl : i = r.length := Nat.le_antisymm hi (List.drop_eq_nil_iff.mp hrest)
    have hnone : (diagnoseFrom coins r.length (r.openingsBefore r.length).length previous []).filter
        (·.kind = .unmatchedClose) = [] := by
      rw [diagnoseFrom]
      split <;> rfl
    rw [hnone, List.append_nil]
    rfl
  | cons t rest ih =>
    have ht : r[i]? = some t := by rw [← List.head?_drop, hrest, List.head?_cons]
    have hlater : r.drop (i + 1) = rest := by rw [← List.tail_drop, hrest, List.tail_cons]
    have hlt : i < r.length := (List.getElem?_eq_some_iff.mp ht).1
    have hreported : (r.closingsBefore (i + 1)).map .unmatchedClose ++
        (diagnoseFrom coins (i + 1) (r.openingsBefore (i + 1)).length (some t) rest).filter
          (·.kind = .unmatchedClose) = r.unmatchedClosings.map .unmatchedClose := ih hlt hlater
    obtain ⟨hdepth, hclosings⟩ := unmatched_succ ht
    rw [← hreported, diagnoseFrom_cons, List.filter_append, unmatchedClose_issueAt?,
      ← List.append_assoc, ← hdepth, hclosings, List.map_append]
    congr 2
    split <;> rfl

lemma issuesOf_unmatchedClose (r : Relation) (coins : CoinSet) :
    r.issuesOf .unmatchedClose coins = r.unmatchedClosings.map .unmatchedClose :=
  unmatchedClose_diagnoseFrom (Nat.zero_le r.length)

end Diagnosis

/-- The count of a nesting is that of the opening parentheses that are not matched. -/
lemma depth_nesting_take {r : Relation} {i : Nat} (hi : i ≤ r.length) :
    (nesting (r.take i)).depth = (r.openingsBefore i).length := by
  induction i with
  | zero => rfl
  | succ i ih =>
    have ht : r[i]? = some r[i] := List.getElem?_eq_getElem hi
    rw [(unmatched_succ ht).1, ← ih (Nat.le_of_succ_le hi), ← Nesting.depth_read, List.take_add_one,
      ht, nesting, List.foldl_append]
    rfl

end Relation

/-! ## Dyck words -/

/-- A parenthesis as a letter of a Dyck word. -/
def Token.dyckStep? : Token → Option DyckStep
  | .op .openParen => some .U
  | .op .closeParen => some .D
  | _ => none

namespace Relation

/-- The word of the parentheses, without the tokens between them. -/
def parentheses (r : Relation) : List DyckStep := r.filterMap Token.dyckStep?

lemma parentheses_append (r s : Relation) :
    parentheses (r ++ s) = r.parentheses ++ s.parentheses := List.filterMap_append

lemma nesting_concat (r : Relation) (t : Token) : nesting (r ++ [t]) = r.nesting.read t := by
  rw [nesting, List.foldl_append]
  rfl

lemma Nesting.balance_read (n : Nesting) (t : Token) :
    (n.read t).depth + (parentheses [t]).count .D + n.unmatched =
      (n.read t).unmatched + (parentheses [t]).count .U + n.depth := by
  match t with
  | .ref _ | .op .and | .op .or | .op .not => exact Nat.add_comm n.depth n.unmatched
  | .op .openParen =>
    change n.depth + 1 + 0 + n.unmatched = n.unmatched + 1 + n.depth
    omega
  | .op .closeParen =>
    have hword : parentheses [.op .closeParen] = [.D] := rfl
    rw [Nesting.read, hword]
    split <;> simp <;> omega

/-- A parenthesis that is not counted by the nesting has its partner. -/
lemma depth_add_count (r : Relation) :
    r.nesting.depth + r.parentheses.count .D = r.nesting.unmatched + r.parentheses.count .U := by
  induction r using List.reverseRecOn with
  | nil => rfl
  | append_singleton r t ih =>
    have hread := Nesting.balance_read (nesting r) t
    rw [nesting_concat, parentheses_append, List.count_append, List.count_append]
    omega

lemma Nesting.unmatched_read (n : Nesting) (t : Token) :
    (n.read t).unmatched = n.unmatched + if t = .op .closeParen ∧ n.depth = 0 then 1 else 0 := by
  match t with
  | .ref _ | .op .openParen | .op .and | .op .or | .op .not => rw [if_neg (by simp)]; rfl
  | .op .closeParen => by_cases hdepth : n.depth = 0 <;> simp [Nesting.read, hdepth]

/-- Reading on, no closing parenthesis gets its partner. -/
lemma unmatched_le_of_prefix {front r : Relation} (h : front <+: r) :
    front.nesting.unmatched ≤ r.nesting.unmatched := by
  obtain ⟨back, rfl⟩ := h
  induction back using List.reverseRecOn with
  | nil => rw [List.append_nil]
  | append_singleton back t ih =>
    rw [← List.append_assoc, nesting_concat, Nesting.unmatched_read]
    exact Nat.le_add_right_of_le ih

/-- Where the closing parentheses never outnumber the opening ones before them, all are matched. -/
lemma unmatched_eq_zero {r : Relation}
    (h : ∀ front : Relation, front <+: r →
      front.parentheses.count .D ≤ front.parentheses.count .U) : r.nesting.unmatched = 0 := by
  induction r using List.reverseRecOn with
  | nil => rfl
  | append_singleton r t ih =>
    have hfront : (nesting r).unmatched = 0 :=
      ih fun front hpart => h front (hpart.trans (List.prefix_append r [t]))
    have hmatched : ¬ (t = .op .closeParen ∧ (nesting r).depth = 0) := by
      rintro ⟨rfl, hdepth⟩
      have hcount := h (r ++ [.op .closeParen]) (List.prefix_refl _)
      have hbalance := depth_add_count r
      have hword : parentheses (r ++ [.op .closeParen]) = parentheses r ++ [.D] :=
        parentheses_append r _
      rw [hword, List.count_append, List.count_append] at hcount
      simp at hcount
      omega
    rw [nesting_concat, Nesting.unmatched_read, hfront, if_neg hmatched]

/-- The parentheses are a Dyck word exactly when nothing is left unmatched. -/
lemma exists_dyckWord_iff (r : Relation) : (∃ word : DyckWord, word.toList = r.parentheses) ↔
    r.nesting.unmatched = 0 ∧ r.nesting.depth = 0 := by
  have hbalance := depth_add_count r
  constructor
  · rintro ⟨word, hword⟩
    have hunmatched : r.nesting.unmatched = 0 := by
      refine unmatched_eq_zero ?_
      rintro front ⟨back, rfl⟩
      have htake : (parentheses (front ++ back)).take (parentheses front).length =
          parentheses front := by
        rw [parentheses_append, List.take_left]
      have hcount := word.count_D_le_count_U (parentheses front).length
      rwa [hword, htake] at hcount
    have hequal := word.count_U_eq_count_D
    rw [hword] at hequal
    exact ⟨hunmatched, by omega⟩
  · rintro ⟨hunmatched, hdepth⟩
    refine ⟨⟨r.parentheses, by omega, fun i => ?_⟩, rfl⟩
    -- what is taken of the word is the word of a part of the relation
    obtain ⟨front, back, hr, hfront, -⟩ :=
      List.filterMap_eq_append_iff.mp (List.take_append_drop i r.parentheses).symm
    have hle : (nesting front).unmatched ≤ r.nesting.unmatched :=
      unmatched_le_of_prefix ⟨back, hr.symm⟩
    have hcount := depth_add_count front
    rw [← hfront]
    change (parentheses front).count .D ≤ (parentheses front).count .U
    omega

/-- **A diagnosis matches the parentheses.**  Match each closing parenthesis, in order, with the
nearest opening one before it that is not matched yet.  The closing ones that find no partner are
those that are reported, in order, and how many opening ones are left is reported if any are.  So
neither is reported exactly when the parentheses, without the other tokens, are a Dyck word; and a
pair of parentheses with nothing between them can be taken out without making a difference. -/
theorem diagnose_matches_parentheses (r : Relation) (coins : CoinSet) :
    r.issuesOf .unmatchedClose coins = r.unmatchedClosings.map .unmatchedClose ∧
    r.issuesOf .unclosedOpen coins = (if r.unmatchedOpenings = [] then []
      else [.unclosedOpen r.unmatchedOpenings.length]) ∧
    (r.issuesOf .unmatchedClose coins = [] ∧ r.issuesOf .unclosedOpen coins = [] ↔
      ∃ word : DyckWord, word.toList = r.parentheses) ∧
    ∀ front back : Relation,
      let group := front ++ .op .openParen :: .op .closeParen :: back
      ((front ++ back).issuesOf .unmatchedClose coins).length =
        (group.issuesOf .unmatchedClose coins).length ∧
      (front ++ back).issuesOf .unclosedOpen coins = group.issuesOf .unclosedOpen coins := by
  refine ⟨issuesOf_unmatchedClose r coins, ?_, ?_, fun front back => ?_⟩
  · have hdepth := depth_nesting_take (Nat.le_refl r.length)
    rw [List.take_length] at hdepth
    rw [issuesOf_unclosedOpen, hdepth]
    exact if_congr List.length_eq_zero_iff rfl rfl
  · rw [exists_dyckWord_iff, ← length_issuesOf_unmatchedClose r coins, List.length_eq_zero_iff,
      issuesOf_unclosedOpen]
    simp
  · have hnesting := overlooks_nesting.emptyGroup front back
    dsimp only
    rw [length_issuesOf_unmatchedClose, length_issuesOf_unmatchedClose, issuesOf_unclosedOpen,
      issuesOf_unclosedOpen, hnesting]
    exact ⟨rfl, rfl⟩

/-- Two are matched, one inside the other; the closing one in front and the last opening one are
not. -/
example :
    let r : Relation := [.op .closeParen, .op .openParen, .label 1, .op .openParen, .op .closeParen,
      .op .and, .op .closeParen, .op .openParen]
    r.pairsBefore r.length = [(3, 4), (1, 6)] ∧ r.unmatchedClosings = [0] ∧
      r.unmatchedOpenings = [7] := by
  decide

end Relation

end CoinQuery
