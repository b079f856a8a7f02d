import CoinQuery.Proofs.Relation.Diagnosis
import CoinQuery.Proofs.Relation.Survivors

/-!
# Diagnoses of pruned relations

Pruning takes operators away, and each that goes leaves others beside tokens they did not stand
beside.  It still damages nothing, in any relation, however little sense it makes.  Labels and
parentheses are views that overlook what a gap loses (`Relation.Overlooks`), so what is wrong with
them is the same before and after.

Operators are judged by what stands beside them, and for these the gap is compared with the operand
that was there (`Relation.faults_closeGap_le`).  While the operand fills the gap, the operator in
front has something to start behind it and the operator behind has something to end in front.  When
the gap closes, an operator behind it may come to stand where no operand ends.  But then the gap
lost the operator in front, and that one stood there and lacked an operand itself.

The main result is `Relation.prune_keeps_structure`.
-/

namespace CoinQuery

variable {coins : CoinSet} {f : Fault}

/-! ## Faults of one token -/

/-- No reference has a fault. -/
lemma Fault.count_ref (ends starts : Bool) (target : Reference) :
    f.count ends starts (.ref target) = 0 := by
  cases f <;> rfl

/-- An operand less in front of a token takes no fault away. -/
lemma Fault.count_le_of_ends (ends starts : Bool) (t : Token) :
    f.count ends starts t ≤ f.count false starts t := by
  match t with
  | .ref target => rw [Fault.count_ref]; exact Nat.zero_le _
  | .op o => cases f <;> cases o <;> cases ends <;> cases starts <;> decide

/-- An operand less behind a token takes no fault away. -/
lemma Fault.count_le_of_starts (ends starts : Bool) (t : Token) :
    f.count ends starts t ≤ f.count ends false t := by
  match t with
  | .ref target => rw [Fault.count_ref]; exact Nat.zero_le _
  | .op o => cases f <;> cases o <;> cases ends <;> cases starts <;> decide

/-- Where no operand ends, the token behind can lack no more than a binary operator in front of it
lacked there. -/
lemma Fault.count_le_binary {b : Token} (hb : b.isBinary = true) (ends starts : Bool) (t : Token) :
    f.count ends starts t ≤ f.count ends true b + f.count true starts t := by
  match b, hb with
  | .op .and, _ | .op .or, _ =>
    match t with
    | .ref target => rw [Fault.count_ref]; exact Nat.zero_le _
    | .op o => cases f <;> cases o <;> cases ends <;> cases starts <;> decide

lemma Token.startsOperand_of_isBinary {b : Token} (hb : b.isBinary = true) :
    b.startsOperand = false := by
  match b, hb with
  | .op .and, _ | .op .or, _ => rfl

namespace Relation

/-! ## Faults around a gap -/

/-- How many operators in front of a gap have this fault, the last token first, when an operand
starts behind them or not. -/
def faultsBefore (f : Fault) (starts : Bool) : Relation → Nat
  | [] => 0
  | t :: before =>
    f.count (before.head?.any Token.endsOperand) starts t + faultsBefore f t.startsOperand before

/-- The faults of a relation are those on both sides of any place in it. -/
lemma faults_reverse_append (before after : Relation) :
    faults f false (before.reverse ++ after) =
      faultsBefore f (after.head?.any Token.startsOperand) before +
        faults f (before.head?.any Token.endsOperand) after := by
  induction before generalizing after with
  | nil => simp [faultsBefore]
  | cons t before ih =>
    rw [List.reverse_cons, List.append_assoc, List.singleton_append, ih]
    simp only [faults, faultsBefore, List.head?_cons, Option.any_some]
    omega

lemma faults_le (ends : Bool) (after : Relation) : faults f ends after ≤ faults f false after := by
  cases after with
  | nil => exact Nat.le_refl _
  | cons t after => exact Nat.add_le_add_right (Fault.count_le_of_ends _ _ t) _

lemma faultsBefore_le (starts : Bool) (before : Relation) :
    faultsBefore f starts before ≤ faultsBefore f false before := by
  cases before with
  | nil => exact Nat.le_refl _
  | cons t before => exact Nat.add_le_add_right (Fault.count_le_of_starts _ _ t) _

/-! ## Closing a gap -/

/-- The faults on both sides of a gap where an operand stood: one ends in front of the tokens behind
it, and one starts behind the tokens in front. -/
def faultsAroundOperand (f : Fault) (before after : Relation) : Nat :=
  faultsBefore f true before + faults f true after

/-- No `NOT` is at fault in front of an operand, and an operand starts with it. -/
lemma faultsBefore_dropWhile_not (before : Relation) :
    faultsBefore f true (before.dropWhile (· = .op .not)) = faultsBefore f true before := by
  induction before with
  | nil => rfl
  | cons t before ih =>
    by_cases ht : t = .op .not
    · have hnot : ∀ ends, f.count ends true (.op .not) = 0 := fun ends => by cases f <;> rfl
      rw [List.dropWhile_cons_of_pos (by simpa using ht), ih, ht, faultsBefore, hnot, Nat.zero_add]
      rfl
    · rw [List.dropWhile_cons_of_neg (by simpa using ht)]

lemma faults_le_binary {b : Token} (hb : b.isBinary = true) (ends : Bool) (after : Relation) :
    faults f ends after ≤ f.count ends true b + faults f true after := by
  cases after with
  | nil => exact Nat.zero_le _
  | cons t after =>
    have hhead := Fault.count_le_binary (f := f) hb ends (after.head?.any Token.startsOperand) t
    simp only [faults]
    omega

/-- A token that is no word of an operator has no fault, whatever stands behind it. -/
lemma faultsBefore_of_rests {before : Relation} (hnot : before.head? ≠ some (.op .not))
    (hbinary : before.head?.any Token.isBinary = false) (starts : Bool) :
    faultsBefore f starts before = faultsBefore f true before := by
  match before with
  | [] => rfl
  | .ref _ :: _ | .op .openParen :: _ | .op .closeParen :: _ => cases f <;> rfl
  | .op .not :: _ => exact absurd rfl hnot
  | .op .and :: _ | .op .or :: _ => cases hbinary

lemma faults_dropBinary_le (ends : Bool) (after : Relation) :
    faults f ends (dropBinary after) ≤ faults f true after := by
  match after with
  | [] => exact Nat.le_refl _
  | .op .and :: after | .op .or :: after =>
    exact Nat.le_trans (faults_le ends after) (Nat.le_add_left _ _)
  | .ref _ :: _ | .op .not :: _ | .op .openParen :: _ | .op .closeParen :: _ =>
    cases f <;> exact Nat.le_refl _

/-- The operator that is lost makes up for a fault of the operator behind the gap. -/
lemma faults_dropOperator_le {before : Relation} (hnot : before.head? ≠ some (.op .not))
    (after : Relation) :
    faults f false ((dropOperator before after).1.reverse ++ (dropOperator before after).2) ≤
      faultsAroundOperand f before after := by
  rw [faults_reverse_append, faultsAroundOperand]
  cases before with
  | nil =>
    have hafter := faults_dropBinary_le (f := f) false after
    simpa [dropOperator, faultsBefore] using hafter
  | cons b before =>
    rw [dropOperator]
    split
    · -- the operator in front goes, and the tokens on both sides of it come together
      rename_i hb
      have hbefore : faultsBefore f (after.head?.any Token.startsOperand) before ≤
        faultsBefore f false before := faultsBefore_le _ before
      have hafter := faults_le_binary (f := f) hb (before.head?.any Token.endsOperand) after
      rw [faultsBefore, Token.startsOperand_of_isBinary hb]
      dsimp only
      omega
    · rename_i hb
      have hbinary : (b :: before).head?.any Token.isBinary = false := by simpa using hb
      rw [faultsBefore_of_rests hnot hbinary]
      exact Nat.add_le_add_left (faults_dropBinary_le _ after) _

lemma head?_dropWhile_not (before : Relation) :
    (before.dropWhile (· = .op .not)).head? ≠ some (.op .not) := by
  intro hhead
  have hkept := List.head?_dropWhile_not (fun t : Token => decide (t = .op .not)) before
  rw [hhead] at hkept
  simp at hkept

/-- A gap that is closed is no worse than an operand that fills it. -/
lemma faults_closeGap_le (before after : Relation) :
    faults f false ((closeGap before after).1.reverse ++ (closeGap before after).2) ≤
      faultsAroundOperand f before after := by
  -- what happens at a gap before an empty group is looked for
  have hstep : ∀ before after : Relation,
      let gap := dropOperator (before.dropWhile (· = .op .not)) after
      faults f false (gap.1.reverse ++ gap.2) ≤ faultsAroundOperand f before after := by
    intro before after
    have hdrop := faults_dropOperator_le (f := f) (head?_dropWhile_not before) after
    rwa [faultsAroundOperand, faultsBefore_dropWhile_not] at hdrop
  fun_induction closeGap before after with
  | case1 before after before' after' hgroup ih =>
    have hgap := hstep before after
    -- an empty group stands beside the tokens around it as an operand does
    have hoperand : faults f false ((.op .openParen :: before').reverse ++
        .op .closeParen :: after') = faultsAroundOperand f before' after' := by
      rw [faults_reverse_append]
      cases f <;> simp [faultsBefore, faults, faultsAroundOperand, Fault.count,
        Token.startsOperand, Token.endsOperand]
    simp only [hgroup, hoperand] at hgap
    exact Nat.le_trans ih hgap
  | case2 before after _ => exact hstep before after

/-! ## The pass -/

lemma faults_of_isStale {t : Token} (ht : t.isStale coins = true) (before after : Relation) :
    faults f false (before.reverse ++ t :: after) = faultsAroundOperand f before after := by
  match t, ht with
  | .ref target, _ =>
    rw [faults_reverse_append, faults, Fault.count_ref, Nat.zero_add]
    rfl

lemma faults_prunedFrom_le (before after : Relation) :
    faults f false (prunedFrom coins before after) ≤ faults f false (before.reverse ++ after) := by
  rw [← fst_pruneFrom before after 0]
  fun_induction pruneFrom coins before after 0 with
  | case1 before count => exact Nat.le_of_eq (by rw [List.append_nil])
  | case2 before count t after ht ih =>
    rw [faults_of_isStale ht]
    exact Nat.le_trans ih (faults_closeGap_le before after)
  | case3 before count t after hlive ih => simpa using ih

lemma faults_prune_le (f : Fault) (r : Relation) (coins : CoinSet) :
    (r.prune coins).faults f false ≤ r.faults f false :=
  faults_prunedFrom_le [] r

lemma length_issuesOf_prune_le (f : Fault) (r : Relation) (coins : CoinSet) :
    ((r.prune coins).issuesOf f.kind coins).length ≤ (r.issuesOf f.kind coins).length := by
  rw [length_issuesOf, length_issuesOf]
  exact faults_prune_le f r coins

/-! ## Parentheses and labels -/

/-- Parentheses are nested in the same way without the other tokens, and without an empty group. -/
lemma overlooks_nesting : Overlooks nesting where
  word front o back hopen hclose := by
    have hread : ∀ n : Nesting, n.read (.op o) = n := fun n => by
      match o with
      | .and | .or | .not => rfl
      | .openParen => exact absurd rfl hopen
      | .closeParen => exact absurd rfl hclose
    rw [nesting, nesting, List.foldl_append, List.foldl_append, List.foldl_cons, hread]
  emptyGroup front back := by
    rw [nesting, nesting, List.foldl_append, List.foldl_append, List.foldl_cons, List.foldl_cons,
      Nesting.read_openParen_closeParen]

lemma nesting_prune (r : Relation) (coins : CoinSet) : (r.prune coins).nesting = r.nesting := by
  refine overlooks_nesting.prune ?_ r
  intro front t back ht
  match t, ht with
  | .ref (.coin id), _ =>
    rw [nesting, nesting, List.foldl_append, List.foldl_append, List.foldl_cons]
    rfl

lemma labels_prune (r : Relation) (coins : CoinSet) : (r.prune coins).labels = r.labels := by
  have hlabels : Overlooks labels := overlooks_filterMap fun _ => rfl
  refine hlabels.prune ?_ r
  intro front t back ht
  match t, ht with
  | .ref (.coin id), _ => simp [labels, List.filterMap_append]

/-- **Pruning damages no structure.**  Compare what is wrong with a relation before and after it is
pruned, against the same coins.  As many parentheses close nothing; as many are never closed, or
none before and after; and the same labels name no coin, in the same order.  Operators that lack an
operand do not become more, and neither do `NOT`s without anything to negate.  So a relation with no
structural issues has none afterwards. -/
theorem prune_keeps_structure (r : Relation) (coins : CoinSet) :
    ((r.prune coins).issuesOf .unmatchedClose coins).length =
      (r.issuesOf .unmatchedClose coins).length ∧
    (r.prune coins).issuesOf .unclosedOpen coins = r.issuesOf .unclosedOpen coins ∧
    (r.prune coins).issuesOf .unresolvedLabel coins = r.issuesOf .unresolvedLabel coins ∧
    ((r.prune coins).issuesOf .missingOperand coins).length ≤
      (r.issuesOf .missingOperand coins).length ∧
    ((r.prune coins).issuesOf .danglingNot coins).length ≤
      (r.issuesOf .danglingNot coins).length ∧
    (r.Clean coins → (r.prune coins).Clean coins) := by
  have hunmatched : ((r.prune coins).issuesOf .unmatchedClose coins).length =
      (r.issuesOf .unmatchedClose coins).length := by
    rw [length_issuesOf_unmatchedClose, length_issuesOf_unmatchedClose, nesting_prune]
  have hunclosed : (r.prune coins).issuesOf .unclosedOpen coins =
      r.issuesOf .unclosedOpen coins := by
    rw [issuesOf_unclosedOpen, issuesOf_unclosedOpen, nesting_prune]
  have hmissing := length_issuesOf_prune_le .missingOperand r coins
  have hdangling := length_issuesOf_prune_le .danglingNot r coins
  refine ⟨hunmatched, hunclosed, ?_, hmissing, hdangling, ?_⟩
  · rw [issuesOf_unresolvedLabel, issuesOf_unresolvedLabel, labels_prune]
  · intro hclean
    obtain ⟨hclose, hopen, hoperand, hnot⟩ := clean_iff.mp hclean
    have hnone : ∀ {fewer more : List Issue}, fewer.length ≤ more.length → more = [] →
        fewer = [] := by
      rintro fewer more hle rfl
      exact List.length_eq_zero_iff.mp (Nat.le_zero.mp hle)
    exact clean_iff.mpr ⟨hnone (Nat.le_of_eq hunmatched) hclose, hunclosed.trans hopen,
      hnone hmissing hoperand, hnone hdangling hnot⟩

/-- Two operands side by side and an empty group are no structural issues, and pruning the stale
references around them brings none. -/
theorem prune_keeps_structure_juxtaposed :
    let r : Relation := [.op .openParen, .coin ⟨1⟩, .coin ⟨2⟩, .op .or, .op .not, .coin ⟨1⟩,
      .op .closeParen, .op .openParen, .op .closeParen]
    let coins : CoinSet := [⟨⟨2⟩, .empty⟩]
    r.Clean coins ∧ (r.prune coins).Clean coins ∧
      r.prune coins = [.op .openParen, .coin ⟨2⟩, .op .closeParen, .op .openParen,
        .op .closeParen] := by
  intro r coins
  have hclean : ∀ issue ∈ r.diagnose coins, issue.isStructural = false := by decide +kernel
  obtain ⟨-, -, -, -, -, hkept⟩ := prune_keeps_structure r coins
  exact ⟨hclean, hkept hclean, by decide +kernel⟩

end Relation

end CoinQuery
