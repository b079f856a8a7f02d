import CoinQuery.CommandLine.Run
import CoinQuery.Proofs.Relation.BoundDiagnosis
import CoinQuery.Proofs.Relation.BoundLabels
import CoinQuery.Proofs.Relation.DiagnosedExpression
import CoinQuery.Proofs.Relation.Visual

/-!
# What an inspection shows

An inspection strikes some coins for a text to refer to.  How many matters little: the lexemes, the
canonical text and the texts of the nodes are the same for every number of coins, and so is what is
wrong with parentheses and operators.  The coins are numbered from one on, so their number only
decides which labels are bound (`Token.numbered`) and which are reported.

`Inspection.Shows` tells all this by the text and the number of coins alone.  In it, what does not
depend on the number is said of the tokens as they are read, against no coins.

The main result is `inspect_ignores_count`.  Unless the number of coins is given, it is the greatest
label of the text, up to a limit; so only `C0` and labels beyond the limit are reported then.
-/

namespace CoinQuery

open Text

/-! ## The coins of an inspection -/

lemma Mint.ids_strikeMany (m : Mint) (count : Nat) :
    (m.strikeMany count).1.map Coin.id = (List.range' (m.lastId + 1) count).map CoinId.mk := by
  induction count generalizing m with
  | zero => rfl
  | succ count ih =>
    have hrest : (m.strike.2.strikeMany count).1.map Coin.id =
        (List.range' (m.lastId + 1 + 1) count).map CoinId.mk := ih m.strike.2
    rw [strikeMany, List.range'_succ, List.map_cons, List.map_cons, hrest]
    rfl

lemma ids_blankCoins (count : Nat) :
    (blankCoins count).map Coin.id = (List.range' 1 count).map CoinId.mk :=
  Mint.new.ids_strikeMany count

lemma distinct_blankCoins (count : Nat) : (blankCoins count).Distinct := by
  have hinjective : Function.Injective CoinId.mk := fun _ _ h => CoinId.mk.inj h
  rw [CoinSet.Distinct, ids_blankCoins]
  exact (List.nodup_range' 1).map hinjective

/-- The coins are numbered from one on. -/
lemma idAt?_blankCoins (count n : Nat) :
    (blankCoins count).idAt? n = if 1 ≤ n ∧ n ≤ count then some ⟨n⟩ else none := by
  cases n with
  | zero => rfl
  | succ p =>
    rw [CoinSet.idAt?, ← List.getElem?_map, ids_blankCoins, List.getElem?_map]
    by_cases hp : p < count
    · rw [List.getElem?_range' hp, if_pos (by omega), Nat.one_mul, Nat.add_comm 1]
      rfl
    · rw [List.getElem?_eq_none (by simpa using hp), if_neg (by omega)]
      rfl

/-- The token that is drawn for one that was read, where coins are numbered from one up to
`count`. -/
def Token.numbered (count : Nat) : Token → Token
  | .ref (.label n) => if 1 ≤ n ∧ n ≤ count then .coin ⟨n⟩ else .label n
  | t => t

lemma Token.bind_blankCoins (count : Nat) (t : Token) :
    t.bind (blankCoins count) = t.numbered count := by
  match t with
  | .ref (.label n) =>
    rw [numbered]
    by_cases hn : 1 ≤ n ∧ n ≤ count
    · rw [if_pos hn, bind_label_of_idAt? (by rw [idAt?_blankCoins, if_pos hn])]
    · rw [if_neg hn, bind_label_of_none (by rw [idAt?_blankCoins, if_neg hn])]
  | .ref (.coin _) | .op _ => rfl

/-! ## What is shown -/

/-- A token that can be spelled looks the same against any coins. -/
lemma Token.text_of_isReadable {t : Token} (h : t.IsReadable) (coins other : CoinSet) :
    t.text coins = t.text other := by
  match t, h with
  | .ref (.label n), _ => rfl
  | .op o, _ => rfl

/-- Binding does not show in the text of a node. -/
lemma VisualNode.text_ofToken_bind {coins : CoinSet} (hd : coins.Distinct) {t : Token}
    (h : t.IsReadable) :
    (VisualNode.ofToken coins (t.bind coins)).text = (VisualNode.ofToken [] t).text := by
  rw [ofToken_bind hd]
  match t, h with
  | .op o, _ => rfl
  | .ref (.label n), _ => rfl

/-- What an inspection of a text against this number of coins shows. -/
structure Inspection.Shows (text : String) (count : Nat) (i : Inspection) : Prop where
  input : i.input = text
  coinCount : i.coinCount = count
  lexemes : i.lexemes = CoinQuery.lexemes text
  canonical : i.canonical = String.join (i.lexemes.map fun l => l.token.text [])
  visualText : i.visual.map VisualNode.text =
    i.lexemes.map fun l => (VisualNode.ofToken [] l.token).text
  visualToken : i.visual.map VisualNode.token = i.lexemes.map fun l => l.token.numbered count
  unresolved : i.issues.filter (·.kind = .unresolvedLabel) =
    ((Relation.ofText text).labels.filter fun n => n = 0 ∨ count < n).map .unresolvedLabel
  stale : i.issues.filter (·.kind = .staleReference) = []
  structural : i.issues.filter Issue.isStructural =
    ((Relation.ofText text).diagnose []).filter Issue.isStructural

/-- What refers to no coin has no stale reference. -/
lemma Relation.issuesOf_staleReference {r : Relation} (hr : ∀ t ∈ r, t.IsReadable)
    (coins : CoinSet) : r.issuesOf .staleReference coins = [] := by
  rw [issuesOf, List.filter_eq_nil_iff]
  intro issue hissue hstale
  have hkind : issue.kind = .staleReference := of_decide_eq_true hstale
  have hreference : issue ∈ (r.diagnose coins).filter (!·.isStructural) := by
    refine List.mem_filter.mpr ⟨hissue, ?_⟩
    cases issue <;> first | rfl | cases hkind
  rw [filter_diagnose, List.mem_filterMap] at hreference
  obtain ⟨target, htarget, hof⟩ := hreference
  obtain ⟨t, ht, href⟩ := List.mem_filterMap.mp htarget
  cases t with
  | op o => cases href
  | ref other =>
    obtain rfl := Option.some.inj href
    cases other with
    | label n =>
      obtain rfl := Option.some.inj hof
      cases hkind
    | coin id => exact hr _ ht

/-- A label is left when no coin has its number. -/
lemma isLeftBy_blankCoins (count n : Nat) :
    (Issue.unresolvedLabel n).isLeftBy (blankCoins count) = decide (n = 0 ∨ count < n) := by
  rw [Issue.isLeftBy, idAt?_blankCoins]
  split <;> simp <;> omega

namespace Relation

variable (text : String) (coins : CoinSet)

lemma diagnose_parse : (parse text coins).diagnose coins =
    ((ofText text).diagnose []).filter (Issue.isLeftBy coins) := by
  rw [parse, diagnose_bind, diagnose_of_isReadable (fun t => isReadable_of_mem_ofText) coins []]

lemma issuesOf_parse (kind : IssueKind) : (parse text coins).issuesOf kind coins =
    ((ofText text).issuesOf kind []).filter (Issue.isLeftBy coins) := by
  rw [issuesOf, issuesOf, diagnose_parse, List.filter_comm]

lemma unresolved_parse (count : Nat) :
    (parse text (blankCoins count)).issuesOf .unresolvedLabel (blankCoins count) =
      ((ofText text).labels.filter fun n => n = 0 ∨ count < n).map .unresolvedLabel := by
  rw [issuesOf_parse, issuesOf_unresolvedLabel, List.filter_map]
  exact congrArg _ (List.filter_congr fun n _ => isLeftBy_blankCoins count n)

lemma stale_parse : (parse text coins).issuesOf .staleReference coins = [] := by
  rw [issuesOf_parse, issuesOf_staleReference fun t => isReadable_of_mem_ofText, List.filter_nil]

/-- Binding leaves all structural issues. -/
lemma structural_parse : ((parse text coins).diagnose coins).filter Issue.isStructural =
    ((ofText text).diagnose []).filter Issue.isStructural := by
  rw [diagnose_parse, List.filter_filter]
  refine List.filter_congr fun issue _ => ?_
  cases issue <;> rfl

lemma parse_eq_map_lexemes :
    parse text coins = (lexemes text).map fun l => l.token.bind coins :=
  List.map_map

variable {coins}

/-- Binding does not show in the canonical text. -/
lemma text_parse_eq_join (hd : coins.Distinct) : (parse text coins).text coins =
    String.join ((lexemes text).map fun l => l.token.text []) := by
  rw [parse, text_bind hd, Relation.text, ofText, List.map_map]
  refine congrArg String.join (List.map_congr_left fun l hl => ?_)
  exact Token.text_of_isReadable (isReadable_of_mem_ofText (List.mem_map_of_mem hl)) _ _

lemma map_text_visual_parse (hd : coins.Distinct) :
    ((parse text coins).visual coins).map VisualNode.text =
      (lexemes text).map fun l => (VisualNode.ofToken [] l.token).text := by
  rw [visual, parse_eq_map_lexemes, List.map_map, List.map_map]
  refine List.map_congr_left fun l hl => ?_
  exact VisualNode.text_ofToken_bind hd (isReadable_of_mem_ofText (List.mem_map_of_mem hl))

end Relation

lemma exists_inspection {count : Nat} (h : count ≤ mostInspectedCoins) (text : String) :
    ∃ i, inspect text count = .ok i ∧ i.Shows text count := by
  have hdistinct := distinct_blankCoins count
  refine ⟨_, if_neg (Nat.not_lt_of_le h), rfl, rfl, rfl, ?_, ?_, ?_, ?_, ?_, ?_⟩
  · exact Relation.text_parse_eq_join text hdistinct
  · exact Relation.map_text_visual_parse text hdistinct
  · dsimp only
    rw [Relation.map_token_visual, Relation.parse_eq_map_lexemes]
    exact List.map_congr_left fun l _ => Token.bind_blankCoins count l.token
  · exact Relation.unresolved_parse text count
  · exact Relation.stale_parse text _
  · exact Relation.structural_parse text _

/-! ## The number of coins that is taken -/

namespace CommandLine

lemma le_foldl {α : Type} {f : Nat → α → Nat} (h : ∀ n x, n ≤ f n x) (xs : List α) (n : Nat) :
    n ≤ xs.foldl f n := by
  induction xs generalizing n with
  | nil => exact Nat.le_refl n
  | cons x xs ih => exact Nat.le_trans (h n x) (ih _)

lemma le_highestLabel {text : String} {n : Nat} (h : n ∈ (Relation.ofText text).labels) :
    n ≤ highestLabel text := by
  obtain ⟨l, hl, htoken⟩ := List.mem_map.mp (Relation.mem_labels_iff.mp h)
  obtain ⟨front, back, hsplit⟩ := List.append_of_mem hl
  rw [highestLabel, hsplit, List.foldl_append, List.foldl_cons, htoken]
  refine Nat.le_trans (Nat.le_max_right _ n) (le_foldl (fun highest l => ?_) _ _)
  split
  · exact Nat.le_max_left _ _
  · exact Nat.le_refl _

/-- Unless the number of coins is given, no label of the text is too great but beyond the limit. -/
lemma defaultCoinCount_lt_iff {text : String} {n : Nat} (h : n ∈ (Relation.ofText text).labels) :
    defaultCoinCount text < n ↔ mostInspectedCoins < n := by
  have hle := le_highestLabel h
  rw [defaultCoinCount]
  omega

end CommandLine

/-- **The number of coins decides what is bound and nothing else.**  An inspection against as many
coins as the limit allows succeeds, and shows what `Inspection.Shows` says.  So for any two numbers
the lexemes, the canonical text, the texts of the nodes and the structural issues are the same.
More coins are refused.  When a command does not give the number, its inspection succeeds, and the
labels reported are `C0` and those beyond the limit. -/
theorem inspect_ignores_count (text : String) :
    (∀ count ≤ mostInspectedCoins, ∃ i, inspect text count = .ok i ∧ i.Shows text count) ∧
    (∀ c ≤ mostInspectedCoins, ∀ d ≤ mostInspectedCoins, ∃ i j,
      inspect text c = .ok i ∧ inspect text d = .ok j ∧
      i.lexemes = j.lexemes ∧ i.canonical = j.canonical ∧
      i.visual.map VisualNode.text = j.visual.map VisualNode.text ∧
      i.issues.filter Issue.isStructural = j.issues.filter Issue.isStructural) ∧
    (∀ count, mostInspectedCoins < count →
      inspect text count = .error (.tooManyCoins count mostInspectedCoins)) ∧
    ∀ o : CommandLine.Options, o.relation = some text → o.coins = none →
      ∃ i, CommandLine.inspectRelation o = .ok (CommandLine.relationReport o.color i) ∧
        i.Shows text (CommandLine.defaultCoinCount text) ∧
        i.issues.filter (·.kind = .unresolvedLabel) =
          ((Relation.ofText text).labels.filter fun n => n = 0 ∨ mostInspectedCoins < n).map
            .unresolvedLabel := by
  refine ⟨fun count h => exists_inspection h text, fun c hc d hd => ?_,
    fun count h => if_pos h, fun o hrelation hcoins => ?_⟩
  · obtain ⟨i, hi, hshows⟩ := exists_inspection hc text
    obtain ⟨j, hj, hshows'⟩ := exists_inspection hd text
    have hlexemes : i.lexemes = j.lexemes := hshows.lexemes.trans hshows'.lexemes.symm
    refine ⟨i, j, hi, hj, hlexemes, ?_, ?_, hshows.structural.trans hshows'.structural.symm⟩
    · rw [hshows.canonical, hshows'.canonical, hlexemes]
    · rw [hshows.visualText, hshows'.visualText, hlexemes]
  · have hlimit : CommandLine.defaultCoinCount text ≤ mostInspectedCoins := Nat.min_le_right _ _
    obtain ⟨i, hi, hshows⟩ := exists_inspection hlimit text
    refine ⟨i, ?_, hshows, ?_⟩
    · rw [CommandLine.inspectRelation, hrelation, hcoins]
      dsimp only
      rw [Option.getD_none, hi]
      rfl
    · rw [hshows.unresolved]
      refine congrArg _ (List.filter_congr fun n hn => ?_)
      exact decide_eq_decide.mpr (or_congr_right (CommandLine.defaultCoinCount_lt_iff hn))

/-- A text with an open parenthesis and a label that no coin can have. -/
def unclosedText : String := "C1 OR C3 AND (C0"

/-- Options that give this text and nothing else. -/
def unclosedOptions : CommandLine.Options :=
  ⟨some unclosedText, none, none, none, none, CommandLine.defaultGroup, none, none, false⟩

theorem inspect_ignores_count_unclosed :
    2 ≤ mostInspectedCoins ∧
    (∃ i, inspect unclosedText 2 = .ok i ∧ i.Shows unclosedText 2) ∧
    (inspect unclosedText 2).map Inspection.issues =
      .ok [.unresolvedLabel 3, .unresolvedLabel 0, .unclosedOpen 1] ∧
    mostInspectedCoins < 10001 ∧
    inspect unclosedText 10001 = .error (.tooManyCoins 10001 mostInspectedCoins) ∧
    unclosedOptions.relation = some unclosedText ∧ unclosedOptions.coins = none ∧
    ∃ i, CommandLine.inspectRelation unclosedOptions = .ok (CommandLine.relationReport false i) ∧
      i.Shows unclosedText 3 ∧
      i.issues.filter (·.kind = .unresolvedLabel) = [.unresolvedLabel 0] := by
  have hlimit : 2 ≤ mostInspectedCoins := by decide
  have hbeyond : mostInspectedCoins < 10001 := by decide
  obtain ⟨hshows, -, hrefused, hcommand⟩ := inspect_ignores_count unclosedText
  exact ⟨hlimit, hshows 2 hlimit, rfl, hbeyond, hrefused 10001 hbeyond, rfl, rfl,
    hcommand unclosedOptions rfl rfl⟩

end CoinQuery
