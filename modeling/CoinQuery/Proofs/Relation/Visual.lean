import CoinQuery.Proofs.Relation.Binding

/-!
# Visual nodes and canonical text

A relation is edited as a row of nodes as well as a text.  The nodes the editor can hand back are
those of `VisualNode.IsCurrent`: nodes drawn for the present set, and nodes made anew from edited
elements.  Both kinds add to the canonical text what their token adds
(`VisualNode.IsCurrent.canonicalText_eq`), so reading the text of such a row gives the relation that
the row itself gives: `Relation.ofVisual_eq_parse`.

`VisualNode.DrawnAs` describes the element drawn for a node.  Making nodes anew from all the
elements of a relation gives the row of its unbound tokens, which binding takes back to the
relation: `Relation.exists_ofVisual_of_drawnAs`.
-/

namespace CoinQuery

open Text

/-! ## Nodes made from elements -/

namespace VisualNode

/-- An element with these classes and this text is drawn for the node: the class of the node stands
alone, or behind `op` as in its markup, and a reference shows its text. -/
structure DrawnAs (n : VisualNode) (classes text : String) : Prop where
  classes : classes = n.cssClass ∨ classes = "op " ++ n.cssClass
  text : ∀ target, n.token = .ref target → text = n.text

lemma ofParts?_operator {o : Operator} {classes : String}
    (h : classes = o.cssClass ∨ classes = "op " ++ o.cssClass) (text : String) :
    ofParts? classes text = some ⟨.op o, o.glyph⟩ := by
  have hwords : (words classes).contains "id" = false ∧
      (words classes).findSome? Operator.ofClass? = some o := by
    rcases h with rfl | rfl <;> cases o <;> decide
  simp only [ofParts?, hwords.1, hwords.2, Bool.false_eq_true, if_false, Option.map_some]

lemma ofParts?_label {n : Nat} (hn : n < wordLimit) {classes : String}
    (h : classes = "id" ∨ classes = "op id") :
    ofParts? classes (Coin.label n) = some ⟨.label n, Coin.label n⟩ := by
  have hid : (words classes).contains "id" = true := by
    rcases h with rfl | rfl <;> decide
  simp only [ofParts?, hid, if_true, Coin.trim_label, Coin.labelPosition?_label hn,
    Option.map_some]

/-- The node made anew is drawn as the old one and has the token that a text would tell. -/
lemma ofParts?_of_drawnAs {coins : CoinSet} {t : Token} (hread : (t.unbind coins).IsReadable)
    {classes text : String} (h : (ofToken coins t).DrawnAs classes text) :
    ofParts? classes text = some (ofToken coins (t.unbind coins)) := by
  match t with
  | .op o => exact ofParts?_operator h.classes text
  | .ref (.label n) =>
    rw [h.text _ rfl]
    exact ofParts?_label hread h.classes
  | .ref (.coin id) =>
    cases hp : coins.position? id with
    | none => simp [Token.unbind, hp, Token.IsReadable] at hread
    | some p =>
      have hshown : (ofToken coins (.coin id)).text = Coin.label (p + 1) := by
        simp [ofToken, Reference.text, CoinSet.labelOf?, hp]
      have hunbind : Token.unbind coins (.coin id) = .label (p + 1) := by simp [Token.unbind, hp]
      rw [hunbind] at hread ⊢
      rw [h.text _ rfl, hshown]
      exact ofParts?_label hread h.classes

/-! ## Rows of nodes -/

@[simp] lemma canonicalText_ofToken (coins : CoinSet) (t : Token) :
    (ofToken coins t).canonicalText = t.text coins := by
  cases t <;> rfl

@[simp] lemma token_ofToken (coins : CoinSet) (t : Token) : (ofToken coins t).token = t := by
  cases t <;> rfl

/-- A node the editor can hand back while `coins` is the set: one of a row drawn for it that shows
no stale reference, or one made from an element. -/
inductive IsCurrent (coins : CoinSet) (n : VisualNode) : Prop
  | drawn (r : Relation) (fits : ∀ t ∈ r, t.FitsWord) (mem : n ∈ r.visual coins)
      (live : n.isStale = false)
  | rebuilt (classes text : String) (made : ofParts? classes text = some n)

/-- What is made from an element is a label or an operator, drawn in the same way for every set. -/
lemma exists_readable_of_ofParts? {classes text : String} {n : VisualNode}
    (h : ofParts? classes text = some n) :
    ∃ t : Token, t.IsReadable ∧ ∀ coins, n = ofToken coins t := by
  simp only [ofParts?] at h
  split at h
  · obtain ⟨m, hm, rfl⟩ := Option.map_eq_some_iff.mp h
    exact ⟨.label m, Coin.lt_wordLimit_of_labelPosition? hm, fun _ => rfl⟩
  · obtain ⟨o, -, rfl⟩ := Option.map_eq_some_iff.mp h
    exact ⟨.op o, trivial, fun _ => rfl⟩

lemma isStale_token_of_live {coins : CoinSet} {t : Token}
    (h : (ofToken coins t).isStale = false) : t.isStale coins = false := by
  match t with
  | .ref (.coin id) =>
    cases hp : coins.position? id with
    | none => simp [ofToken, isStale, Reference.text, CoinSet.labelOf?, hp] at h
    | some p => simp [Token.isStale, CoinSet.holds, hp]
  | .ref (.label n) => rfl
  | .op o => rfl

/-- A current node is the one drawn for its token, which is no stale reference. -/
lemma IsCurrent.eq_ofToken {coins : CoinSet} {n : VisualNode} (h : n.IsCurrent coins) :
    n = ofToken coins n.token ∧ n.token.FitsWord ∧ n.token.isStale coins = false := by
  cases h with
  | drawn r fits mem live =>
    obtain ⟨t, ht, rfl⟩ := List.mem_map.mp mem
    rw [token_ofToken]
    exact ⟨rfl, fits t ht, isStale_token_of_live live⟩
  | rebuilt classes text made =>
    obtain ⟨t, hread, hdrawn⟩ := exists_readable_of_ofParts? made
    obtain rfl := hdrawn coins
    rw [token_ofToken]
    match t, hread with
    | .ref (.label m), hm => exact ⟨rfl, hm, rfl⟩
    | .op o, _ => exact ⟨rfl, trivial, rfl⟩

lemma IsCurrent.canonicalText_eq {coins : CoinSet} {n : VisualNode} (h : n.IsCurrent coins) :
    n.canonicalText = n.token.text coins := by
  rw [← canonicalText_ofToken, ← h.eq_ofToken.1]

lemma stale_map_token {coins : CoinSet} {nodes : List VisualNode}
    (h : ∀ n ∈ nodes, n.IsCurrent coins) : Relation.stale (nodes.map token) coins = [] := by
  rw [Relation.stale_eq_nil_iff]
  intro t ht
  obtain ⟨n, hn, rfl⟩ := List.mem_map.mp ht
  exact (h n hn).eq_ofToken.2.2

lemma textOf_eq_text {coins : CoinSet} {nodes : List VisualNode}
    (h : ∀ n ∈ nodes, n.IsCurrent coins) :
    textOf nodes = Relation.text (nodes.map token) coins := by
  rw [textOf, Relation.text, List.map_map]
  exact congrArg String.join (List.map_congr_left fun n hn => (h n hn).canonicalText_eq)

end VisualNode

namespace Relation

variable {coins : CoinSet}

lemma map_token_visual (r : Relation) : (r.visual coins).map VisualNode.token = r := by
  rw [visual, List.map_map]
  calc r.map (VisualNode.token ∘ VisualNode.ofToken coins)
      = r.map id := List.map_congr_left fun t _ => VisualNode.token_ofToken coins t
    _ = r := List.map_id r

/-- The text read off the row of a relation is its canonical text. -/
lemma textOf_visual (r : Relation) (coins : CoinSet) :
    VisualNode.textOf (r.visual coins) = r.text coins := by
  rw [VisualNode.textOf, visual, List.map_map, text]
  exact congrArg String.join (List.map_congr_left fun t _ =>
    VisualNode.canonicalText_ofToken coins t)

/-- A row of current nodes and the text read off it give the same relation. -/
lemma ofVisual_eq_parse (hfit : coins.length < wordLimit) {nodes : List VisualNode}
    (h : ∀ n ∈ nodes, n.IsCurrent coins) :
    ofVisual nodes coins = parse (VisualNode.textOf nodes) coins := by
  have hword : ∀ t ∈ nodes.map VisualNode.token, t.FitsWord := by
    intro t ht
    obtain ⟨n, hn, rfl⟩ := List.mem_map.mp ht
    exact (h n hn).eq_ofToken.2.1
  rw [VisualNode.textOf_eq_text h, parse_text hfit hword (VisualNode.stale_map_token h), ofVisual]

/-- The elements drawn for a relation without stale references all make nodes, and these give what
binding the relation gives. -/
lemma exists_ofVisual_of_drawnAs {r : Relation} (hfit : coins.length < wordLimit)
    (hword : ∀ t ∈ r, t.FitsWord) (hlive : r.stale coins = []) {elements : List (String × String)}
    (h : List.Forall₂ (fun element n => VisualNode.DrawnAs n element.1 element.2) elements
      (r.visual coins)) :
    ∃ nodes, elements.mapM (fun element => VisualNode.ofParts? element.1 element.2) = some nodes ∧
      ofVisual nodes coins = r.bind coins := by
  refine ⟨visual (r.map (Token.unbind coins)) coins, ?_, ?_⟩
  · rw [visual, List.forall₂_map_right_iff] at h
    -- along the elements; nothing that is assumed of the relation looks at more than one token
    induction h with
    | nil => rfl
    | @cons element t elements r hdrawn _ ih =>
      have hread : (t.unbind coins).IsReadable :=
        Token.isReadable_unbind hfit (hword t List.mem_cons_self)
          (stale_eq_nil_iff.mp hlive t List.mem_cons_self)
      have hrest := ih (fun u hu => hword u (List.mem_cons_of_mem t hu))
        (stale_eq_nil_iff.mpr fun u hu => stale_eq_nil_iff.mp hlive u (List.mem_cons_of_mem t hu))
      rw [List.mapM_cons, VisualNode.ofParts?_of_drawnAs hread hdrawn, hrest]
      rfl
  · rw [ofVisual, map_token_visual, bind_map_unbind]

end Relation

end CoinQuery
