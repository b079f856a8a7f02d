import CoinQuery.Proofs.Coin.Label
import CoinQuery.Relation.Lexeme
import CoinQuery.Relation.Projection

/-!
# Reading canonical text

The canonical text of a relation is the texts of its tokens, one after the other with nothing
between them.  Read as a text it gives the same tokens again, however the tokens follow each other:
`Relation.ofText_text`.

Two things could go wrong where texts meet.  A token could begin inside another one: only six
characters begin a token (`Lexeme.isInitial`), and past its first character no text of a token holds
one that does.  A label could run on into what follows it: a run of digits ends at the first other
character, and no text of a token begins with a digit (`Relation.head?_chars`).

`Token.IsReadable` says which tokens a text can spell at all: operators, and labels whose number
fits a word.  `Relation.isReadable_of_mem_ofText` is the converse, nothing else is ever read.
-/

namespace CoinQuery

open Text

/-- A token that a text can spell. -/
def Token.IsReadable : Token → Prop
  | .ref (.coin _) => False
  | .ref (.label n) => n < wordLimit
  | .op _ => True

/-! ## The characters that begin a token -/

namespace Lexeme

def isInitial (c : Char) : Bool := ['A', 'O', 'N', '(', ')', 'C'].contains c

lemma startingAt?_of_not_initial {c : Char} (hc : isInitial c = false) (cs : List Char) :
    startingAt? (c :: cs) = none := by
  simp only [isInitial, List.contains_eq_mem, decide_eq_false_iff_not, List.mem_cons, not_or] at hc
  unfold startingAt?
  split <;> simp_all

lemma isInitial_of_isDecimalDigit {c : Char} (hc : isDecimalDigit c = true) :
    isInitial c = false := by
  have hne : ∀ d : Char, isDecimalDigit d = false → c ≠ d := by
    rintro d hd rfl
    rw [hc] at hd
    cases hd
  simp [isInitial, hne 'A' (by decide), hne 'O' (by decide), hne 'N' (by decide),
    hne '(' (by decide), hne ')' (by decide), hne 'C' (by decide)]

lemma isReadable_of_startingAt? {cs : List Char} {t : Token} {length : Nat}
    (h : startingAt? cs = some (t, length)) : t.IsReadable := by
  unfold startingAt? at h
  split at h
  case h_6 rest =>
    obtain ⟨n, hn, heq⟩ := Option.map_eq_some_iff.mp h
    obtain ⟨rfl, -⟩ := Prod.mk.inj heq
    unfold labelNumber? at hn
    split at hn
    · cases hn
    · exact lt_wordLimit_of_wordOfDigits? hn
  case h_7 => cases h
  all_goals
    obtain ⟨rfl, -⟩ := Prod.mk.inj (Option.some.inj h)
    trivial

/-! ## Labels -/

/-- A numeral is what its number is written as, so a label with these digits counts. -/
lemma labelNumber?_toDigits {n : Nat} (hn : n < wordLimit) :
    labelNumber? (Nat.toDigits 10 n) = some n := by
  unfold labelNumber?
  split
  · rename_i hzero
    exact absurd hzero (toDigits_ne_zero_cons n _ _)
  · exact wordOfDigits?_toDigits hn

/-- A label is read in front of anything that does not go on with a digit. -/
lemma startingAt?_label {n : Nat} (hn : n < wordLimit) {rest : List Char}
    (hrest : ∀ c ∈ rest.head?, isDecimalDigit c = false) :
    startingAt? ((Coin.label n).toList ++ rest) =
      some (.label n, 1 + (Nat.toDigits 10 n).length) := by
  have hdigits : ∀ c ∈ Nat.toDigits 10 n, isDecimalDigit c = true := fun c hc =>
    isDecimalDigit_of_isDigit (isDigit_of_mem_toDigits hc)
  have hstop : rest.takeWhile isDecimalDigit = [] := by
    cases rest with
    | nil => rfl
    | cons c cs => simp [hrest c rfl]
  have hrun : (Nat.toDigits 10 n ++ rest).takeWhile isDecimalDigit = Nat.toDigits 10 n := by
    rw [List.takeWhile_append_of_pos hdigits, hstop, List.append_nil]
  rw [Coin.toList_label, List.cons_append]
  simp [startingAt?, hrun, labelNumber?_toDigits hn]

end Lexeme

namespace Relation

/-! ## The tokens of a list of characters -/

/-- The tokens that begin somewhere in `cs`, in order; the lexemes without their places. -/
def ofChars : List Char → Relation
  | [] => []
  | c :: cs =>
    match Lexeme.startingAt? (c :: cs) with
    | some (t, _) => t :: ofChars cs
    | none => ofChars cs

lemma map_token_scan (position : Nat) (cs : List Char) :
    (Lexeme.scan position cs).map Lexeme.token = ofChars cs := by
  induction cs generalizing position with
  | nil => rfl
  | cons c cs ih =>
    rw [Lexeme.scan, ofChars]
    cases Lexeme.startingAt? (c :: cs) with
    | none => exact ih _
    | some found => exact congrArg (found.1 :: ·) (ih _)

lemma ofText_eq_ofChars (text : String) : ofText text = ofChars text.toList :=
  map_token_scan 0 text.toList

lemma ofChars_cons_of_some {c : Char} {cs : List Char} {t : Token} {length : Nat}
    (h : Lexeme.startingAt? (c :: cs) = some (t, length)) :
    ofChars (c :: cs) = t :: ofChars cs := by
  rw [ofChars, h]

lemma ofChars_cons_of_none {c : Char} {cs : List Char}
    (h : Lexeme.startingAt? (c :: cs) = none) : ofChars (c :: cs) = ofChars cs := by
  rw [ofChars, h]

/-- Characters that begin no token leave no trace. -/
lemma ofChars_append_of_not_initial {cs : List Char}
    (h : ∀ c ∈ cs, Lexeme.isInitial c = false) (rest : List Char) :
    ofChars (cs ++ rest) = ofChars rest := by
  induction cs with
  | nil => rfl
  | cons c cs ih =>
    rw [List.cons_append,
      ofChars_cons_of_none (Lexeme.startingAt?_of_not_initial (h c List.mem_cons_self) _)]
    exact ih fun d hd => h d (List.mem_cons_of_mem c hd)

lemma ofChars_label {n : Nat} (hn : n < wordLimit) {rest : List Char}
    (hrest : ∀ c ∈ rest.head?, isDecimalDigit c = false) :
    ofChars ((Coin.label n).toList ++ rest) = .label n :: ofChars rest := by
  have hstart := Lexeme.startingAt?_label hn hrest
  rw [Coin.toList_label, List.cons_append] at hstart ⊢
  rw [ofChars_cons_of_some hstart, ofChars_append_of_not_initial fun c hc =>
    Lexeme.isInitial_of_isDecimalDigit (isDecimalDigit_of_isDigit (isDigit_of_mem_toDigits hc))]

/-- An operator is read in front of anything.  Its own further letters begin nothing: `ND` is not
`NOT`, and `OT` is not `OR`. -/
lemma ofChars_operator (o : Operator) (rest : List Char) :
    ofChars (o.text.toList ++ rest) = .op o :: ofChars rest := by
  cases o <;> simp [Operator.text, ofChars, Lexeme.startingAt?]

/-- Everything read is something that can be written. -/
lemma isReadable_of_mem_ofText {text : String} {t : Token} (ht : t ∈ ofText text) :
    t.IsReadable := by
  rw [ofText_eq_ofChars] at ht
  generalize text.toList = cs at ht
  induction cs with
  | nil => simp [ofChars] at ht
  | cons c cs ih =>
    cases hstart : Lexeme.startingAt? (c :: cs) with
    | none => exact ih (by rwa [ofChars_cons_of_none hstart] at ht)
    | some found =>
      rw [ofChars_cons_of_some hstart, List.mem_cons] at ht
      rcases ht with rfl | ht
      · exact Lexeme.isReadable_of_startingAt? hstart
      · exact ih ht

/-! ## Canonical text -/

/-- The characters of the canonical text. -/
def chars (r : Relation) (coins : CoinSet) : List Char := r.flatMap fun t => (t.text coins).toList

lemma toList_text (r : Relation) (coins : CoinSet) : (r.text coins).toList = r.chars coins := by
  simp [text, chars, List.flatMap_map]

/-- No text of a token begins with a digit, so none goes on with the label in front of it. -/
lemma head?_chars {r : Relation} (hr : ∀ t ∈ r, t.IsReadable) (coins : CoinSet) :
    ∀ c ∈ (r.chars coins).head?, isDecimalDigit c = false := by
  intro c hc
  cases r with
  | nil => simp [chars] at hc
  | cons t r =>
    have ht := hr t List.mem_cons_self
    match t, ht with
    | .ref (.label n), _ =>
      simp only [chars, List.flatMap_cons, Token.text, Reference.text, Coin.toList_label,
        List.cons_append, List.head?_cons, Option.mem_def, Option.some.injEq] at hc
      subst hc
      decide
    | .op o, _ =>
      cases o <;> simp [chars, Token.text, Operator.text] at hc <;> subst hc <;> decide

/-- **Canonical text is read back** as the tokens it was written from, if a text can spell them. -/
theorem ofText_text {r : Relation} (hr : ∀ t ∈ r, t.IsReadable) (coins : CoinSet) :
    ofText (r.text coins) = r := by
  rw [ofText_eq_ofChars, toList_text]
  induction r with
  | nil => rfl
  | cons t r ih =>
    have ht := hr t List.mem_cons_self
    have hrest : ∀ u ∈ r, u.IsReadable := fun u hu => hr u (List.mem_cons_of_mem t hu)
    change ofChars ((t.text coins).toList ++ chars r coins) = t :: r
    match t, ht with
    | .ref (.label n), hn =>
      rw [Token.text, Reference.text, ofChars_label hn (head?_chars hrest coins), ih hrest]
    | .op o, _ => rw [Token.text, ofChars_operator, ih hrest]

end Relation

end CoinQuery
