import CoinQuery.Proofs.Relation.Spelling

/-!
# Labels with zeros in front

The label of a reference is read in two places.  An edited node that has the class `id` gives its
text to `Coin.labelPosition?`, and in a text of tokens the scanner reads labels.  The scanner keeps
a label only if its number is written as the label's digits are.  The node's reader is less strict:
it takes any run of ASCII digits whose number fits a word, so that `C01` is the coin `C1` in a node,
and nothing at all in a text.

Zeros in front are the only difference.  `Coin.paddedLabel` writes a label with so many of them.  A
node is a reference exactly when its trimmed text is such a label
(`Coin.labelPosition?_eq_some_iff`), and the trimmed text is one lexeme exactly when there are none
(`lexemes_eq_label_iff`); from both follows `VisualNode.ofParts?_label_iff`.  What the scanner reads
the node reads too, and as the same label.
-/

namespace CoinQuery

open Text

/-! ## Numerals with zeros in front -/

namespace Text

variable {digits : List Char} {n : Nat}

lemma ofDigitChars_replicate_zero (zeros : Nat) :
    Nat.ofDigitChars 10 (List.replicate zeros '0') 0 = 0 := by
  induction zeros with
  | zero => rfl
  | succ zeros ih =>
    rw [List.replicate_succ, Nat.ofDigitChars_cons]
    exact ih

/-- A run of digits is the numeral of the number it stands for, with zeros in front. -/
lemma exists_eq_replicate_append (hne : digits ≠ []) (hdigits : ∀ c ∈ digits, c.isDigit = true) :
    ∃ zeros, digits =
      List.replicate zeros '0' ++ Nat.toDigits 10 (Nat.ofDigitChars 10 digits 0) := by
  induction digits with
  | nil => exact absurd rfl hne
  | cons c rest ih =>
    by_cases hzero : c = '0' ∧ rest ≠ []
    · -- a zero in front of further digits adds nothing to the number
      obtain ⟨rfl, hrest⟩ := hzero
      obtain ⟨zeros, hzeros⟩ := ih hrest fun d hd => hdigits d (List.mem_cons_of_mem _ hd)
      have hvalue : Nat.ofDigitChars 10 ('0' :: rest) 0 = Nat.ofDigitChars 10 rest 0 := by
        rw [Nat.ofDigitChars_cons]
        rfl
      refine ⟨zeros + 1, ?_⟩
      rw [hvalue, List.replicate_succ, List.cons_append, ← hzeros]
    · have hhead : c :: rest ≠ ['0'] → (c :: rest).head? ≠ some '0' := by
        intro hlong hc
        obtain rfl : c = '0' := Option.some.inj hc
        exact hzero ⟨rfl, fun hrest => hlong (by rw [hrest])⟩
      exact ⟨0, (toDigits_ofDigitChars (List.cons_ne_nil c rest) hdigits hhead).symm⟩

lemma wordOfDigits?_replicate_append (zeros : Nat) (hn : n < wordLimit) :
    wordOfDigits? (List.replicate zeros '0' ++ Nat.toDigits 10 n) = some n := by
  refine wordOfDigits?_eq_some_iff.mpr ⟨?_, ?_, ?_, hn⟩
  · exact List.append_ne_nil_of_right_ne_nil _ Nat.toDigits_ne_nil
  · intro c hc
    obtain hc | hc := List.mem_append.mp hc
    · obtain ⟨-, rfl⟩ := List.mem_replicate.mp hc
      rfl
    · exact isDigit_of_mem_toDigits hc
  · rw [Nat.ofDigitChars_append, ofDigitChars_replicate_zero, Nat.ofDigitChars_ten_toDigits]

end Text

/-! ## Labels with zeros in front -/

namespace Coin

/-- The label of a place, with zeros in front of the numeral. -/
def paddedLabel (zeros position : Nat) : String :=
  String.ofList ('C' :: (List.replicate zeros '0' ++ Nat.toDigits 10 position))

lemma paddedLabel_zero (n : Nat) : paddedLabel 0 n = label n := by
  rw [paddedLabel, List.replicate_zero, List.nil_append, ← toList_label, String.ofList_toList]

/-- Zeros make a label longer. -/
lemma paddedLabel_succ_ne (zeros n : Nat) : paddedLabel (zeros + 1) n ≠ paddedLabel 0 n := by
  intro h
  have hlength := congrArg String.length h
  simp [paddedLabel] at hlength

/-- A text is read as a label's place when it is the label with any zeros in front. -/
lemma labelPosition?_eq_some_iff {text : String} {n : Nat} :
    labelPosition? text = some n ↔ (∃ zeros, text = paddedLabel zeros n) ∧ n < wordLimit := by
  constructor
  · intro h
    unfold labelPosition? at h
    split at h
    case h_1 digits htext =>
      obtain ⟨hne, hdigits, rfl, hlt⟩ := wordOfDigits?_eq_some_iff.mp h
      obtain ⟨zeros, hzeros⟩ := exists_eq_replicate_append hne hdigits
      refine ⟨⟨zeros, ?_⟩, hlt⟩
      rw [paddedLabel, ← hzeros, ← htext, String.ofList_toList]
    case h_2 => cases h
  · rintro ⟨⟨zeros, rfl⟩, hlt⟩
    rw [labelPosition?, paddedLabel, String.toList_ofList]
    exact wordOfDigits?_replicate_append zeros hlt

end Coin

/-! ## Texts that are one label -/

lemma lexemes_label {n : Nat} (hn : n < wordLimit) :
    lexemes (Coin.label n) = [⟨.label n, 0, (Coin.label n).utf8ByteSize⟩] := by
  have hstart : Lexeme.startingAt? ((Coin.label n).toList ++ []) =
      some (.label n, 1 + (Nat.toDigits 10 n).length) := Lexeme.startingAt?_label hn (by simp)
  have hdigits : ∀ c ∈ Nat.toDigits 10 n, Lexeme.isInitial c = false := fun c hc =>
    Lexeme.isInitial_of_isDecimalDigit (isDecimalDigit_of_isDigit (isDigit_of_mem_toDigits hc))
  have hrest := fun position => Lexeme.scan_append_of_not_initial hdigits position []
  rw [← String.utf8Len_toList, Lexeme.utf8Len_label]
  rw [List.append_nil, Coin.toList_label] at hstart
  simp only [List.append_nil] at hrest
  rw [lexemes, Coin.toList_label, Lexeme.scan_cons, hrest, Lexeme.beginning?, hstart]
  simp [Lexeme.scan]

/-- A text is one label, from its first byte to its last, when it is what the label is written
as. -/
lemma lexemes_eq_label_iff {text : String} {n : Nat} :
    lexemes text = [⟨.label n, 0, text.utf8ByteSize⟩] ↔ text = Coin.label n ∧ n < wordLimit := by
  constructor
  · intro h
    have hmem : (⟨.label n, 0, text.utf8ByteSize⟩ : Lexeme) ∈ lexemes text := by
      rw [h]
      exact List.mem_cons_self
    obtain ⟨inside, after, ⟨before, htext, hbefore, hinside⟩, hspelled⟩ :=
      Lexeme.mem_lexemes_iff.mp hmem
    obtain rfl : before = [] := String.utf8Len_eq_zero.mp hbefore
    obtain rfl : after = [] := by
      have hall : String.utf8Len inside = text.utf8ByteSize := hinside
      rw [← String.utf8Len_toList, htext, List.nil_append, String.utf8Len_append] at hall
      exact String.utf8Len_eq_zero.mp (by omega)
    have hlt : n < wordLimit := by
      obtain ⟨_, _, _, hlt, _⟩ := hspelled
      exact hlt
    rw [hspelled.eq_spelling, List.nil_append, List.append_nil] at htext
    exact ⟨String.toList_injective htext, hlt⟩
  · rintro ⟨rfl, hlt⟩
    exact lexemes_label hlt

namespace VisualNode

variable {classes text : String}

/-- An element with the class `id` is a reference when its trimmed text is a label with any zeros in
front, and shows the label without them. -/
lemma ofParts?_eq_some_iff (hid : "id" ∈ words classes) {node : VisualNode} :
    ofParts? classes text = some node ↔
      ∃ n zeros, trim text = Coin.paddedLabel zeros n ∧ n < wordLimit ∧
        node = ⟨.label n, Coin.label n⟩ := by
  have hcontains : (words classes).contains "id" = true := List.contains_iff_mem.mpr hid
  simp only [ofParts?, hcontains, if_true, Option.map_eq_some_iff]
  constructor
  · rintro ⟨n, hn, rfl⟩
    obtain ⟨⟨zeros, htext⟩, hlt⟩ := Coin.labelPosition?_eq_some_iff.mp hn
    exact ⟨n, zeros, htext, hlt, rfl⟩
  · rintro ⟨n, zeros, htext, hlt, rfl⟩
    exact ⟨n, Coin.labelPosition?_eq_some_iff.mpr ⟨⟨zeros, htext⟩, hlt⟩, rfl⟩

/-- The node reader tells a label where the trimmed text is that one label for the scanner, unless
there are zeros in front. -/
lemma ofParts?_eq_label_iff (hid : "id" ∈ words classes) {n : Nat}
    (hplain : ∀ zeros, trim text ≠ Coin.paddedLabel (zeros + 1) n) :
    ofParts? classes text = some ⟨.label n, Coin.label n⟩ ↔
      trim text = Coin.paddedLabel 0 n ∧ n < wordLimit := by
  rw [ofParts?_eq_some_iff hid]
  constructor
  · rintro ⟨m, zeros, htext, hlt, heq⟩
    obtain rfl : n = m := by simpa using congrArg token heq
    cases zeros with
    | zero => exact ⟨htext, hlt⟩
    | succ zeros => exact absurd htext (hplain zeros)
  · rintro ⟨htext, hlt⟩
    exact ⟨n, 0, htext, hlt, rfl⟩

/-- **A node reads labels with zeros in front, a text does not.**  An edited element that has the
class `id` makes a reference exactly when its trimmed text is a label that fits a word, with any
zeros in front, and shows the label without them.  The trimmed text is that one label for the scanner
exactly when there are no zeros.  So both read the same wherever there are none, and only there. -/
theorem ofParts?_label_iff (classes text : String) (hid : "id" ∈ words classes) :
    (∀ node, ofParts? classes text = some node ↔
      ∃ n zeros, trim text = Coin.paddedLabel zeros n ∧ n < wordLimit ∧
        node = ⟨.label n, Coin.label n⟩) ∧
    (∀ n, lexemes (trim text) = [⟨.label n, 0, (trim text).utf8ByteSize⟩] ↔
      trim text = Coin.paddedLabel 0 n ∧ n < wordLimit) ∧
    ∀ n, n < wordLimit →
      ((ofParts? classes text = some ⟨.label n, Coin.label n⟩ ↔
        lexemes (trim text) = [⟨.label n, 0, (trim text).utf8ByteSize⟩]) ↔
      ∀ zeros, trim text ≠ Coin.paddedLabel (zeros + 1) n) := by
  have hsole : ∀ n, lexemes (trim text) = [⟨.label n, 0, (trim text).utf8ByteSize⟩] ↔
      trim text = Coin.paddedLabel 0 n ∧ n < wordLimit := by
    intro n
    rw [lexemes_eq_label_iff, Coin.paddedLabel_zero]
  refine ⟨fun node => ofParts?_eq_some_iff hid, hsole, fun n hlt => ?_⟩
  rw [hsole]
  constructor
  · intro hagree zeros htext
    have hread : ofParts? classes text = some ⟨.label n, Coin.label n⟩ :=
      (ofParts?_eq_some_iff hid).mpr ⟨n, zeros + 1, htext, hlt, rfl⟩
    exact Coin.paddedLabel_succ_ne zeros n (htext.symm.trans (hagree.mp hread).1)
  · exact ofParts?_eq_label_iff hid

/-- Blanks around a label and zeros in it do not matter to a node, and the scanner drops it. -/
theorem ofParts?_label_iff_padded :
    "id" ∈ words "op id" ∧ 7 < wordLimit ∧
      ofParts? "op id" " C007\n" = some ⟨.label 7, Coin.label 7⟩ ∧
      lexemes (trim " C007\n") ≠ [⟨.label 7, 0, (trim " C007\n").utf8ByteSize⟩] := by
  have hid : "id" ∈ words "op id" := by decide
  have hlt : 7 < wordLimit := by decide
  have htrim : trim " C007\n" = Coin.paddedLabel 2 7 := by decide
  obtain ⟨hnode, -, hagree⟩ := ofParts?_label_iff "op id" " C007\n" hid
  have hread : ofParts? "op id" " C007\n" = some ⟨.label 7, Coin.label 7⟩ :=
    (hnode _).mpr ⟨7, 2, htrim, hlt, rfl⟩
  refine ⟨hid, hlt, hread, fun hsole => ?_⟩
  exact (hagree 7 hlt).mp ⟨fun _ => hsole, fun _ => hread⟩ 1 htrim

/-- `C01` is the coin `C1` in a node, and no token in a text. -/
theorem ofParts?_reads_zero :
    "id" ∈ words "id" ∧ ofParts? "id" "C01" = some ⟨.label 1, Coin.label 1⟩ ∧
      lexemes (trim "C01") ≠ [⟨.label 1, 0, (trim "C01").utf8ByteSize⟩] := by decide

end VisualNode

end CoinQuery
