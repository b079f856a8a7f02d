import CoinQuery.Proofs.Relation.Reading
import Mathlib.Data.List.TakeWhile
import Mathlib.Data.String.Basic

/-!
# Where a text spells tokens

A text spells an operator wherever the operator's word stands in it, and a label wherever `C` stands
with a numeral behind it that no further digit goes on with and whose number fits a word
(`Token.SpelledBy`).  `lexemes_complete` says that the lexemes of a text are the places where it
spells a token, all of them, each once and in order.  What stands there can be cut out of the text
and is the token's spelling.

The two halves of this come from two ways of reading.  `Lexeme.scan` looks for a token at every
place, so it misses none (`Lexeme.mem_scan_iff`).  `Lexeme.leftmost` reads as a pattern is searched
for: from left to right, it takes the first match, makes a token of it or drops it, and goes on
behind it, so what it finds does not overlap (`Lexeme.pairwise_leftmost`).  Both find the same
lexemes (`Lexeme.scan_eq_leftmost`), since no token begins in what a match takes past its first
character, be the match dropped or not.
-/

namespace CoinQuery

open Text

/-! ## Spelling -/

/-- In a text, `inside` takes the bytes from `start` up to `stop`, in front of `after`.  Both ends
lie between characters. -/
def Text.StandsAt (text : String) (start stop : Nat) (inside after : List Char) : Prop :=
  ∃ before, text.toList = before ++ inside ++ after ∧
    String.utf8Len before = start ∧ String.utf8Len (before ++ inside) = stop

/-- A text spells a token by `inside`, where `after` follows. -/
def Token.SpelledBy (inside after : List Char) : Token → Prop
  | .op o => inside = o.word.toList
  | .ref (.label n) => ∃ digits, inside = 'C' :: digits ∧ IsNumeral digits n ∧ n < wordLimit ∧
      ∀ c ∈ after.head?, isDecimalDigit c = false
  | .ref (.coin _) => False

/-- A text spells the token of a lexeme at its place. -/
def Lexeme.IsSpelledIn (text : String) (l : Lexeme) : Prop :=
  ∃ inside after, StandsAt text l.start l.stop inside after ∧ l.token.SpelledBy inside after

namespace Token.SpelledBy

variable {t : Token} {inside after : List Char}

lemma eq_spelling (h : t.SpelledBy inside after) : inside = t.spelling.toList := by
  match t, h with
  | .op o, h => exact h
  | .ref (.label n), ⟨digits, hinside, hnumeral, _, _⟩ =>
    rw [hinside, isNumeral_iff.mp hnumeral, spelling, Coin.toList_label]

lemma ne_nil (h : t.SpelledBy inside after) : inside ≠ [] := by
  rintro rfl
  match t, h with
  | .op o, h =>
    have hword : o.word.toList ≠ [] := by cases o <;> decide
    exact hword h.symm
  | .ref (.label n), ⟨_, hinside, _⟩ => cases hinside

/-- A token is spelled in front of anything that begins with no digit. -/
lemma of_head? (h : t.SpelledBy inside after) {rest : List Char}
    (hrest : ∀ c ∈ rest.head?, isDecimalDigit c = false) : t.SpelledBy inside rest := by
  match t, h with
  | .op o, h => exact h
  | .ref (.label n), ⟨digits, hinside, hnumeral, hlt, _⟩ =>
    exact ⟨digits, hinside, hnumeral, hlt, hrest⟩

end Token.SpelledBy

namespace Lexeme

/-! ## The token that begins at a place -/

/-- A label is kept when its digits are the numeral of a number that fits a word. -/
lemma labelNumber?_eq_some_iff {digits : List Char} {n : Nat} :
    labelNumber? digits = some n ↔ IsNumeral digits n ∧ n < wordLimit := by
  constructor
  · intro h
    unfold labelNumber? at h
    split at h
    case h_1 => cases h
    case h_2 hlead =>
      obtain ⟨hne, hall, hvalue, hlt⟩ := wordOfDigits?_eq_some_iff.mp h
      refine ⟨⟨hne, hall, fun hlong hzero => ?_, hvalue⟩, hlt⟩
      obtain ⟨rest, rfl⟩ := List.head?_eq_some_iff.mp hzero
      cases rest with
      | nil => exact hlong rfl
      | cons c rest => exact hlead c rest rfl
  · rintro ⟨hnumeral, hlt⟩
    rw [isNumeral_iff.mp hnumeral]
    exact labelNumber?_toDigits hlt

/-- ASCII digits take a byte each. -/
lemma utf8Len_of_isDigit {cs : List Char} (h : ∀ c ∈ cs, c.isDigit = true) :
    String.utf8Len cs = cs.length := by
  induction cs with
  | nil => rfl
  | cons c cs ih =>
    have hrange : c.toNat ≤ 57 := (Char.isDigit_iff_toNat.mp (h c List.mem_cons_self)).2
    have hsize : c.utf8Size = 1 := by
      rw [Char.utf8Size_eq_one_iff, UInt32.le_iff_toNat_le]
      exact Nat.le_trans hrange (by decide)
    rw [String.utf8Len_cons, ih fun d hd => h d (List.mem_cons_of_mem c hd), hsize,
      List.length_cons]

lemma utf8Len_label (n : Nat) :
    String.utf8Len (Coin.label n).toList = 1 + (Nat.toDigits 10 n).length := by
  rw [Coin.toList_label, String.utf8Len_cons, utf8Len_of_isDigit fun _ => isDigit_of_mem_toDigits,
    Nat.add_comm]
  rfl

/-- A token is found where it is spelled, and takes as many bytes. -/
lemma startingAt?_eq_some_iff {cs : List Char} {t : Token} {length : Nat} :
    startingAt? cs = some (t, length) ↔ ∃ inside after, cs = inside ++ after ∧
      t.SpelledBy inside after ∧ length = String.utf8Len inside := by
  constructor
  · intro h
    unfold startingAt? at h
    split at h
    case h_6 rest =>
      obtain ⟨n, hn, heq⟩ := Option.map_eq_some_iff.mp h
      obtain ⟨rfl, rfl⟩ := Prod.mk.inj heq
      obtain ⟨hnumeral, hlt⟩ := labelNumber?_eq_some_iff.mp hn
      refine ⟨'C' :: rest.takeWhile isDecimalDigit, rest.dropWhile isDecimalDigit, ?_,
        ⟨_, rfl, hnumeral, hlt, fun c hc => ?_⟩, ?_⟩
      · rw [List.cons_append, List.takeWhile_append_dropWhile]
      · have hstop := List.head?_dropWhile_not isDecimalDigit rest
        rwa [hc] at hstop
      · rw [String.utf8Len_cons, utf8Len_of_isDigit hnumeral.isDigit, Nat.add_comm]
        rfl
    case h_7 => cases h
    all_goals
      obtain ⟨rfl, rfl⟩ := Prod.mk.inj (Option.some.inj h)
      exact ⟨_, _, rfl, rfl, rfl⟩
  · rintro ⟨inside, after, rfl, hspelled, rfl⟩
    rw [hspelled.eq_spelling]
    match t, hspelled with
    | .op o, _ => cases o <;> rfl
    | .ref (.label n), ⟨digits, _, _, hlt, hend⟩ =>
      rw [Token.spelling, startingAt?_label hlt hend, utf8Len_label]

/-! ## Looking at every place -/

/-- The lexeme that begins with these characters, at the byte `position`. -/
def beginning? (position : Nat) (cs : List Char) : Option Lexeme :=
  (startingAt? cs).map fun (t, length) => ⟨t, position, position + length⟩

lemma scan_cons (position : Nat) (c : Char) (cs : List Char) :
    scan position (c :: cs) =
      (beginning? position (c :: cs)).toList ++ scan (position + c.utf8Size) cs := by
  rw [scan, beginning?]
  cases startingAt? (c :: cs) <;> rfl

lemma mem_scan_iff {position : Nat} {cs : List Char} {l : Lexeme} :
    l ∈ scan position cs ↔ ∃ before rest, cs = before ++ rest ∧
      beginning? (position + String.utf8Len before) rest = some l := by
  induction cs generalizing position with
  | nil =>
    constructor
    · nofun
    · rintro ⟨before, rest, hcs, hl⟩
      obtain ⟨rfl, rfl⟩ := List.append_eq_nil_iff.mp hcs.symm
      cases hl
  | cons c cs ih =>
    rw [scan_cons, List.mem_append, Option.mem_toList, ih]
    constructor
    · rintro (hl | ⟨before, rest, rfl, hl⟩)
      · exact ⟨[], c :: cs, rfl, hl⟩
      · refine ⟨c :: before, rest, rfl, ?_⟩
        rwa [String.utf8Len_cons, Nat.add_comm (String.utf8Len before), ← Nat.add_assoc]
    · rintro ⟨before, rest, hcs, hl⟩
      obtain ⟨rfl, rfl⟩ | ⟨before, rfl, rfl⟩ := List.cons_eq_append_iff.mp hcs
      · exact Or.inl hl
      · rw [String.utf8Len_cons, Nat.add_comm (String.utf8Len before), ← Nat.add_assoc] at hl
        exact Or.inr ⟨before, rest, rfl, hl⟩

/-- The lexemes of a text are the places where it spells a token. -/
lemma mem_lexemes_iff {text : String} {l : Lexeme} : l ∈ lexemes text ↔ l.IsSpelledIn text := by
  obtain ⟨t, start, stop⟩ := l
  rw [lexemes, mem_scan_iff]
  constructor
  · rintro ⟨before, rest, htext, hl⟩
    obtain ⟨⟨u, length⟩, hstart, heq⟩ := Option.map_eq_some_iff.mp hl
    obtain ⟨inside, after, rfl, hspelled, rfl⟩ := startingAt?_eq_some_iff.mp hstart
    obtain ⟨rfl, rfl, rfl⟩ := Lexeme.mk.inj heq
    refine ⟨inside, after, ⟨before, ?_, ?_, ?_⟩, hspelled⟩
    · rw [htext, List.append_assoc]
    · rw [Nat.zero_add]
    · rw [String.utf8Len_append, Nat.zero_add]
  · rintro ⟨inside, after, ⟨before, htext, rfl, rfl⟩, hspelled⟩
    refine ⟨before, inside ++ after, by rw [htext, List.append_assoc], ?_⟩
    have hstart := startingAt?_eq_some_iff.mpr ⟨inside, after, rfl, hspelled, rfl⟩
    rw [beginning?, hstart, Nat.zero_add, String.utf8Len_append]
    rfl

/-! ## Taking the leftmost match -/

/-- What is taken here by a pattern: one of the words, or `C` and all decimal digits behind it, of
which there must be one. -/
def matchAt? : List Char → Option (List Char)
  | 'A' :: 'N' :: 'D' :: _ => some ['A', 'N', 'D']
  | 'O' :: 'R' :: _ => some ['O', 'R']
  | 'N' :: 'O' :: 'T' :: _ => some ['N', 'O', 'T']
  | '(' :: _ => some ['(']
  | ')' :: _ => some [')']
  | 'C' :: rest =>
    let digits := rest.takeWhile isDecimalDigit
    if digits = [] then none else some ('C' :: digits)
  | _ => none

/-- The token made of what was taken. -/
def tokenOf? : List Char → Option Token
  | 'C' :: digits => (labelNumber? digits).map .label
  | word => (Operator.all.find? (·.word.toList = word)).map .op

/-- The lexeme that a match is made into, if it is. -/
def ofMatch? (position : Nat) (taken : List Char) : Option Lexeme :=
  (tokenOf? taken).map fun t => ⟨t, position, position + String.utf8Len taken⟩

/-- The lexemes found by taking one match after the other, from left to right. -/
def leftmost (position : Nat) : List Char → List Lexeme
  | [] => []
  | c :: cs =>
    match matchAt? (c :: cs) with
    | some taken =>
      (ofMatch? position taken).toList ++
        leftmost (position + String.utf8Len taken) (cs.drop (taken.length - 1))
    | none => leftmost (position + c.utf8Size) cs
termination_by cs => cs.length
decreasing_by all_goals simp; try omega

/-- Nothing is found in characters that begin no token. -/
lemma scan_append_of_not_initial {cs : List Char} (h : ∀ c ∈ cs, isInitial c = false)
    (position : Nat) (rest : List Char) :
    scan position (cs ++ rest) = scan (position + String.utf8Len cs) rest := by
  induction cs generalizing position with
  | nil => rfl
  | cons c cs ih =>
    have hnone : startingAt? (c :: (cs ++ rest)) = none :=
      startingAt?_of_not_initial (h c List.mem_cons_self) _
    rw [List.cons_append, scan_cons, beginning?, hnone,
      ih fun d hd => h d (List.mem_cons_of_mem c hd), String.utf8Len_cons,
      Nat.add_comm (String.utf8Len cs), Nat.add_assoc]
    rfl

lemma beginning?_label (position : Nat) (rest : List Char) :
    beginning? position ('C' :: rest) =
      ofMatch? position ('C' :: rest.takeWhile isDecimalDigit) := by
  simp only [beginning?, startingAt?, ofMatch?, tokenOf?, Option.map_map]
  cases hn : labelNumber? (rest.takeWhile isDecimalDigit) with
  | none => rfl
  | some n =>
    have hdigits := utf8Len_of_isDigit (labelNumber?_eq_some_iff.mp hn).1.isDigit
    have hlength : String.utf8Len ('C' :: rest.takeWhile isDecimalDigit) =
        1 + (rest.takeWhile isDecimalDigit).length := by
      rw [String.utf8Len_cons, hdigits, Nat.add_comm]
      rfl
    simp [hlength]

/-- Whatever is made of a match, no token begins in it past its first character. -/
lemma scan_of_matchAt? {cs taken : List Char} (h : matchAt? cs = some taken) (position : Nat) :
    scan position cs = (ofMatch? position taken).toList ++
      scan (position + String.utf8Len taken) (cs.tail.drop (taken.length - 1)) := by
  unfold matchAt? at h
  split at h
  case h_6 rest =>
    obtain ⟨digits, after, rfl, hrun⟩ : ∃ digits after,
        rest = digits ++ after ∧ rest.takeWhile isDecimalDigit = digits :=
      ⟨_, _, List.takeWhile_append_dropWhile.symm, rfl⟩
    have hdigits : ∀ c ∈ digits, isInitial c = false := fun c hc =>
      isInitial_of_isDecimalDigit (List.mem_takeWhile_imp (by rwa [hrun]))
    obtain rfl : taken = 'C' :: digits := by
      dsimp only at h
      rw [hrun] at h
      split at h
      · cases h
      · exact (Option.some.inj h).symm
    rw [scan_cons, beginning?_label, hrun, scan_append_of_not_initial hdigits, String.utf8Len_cons,
      Nat.add_comm (String.utf8Len _), Nat.add_assoc, List.length_cons, Nat.add_sub_cancel,
      List.tail_cons, List.drop_left]
  case h_7 => cases h
  all_goals
    obtain rfl := Option.some.inj h
    rfl

lemma startingAt?_of_matchAt?_eq_none {cs : List Char} (h : matchAt? cs = none) :
    startingAt? cs = none := by
  unfold matchAt? at h
  split at h
  case h_6 rest =>
    dsimp only at h
    split at h
    case isTrue hrun => simp [startingAt?, hrun, labelNumber?, wordOfDigits?]
    case isFalse => cases h
  case h_7 => unfold startingAt?; split <;> simp_all
  all_goals cases h

/-- Both ways of reading find the same. -/
lemma scan_eq_leftmost (position : Nat) (cs : List Char) :
    scan position cs = leftmost position cs := by
  fun_induction leftmost position cs with
  | case1 position => rfl
  | case2 position c cs taken hmatch ih =>
    rw [scan_of_matchAt? hmatch, ← ih]
    rfl
  | case3 position c cs hnone ih =>
    rw [scan_cons, beginning?, startingAt?_of_matchAt?_eq_none hnone, ih]
    rfl

/-! ## Order -/

lemma eq_of_mem_ofMatch? {position : Nat} {taken : List Char} {l : Lexeme}
    (h : l ∈ (ofMatch? position taken).toList) :
    l.start = position ∧ l.stop = position + String.utf8Len taken := by
  obtain ⟨t, -, rfl⟩ := Option.map_eq_some_iff.mp (Option.mem_toList.mp h)
  exact ⟨rfl, rfl⟩

lemma le_start_of_mem_leftmost {position : Nat} {cs : List Char} {l : Lexeme}
    (h : l ∈ leftmost position cs) : position ≤ l.start := by
  fun_induction leftmost position cs with
  | case1 position => cases h
  | case2 position c cs taken hmatch ih =>
    obtain h | h := List.mem_append.mp h
    · exact Nat.le_of_eq (eq_of_mem_ofMatch? h).1.symm
    · exact Nat.le_trans (Nat.le_add_right _ _) (ih h)
  | case3 position c cs hnone ih => exact Nat.le_trans (Nat.le_add_right _ _) (ih h)

/-- What is taken is behind everything that was taken before. -/
lemma pairwise_leftmost (position : Nat) (cs : List Char) :
    (leftmost position cs).Pairwise fun l later => l.stop ≤ later.start := by
  fun_induction leftmost position cs with
  | case1 position => exact List.Pairwise.nil
  | case2 position c cs taken hmatch ih =>
    refine List.pairwise_append.mpr ⟨?_, ih, ?_⟩
    · cases ofMatch? position taken with
      | none => exact List.Pairwise.nil
      | some l => exact List.pairwise_singleton _ l
    · intro l hl later hlater
      rw [(eq_of_mem_ofMatch? hl).2]
      exact le_start_of_mem_leftmost hlater
  | case3 position c cs hnone ih => exact ih

end Lexeme

/-! ## Cutting lexemes out of the text -/

lemma Text.StandsAt.extract {text : String} {inside after : List Char} {start stop : Nat}
    (h : StandsAt text start stop inside after) :
    String.Pos.Raw.IsValid text ⟨start⟩ ∧ String.Pos.Raw.IsValid text ⟨stop⟩ ∧
      String.Pos.Raw.extract text ⟨start⟩ ⟨stop⟩ = String.ofList inside := by
  obtain ⟨before, htext, rfl, rfl⟩ := h
  have hsize : ∀ cs, (String.ofList cs).rawEndPos = ⟨String.utf8Len cs⟩ := by
    intro cs
    rw [String.rawEndPos, ← String.utf8Len_toList, String.toList_ofList]
  obtain rfl : text = String.ofList (before ++ inside ++ after) := by
    rw [← htext, String.ofList_toList]
  refine ⟨?_, ?_, ?_⟩
  · exact String.Pos.Raw.isValid_iff_exists_append.mpr
      ⟨String.ofList before, String.ofList (inside ++ after), by simp, (hsize _).symm⟩
  · exact String.Pos.Raw.isValid_iff_exists_append.mpr
      ⟨String.ofList (before ++ inside), String.ofList after, by simp [String.append_assoc],
        (hsize _).symm⟩
  · rw [String.utf8Len_append]
    exact String.extract_of_valid before inside after

/-- **The lexemes of a text are the places where it spells a token**: all of them, each once, in
order and without an overlap.  What stands at such a place can be cut out of the text and is the
spelling of the token.  Taking the leftmost match again and again finds the same lexemes. -/
theorem lexemes_complete (text : String) :
    (∀ l : Lexeme, l ∈ lexemes text ↔ l.IsSpelledIn text) ∧
    (lexemes text).Nodup ∧
    (lexemes text).Pairwise (fun l later => l.stop ≤ later.start) ∧
    (∀ l ∈ lexemes text, l.start < l.stop ∧
      String.Pos.Raw.IsValid text ⟨l.start⟩ ∧ String.Pos.Raw.IsValid text ⟨l.stop⟩ ∧
      String.Pos.Raw.extract text ⟨l.start⟩ ⟨l.stop⟩ = l.token.spelling) ∧
    lexemes text = Lexeme.leftmost 0 text.toList := by
  have hleftmost : lexemes text = Lexeme.leftmost 0 text.toList := Lexeme.scan_eq_leftmost 0 _
  have hordered : (lexemes text).Pairwise fun l later => l.stop ≤ later.start :=
    hleftmost ▸ Lexeme.pairwise_leftmost 0 _
  have hcut : ∀ l ∈ lexemes text, l.start < l.stop ∧
      String.Pos.Raw.IsValid text ⟨l.start⟩ ∧ String.Pos.Raw.IsValid text ⟨l.stop⟩ ∧
      String.Pos.Raw.extract text ⟨l.start⟩ ⟨l.stop⟩ = l.token.spelling := by
    intro l hl
    obtain ⟨inside, after, hstands, hspelled⟩ := Lexeme.mem_lexemes_iff.mp hl
    obtain rfl := hspelled.eq_spelling
    obtain ⟨hstart, hstop, hextract⟩ := hstands.extract
    refine ⟨?_, hstart, hstop, by rw [hextract, String.ofList_toList]⟩
    obtain ⟨before, -, hbefore, hinside⟩ := hstands
    have hpos : 0 < String.utf8Len l.token.spelling.toList :=
      Nat.pos_of_ne_zero (mt String.utf8Len_eq_zero.mp hspelled.ne_nil)
    rw [← hbefore, ← hinside, String.utf8Len_append]
    exact Nat.lt_add_of_pos_right hpos
  have hnodup : (lexemes text).Nodup := by
    refine hordered.imp_of_mem fun {l later} hl _ hle heq => ?_
    subst heq
    exact Nat.not_lt_of_le hle (hcut l hl).1
  exact ⟨fun l => Lexeme.mem_lexemes_iff, hnodup, hordered, hcut, hleftmost⟩

-- A superfluous zero hides nothing, and a digit of any script goes on with a label.
example : lexemes "ORC12 C01 (C٣" =
    [⟨.op .or, 0, 2⟩, ⟨.label 12, 2, 5⟩, ⟨.op .openParen, 10, 11⟩] := by decide

end CoinQuery
