import CoinQuery.Proofs.Relation.Binding
import CoinQuery.Proofs.Relation.Spelling

/-!
# Noise between tokens

What spells no token leaves no trace, wherever it stands: in front of the tokens of a relation,
between them or behind them.  A text without lexemes may well end in the first letters of a word, or
in a `C`; still nothing comes of it with what follows, because where a token begins no word and no
label goes on (`Lexeme.startingAt?_append`).  Only a label must not be followed by a digit, which
would become part of it.

`Relation.parse_noisy` says so for any number of tokens with noise around each.
-/

namespace CoinQuery

open Text

namespace Lexeme

/-- No token begins within another one: not in what is left of its spelling past the first
character. -/
lemma startingAt?_of_spelledBy {t : Token} {front back after : List Char}
    (h : t.SpelledBy (front ++ back) after) (hfront : front ≠ []) (hback : back ≠ []) :
    startingAt? (back ++ after) = none := by
  obtain ⟨c, front, rfl⟩ := List.exists_cons_of_ne_nil hfront
  obtain ⟨d, back, rfl⟩ := List.exists_cons_of_ne_nil hback
  match t, h with
  | .op o, h =>
    have htail : d :: back <:+ o.word.toList.tail := ⟨front, congrArg List.tail h⟩
    cases o <;> simp [Operator.word, List.suffix_cons_iff] at htail
    case and => obtain ⟨rfl, rfl⟩ | ⟨rfl, rfl⟩ := htail <;> rfl
    case or => obtain ⟨rfl, rfl⟩ := htail; rfl
    case not => obtain ⟨rfl, rfl⟩ | ⟨rfl, rfl⟩ := htail <;> rfl
  | .ref (.label n), ⟨digits, hinside, hnumeral, _, _⟩ =>
    obtain ⟨-, rfl⟩ := List.cons.inj hinside
    have hd : d.isDigit = true := hnumeral.isDigit d (by simp)
    exact startingAt?_of_not_initial
      (isInitial_of_isDecimalDigit (isDecimalDigit_of_isDigit hd)) _

/-- The text is over, or a token begins. -/
def EndsNoise (rest : List Char) : Prop := rest = [] ∨ ∃ found, startingAt? rest = some found

lemma EndsNoise.head? {rest : List Char} (h : EndsNoise rest) :
    ∀ c ∈ rest.head?, isDecimalDigit c = false := by
  intro c hc
  obtain ⟨rest, rfl⟩ := List.head?_eq_some_iff.mp hc
  obtain hnil | ⟨found, hfound⟩ := h
  · cases hnil
  · by_contra hdigit
    have hnone := startingAt?_of_not_initial
      (isInitial_of_isDecimalDigit (Bool.eq_true_of_not_eq_false hdigit)) rest
    rw [hnone] at hfound
    cases hfound

lemma EndsNoise.spelledBy_append {rest : List Char} (h : EndsNoise rest) {t : Token}
    {inside after : List Char} :
    t.SpelledBy inside (after ++ rest) ↔ t.SpelledBy inside after := by
  cases after with
  | nil =>
    constructor
    · exact fun hspelled => hspelled.of_head? (by simp)
    · exact fun hspelled => hspelled.of_head? h.head?
  | cons c after =>
    match t with
    | .op o => exact Iff.rfl
    | .ref (.label n) => exact Iff.rfl
    | .ref (.coin id) => exact Iff.rfl

/-- Where a token begins, what stands in front is read as if nothing followed. -/
lemma startingAt?_append {rest : List Char} (h : EndsNoise rest) {cs : List Char} (hcs : cs ≠ []) :
    startingAt? (cs ++ rest) = startingAt? cs := by
  ext ⟨t, length⟩
  rw [startingAt?_eq_some_iff, startingAt?_eq_some_iff]
  constructor
  · rintro ⟨inside, after, heq, hspelled, hlength⟩
    obtain ⟨back, rfl, rfl⟩ | ⟨behind, rfl, rfl⟩ := List.append_eq_append_iff.mp heq
    · obtain rfl : back = [] := by
        -- else the spelling goes on into `rest`, where no token begins then
        by_contra hback
        have hnone := startingAt?_of_spelledBy hspelled hcs hback
        obtain hnil | ⟨found, hfound⟩ := h
        · exact hback (List.append_eq_nil_iff.mp hnil).1
        · rw [hnone] at hfound
          cases hfound
      rw [List.append_nil] at hspelled hlength
      exact ⟨cs, [], (List.append_nil cs).symm, hspelled.of_head? (by simp), hlength⟩
    · exact ⟨inside, behind, rfl, h.spelledBy_append.mp hspelled, hlength⟩
  · rintro ⟨inside, after, rfl, hspelled, hlength⟩
    exact ⟨inside, after ++ rest, List.append_assoc .., h.spelledBy_append.mpr hspelled, hlength⟩

end Lexeme

namespace Relation

/-- The tokens in front of where a token begins are read as if nothing followed. -/
lemma ofChars_append {rest : List Char} (h : Lexeme.EndsNoise rest) (cs : List Char) :
    ofChars (cs ++ rest) = ofChars cs ++ ofChars rest := by
  induction cs with
  | nil => rfl
  | cons c cs ih =>
    have hstart : Lexeme.startingAt? (c :: (cs ++ rest)) = Lexeme.startingAt? (c :: cs) :=
      Lexeme.startingAt?_append h (List.cons_ne_nil c cs)
    rw [List.cons_append]
    cases hfound : Lexeme.startingAt? (c :: cs) with
    | none => rw [ofChars_cons_of_none hfound, ofChars_cons_of_none (hstart.trans hfound), ih]
    | some found =>
      rw [ofChars_cons_of_some hfound, ofChars_cons_of_some (hstart.trans hfound), ih]
      rfl

/-- Characters among which no token begins leave no trace. -/
lemma ofChars_append_of_none {cs after : List Char}
    (h : ∀ front back, cs = front ++ back → back ≠ [] →
      Lexeme.startingAt? (back ++ after) = none) :
    ofChars (cs ++ after) = ofChars after := by
  induction cs with
  | nil => rfl
  | cons c cs ih =>
    have hnone : Lexeme.startingAt? (c :: (cs ++ after)) = none :=
      h [] (c :: cs) rfl (List.cons_ne_nil c cs)
    rw [List.cons_append, ofChars_cons_of_none hnone]
    exact ih fun front back heq hback => h (c :: front) back (by rw [heq, List.cons_append]) hback

/-- A token is read where it is spelled, and nothing else within its spelling. -/
lemma ofChars_of_spelledBy {t : Token} {inside after : List Char} (h : t.SpelledBy inside after) :
    ofChars (inside ++ after) = t :: ofChars after := by
  have hstart := Lexeme.startingAt?_eq_some_iff.mpr ⟨inside, after, rfl, h, rfl⟩
  cases inside with
  | nil => exact absurd rfl h.ne_nil
  | cons c cs =>
    rw [List.cons_append] at hstart ⊢
    rw [ofChars_cons_of_some hstart, ofChars_append_of_none fun front back heq hback => ?_]
    subst heq
    exact Lexeme.startingAt?_of_spelledBy h (List.cons_ne_nil c front) hback

/-! ## Texts with noise -/

/-- What is written after the first noise: each token with the noise behind it. -/
def noisyChars (tokens : List (Token × String)) : List Char :=
  tokens.flatMap fun (t, noise) => t.spelling.toList ++ noise.toList

/-- A text of tokens with noise in front of them, and behind each. -/
def noisyText (noise : String) (tokens : List (Token × String)) : String :=
  noise ++ String.join (tokens.map fun (t, noise) => t.spelling ++ noise)

/-- A token with noise behind it: nothing is read in the noise, and behind a label it does not begin
with a digit. -/
structure IsNoisy (t : Token) (noise : String) : Prop where
  isReadable : t.IsReadable
  lexemes_eq_nil : lexemes noise = []
  head? : ∀ n, t = .label n → ∀ c ∈ noise.toList.head?, isDecimalDigit c = false

lemma toList_noisyText (noise : String) (tokens : List (Token × String)) :
    (noisyText noise tokens).toList = noise.toList ++ noisyChars tokens := by
  simp [noisyText, noisyChars, List.flatMap_map]

lemma ofChars_noise {noise : String} (h : lexemes noise = []) : ofChars noise.toList = [] := by
  rw [← ofText_eq_ofChars, ofText, h, List.map_nil]

lemma IsNoisy.spelledBy {t : Token} {noise : String} (h : IsNoisy t noise) {rest : List Char}
    (hrest : Lexeme.EndsNoise rest) :
    t.SpelledBy t.spelling.toList (noise.toList ++ rest) := by
  rw [hrest.spelledBy_append]
  match t, h.isReadable with
  | .op o, _ => exact rfl
  | .ref (.label n), hlt =>
    exact ⟨_, Coin.toList_label n, isNumeral_iff.mpr rfl, hlt, h.head? n rfl⟩

lemma read_noisyChars {tokens : List (Token × String)} (h : ∀ p ∈ tokens, IsNoisy p.1 p.2) :
    Lexeme.EndsNoise (noisyChars tokens) ∧ ofChars (noisyChars tokens) = tokens.map Prod.fst := by
  induction tokens with
  | nil => exact ⟨Or.inl rfl, rfl⟩
  | cons p tokens ih =>
    obtain ⟨t, noise⟩ := p
    obtain ⟨hends, hread⟩ := ih fun q hq => h q (List.mem_cons_of_mem _ hq)
    have hnoisy : IsNoisy t noise := h _ List.mem_cons_self
    have hspelled := hnoisy.spelledBy hends
    have hchars : noisyChars ((t, noise) :: tokens) =
        t.spelling.toList ++ (noise.toList ++ noisyChars tokens) := by
      rw [← List.append_assoc]
      rfl
    rw [hchars]
    refine ⟨Or.inr ⟨_, Lexeme.startingAt?_eq_some_iff.mpr ⟨_, _, rfl, hspelled, rfl⟩⟩, ?_⟩
    rw [ofChars_of_spelledBy hspelled, ofChars_append hends,
      ofChars_noise hnoisy.lexemes_eq_nil, hread, List.nil_append, List.map_cons]

/-- **Noise leaves no trace.**  A text of tokens with noise in front of them and behind each is read
as these tokens. -/
theorem parse_noisy (noise : String) (tokens : List (Token × String)) (coins : CoinSet)
    (hfirst : lexemes noise = []) (h : ∀ p ∈ tokens, IsNoisy p.1 p.2) :
    parse (noisyText noise tokens) coins = bind (tokens.map Prod.fst) coins := by
  obtain ⟨hends, hread⟩ := read_noisyChars h
  rw [parse, ofText_eq_ofChars, toList_noisyText, ofChars_append hends, ofChars_noise hfirst,
    hread, List.nil_append]

/-- Noise that ends in the letters with which words and labels begin. -/
def straddling : List (Token × String) :=
  [(.label 1, "C"), (.op .or, "C01 N"), (.op .or, "AN"), (.op .and, "NO"),
    (.op .not, "C٣ and O"), (.label 2, "")]

theorem parse_noisy_straddling :
    noisyText "CA" straddling = "CAC1CORC01 NORANANDNONOTC٣ and OC2" ∧
    lexemes "CA" = [] ∧ (∀ p ∈ straddling, IsNoisy p.1 p.2) ∧
    parse (noisyText "CA" straddling) [⟨⟨5⟩, Draft.empty⟩] =
      [.coin ⟨5⟩, .op .or, .op .or, .op .and, .op .not, .label 2] := by
  have hfirst : lexemes "CA" = [] := by decide
  have hnoisy : ∀ p ∈ straddling, IsNoisy p.1 p.2 := by
    have hword : 2 < wordLimit := by decide
    simp only [straddling, List.forall_mem_cons]
    refine ⟨⟨Nat.lt_of_succ_lt hword, by decide, ?_⟩, ⟨trivial, by decide, nofun⟩,
      ⟨trivial, by decide, nofun⟩, ⟨trivial, by decide, nofun⟩, ⟨trivial, by decide, nofun⟩,
      ⟨hword, rfl, nofun⟩, nofun⟩
    rintro - - c hc
    obtain rfl : c = 'C' := by simpa using hc.symm
    decide
  exact ⟨by decide, hfirst, hnoisy, parse_noisy "CA" straddling _ hfirst hnoisy⟩

end Relation

end CoinQuery
