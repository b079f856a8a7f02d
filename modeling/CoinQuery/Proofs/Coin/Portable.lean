import CoinQuery.Coin.Set
import CoinQuery.Proofs.Json.Shape

/-!
# The portable form of coins

Coins are sent as the descriptions of their two sides.  Writing and reading belong together on
every level (`Json.Lawful`), from the rows of the recommendation tables up to the draft, so the main
result `CoinSet.portable_round_trips` can say that nothing is lost but the ids.

Reading is looser than writing: a side may leave out its descriptors or its keywords, and other
members may stand beside the known ones (`SideDescription.ofJson?_loose`).  What is read this way is
a draft like any other, and writing it gives the strict form.
-/

namespace CoinQuery

open Json (Lawful Spells Steady)

/-! ## From items to drafts -/

lemma Category.lawful : Lawful toJson ofJson? where
  read_write c := by cases c <;> rfl
  hasValue c := ⟨c.toJson, by rw [toJson, Json.settle?]⟩
  steady j k c hsettled hread := by
    obtain ⟨name, hname, hfound⟩ := Option.bind_eq_some_iff.mp hread
    simp [ofJson?, Steady.choice? j k name hsettled hname, hfound]

lemma Item.lawful : Lawful toJson ofJson? where
  read_write := ofJson?_toJson
  hasValue item := ⟨item.toJson, item.fields.settled⟩
  steady j k item hsettled hread := by
    obtain ⟨fields, hfields, rfl⟩ := Option.map_eq_some_iff.mp hread
    simp [ofJson?, Lawful.fields.steady j k fields hsettled hfields]

lemma Descriptor.lawful : Lawful toJson ofJson? :=
  Lawful.pair? (by decide) Category.lawful.required Item.lawful.required fun _ => rfl

lemma Keyword.lawful : Lawful toJson ofJson? :=
  Lawful.pair? (by decide) Lawful.string.required Lawful.bool.required fun _ => rfl

lemma SideDescription.lawful : Lawful toJson ofJson? :=
  Lawful.pair? (by decide) (Descriptor.lawful.list?.defaulted [])
    (Keyword.lawful.list?.defaulted []) fun _ => rfl

lemma Draft.lawful : Lawful toJson ofJson? :=
  Lawful.pair? (by decide) SideDescription.lawful.required SideDescription.lawful.required
    fun _ => rfl

/-! ## Looser spellings -/

/-- **A side may be spelled loosely.**  Members that name neither list are passed over, and a list
that is left out is empty. -/
theorem SideDescription.ofJson?_loose (members : List (String × Json)) :
    ofJson? (.object (members.filter (·.1 ∈ ["coin", "keywords"]))) = ofJson? (.object members) ∧
      ∀ field ∈ ["coin", "keywords"], Json.memberSlot? members field = some .omitted →
        ofJson? (.object ((field, .array []) :: members)) = ofJson? (.object members) := by
  refine ⟨?_, ?_⟩
  · exact Json.pair?_filter _ _ _ _ _ members
  · intro field hfield homitted
    have hgiven : Json.memberSlot? ((field, .array []) :: members) field =
        some (.given (.array [])) := Json.memberSlot?_cons_of_omitted _ homitted
    have hother : ∀ other, field ≠ other → Json.memberSlot? ((field, .array []) :: members) other =
        Json.memberSlot? members other := fun other h => Json.memberSlot?_cons_other h _ _
    simp only [List.mem_cons, List.not_mem_nil, or_false] at hfield
    obtain rfl | rfl := hfield
    · cases hkeywords : Json.memberSlot? members "keywords" <;>
        simp [ofJson?, Json.pair?, Json.slots?, hgiven, homitted, hother "keywords" (by decide),
          hkeywords, Json.Slot.defaulted, Json.list?]
    · cases hcoin : Json.memberSlot? members "coin" <;>
        simp [ofJson?, Json.pair?, Json.slots?, hgiven, homitted, hother "coin" (by decide),
          hcoin, Json.Slot.defaulted, Json.list?]

/-! ## Round trips -/

/-- **The portable form keeps the coins.**  The portable form of a set is an array with one object
for each coin, in order.  The object has the two sides for members and spells the draft that the
coin was struck from; of the coins, nothing but their sides matters.  A draft that was read from any
object, however loosely it is spelled, is read back from the portable form of the draft; and the
draft is the same if it is read from the value that the object stands for, or without the members
that name no side. -/
theorem CoinSet.portable_round_trips (coins : CoinSet) :
    Spells (Json.list? Draft.ofJson?) coins.toJson (coins.map Coin.sides) ∧
    (∃ items : List Json, coins.toJson = .array items ∧ items.length = coins.length ∧
      ∀ (i : Nat) (coin : Coin), coins[i]? = some coin → ∃ obverse reverse : Json,
        items[i]? = some (.object [("obverse", obverse), ("reverse", reverse)]) ∧
          Spells Draft.ofJson? (.object [("obverse", obverse), ("reverse", reverse)]) coin.sides) ∧
    (∀ others : CoinSet,
      others.toJson = coins.toJson ↔ others.map Coin.sides = coins.map Coin.sides) ∧
    ∀ (members : List (String × Json)) (draft : Draft),
      Draft.ofJson? (.object members) = some draft →
        Spells Draft.ofJson? draft.toJson draft ∧
          (∀ value, Json.settle? (.object members) = some value →
            Draft.ofJson? value = some draft) ∧
          Draft.ofJson? (.object (members.filter (·.1 ∈ ["obverse", "reverse"]))) = some draft := by
  have hwritten : ∀ set : CoinSet, set.toJson = .array ((set.map Coin.sides).map Draft.toJson) := by
    intro set
    rw [toJson, List.map_map]
    rfl
  refine ⟨?_, ⟨coins.map Coin.toJson, rfl, List.length_map _, ?_⟩, ?_, ?_⟩
  · rw [hwritten]
    exact Draft.lawful.list?.spells (coins.map Coin.sides)
  · intro i coin hcoin
    have hitem : (coins.map Coin.toJson)[i]? = some coin.toJson := by
      rw [List.getElem?_map, hcoin]
      rfl
    exact ⟨coin.sides.obverse.toJson, coin.sides.reverse.toJson, hitem,
      Draft.lawful.spells coin.sides⟩
  · intro others
    rw [hwritten, hwritten]
    exact ⟨Draft.lawful.list?.write_injective, fun hsides => by rw [hsides]⟩
  · intro members draft hread
    refine ⟨Draft.lawful.spells draft, fun value hvalue => ?_, ?_⟩
    · exact Draft.lawful.steady _ _ draft hvalue hread
    · rw [← hread]
      exact Json.pair?_filter _ _ _ _ _ members

/-- The obverse names what is no field and leaves out its keywords, the reverse leaves out both
lists, and the item is nested and has its members out of order. -/
theorem CoinSet.portable_round_trips_loose :
    let loose : List (String × Json) :=
      [("note", .null), ("reverse", .object []),
        ("obverse", .object [
          ("coin", .array [.object [
            ("item", .object [("name", .string "laurel"), ("more", .array [.object []])]),
            ("rank", .bool true), ("category", .string "list_plant")]]),
          ("year", .string "ancient")])]
    let laurel : Item :=
      ⟨[("more", .array [.object []]), ("name", .string "laurel")], by rfl⟩
    let draft : Draft := ⟨⟨[⟨.plant, laurel⟩], []⟩, .empty⟩
    Draft.ofJson? (.object loose) = some draft ∧ Draft.ofJson? draft.toJson = some draft := by
  intro loose laurel draft
  have hread : Draft.ofJson? (.object loose) = some draft := by rfl
  obtain ⟨-, -, -, hagain⟩ := CoinSet.portable_round_trips [⟨⟨1⟩, draft⟩]
  obtain ⟨⟨hsame, -⟩, -, -⟩ := hagain loose draft hread
  exact ⟨hread, hsame⟩

end CoinQuery
