import CoinQuery.Decimal.Binary64

/-!
# JSON trees

A tree as a text spells it: objects keep their members in the order written, repetitions included.
What a free-form tree stands for is its settled form, where every object lists its members ascending
by key and the last of several members with one key has won; `Json.settle?` computes it.

`Json.Fields` is a free-form object in settled form. It is what items and records are made of, and
settling it again changes nothing (`Fields.settled`), so writing and reading lose nothing.
-/

namespace CoinQuery

/-- A number without a fraction or exponent stays an integer, within the signed and unsigned 64-bit
range; every other number is rounded to binary64. -/
inductive JsonNumber
  | integer (value : Int)
  | real (value : Binary64)
deriving DecidableEq

def JsonNumber.toBinary64 : JsonNumber → Binary64
  | .integer i => Binary64.ofInt i
  | .real x => x

inductive Json
  | null
  | bool (value : Bool)
  | number (value : JsonNumber)
  | string (value : String)
  | array (items : List Json)
  | object (members : List (String × Json))
  /-- Text that keeps to the grammar and stands for no value: a number beyond every finite one, an
  unpaired surrogate, nesting past the limit. It does no harm where nobody looks at it. -/
  | unreadable
deriving Inhabited

namespace Json

def string? : Json → Option String
  | string s => some s
  | _ => none

def number? : Json → Option Binary64
  | number n => some n.toBinary64
  | _ => none

/-! ## The settled form -/

/-- Puts a member at its place in an ascending list. A member already there under the same key was
written later and stays. -/
def putMember (key : String) (value : Json) : List (String × Json) → List (String × Json)
  | [] => [(key, value)]
  | (k, v) :: rest =>
    match compare key k with
    | .lt => (key, value) :: (k, v) :: rest
    | .eq => (k, v) :: rest
    | .gt => (k, v) :: putMember key value rest

mutual

/-- What a free-form tree stands for; none if some part of it stands for no value. -/
def settle? : Json → Option Json
  | array items => (settleItems? items).map array
  | object members => (settleMembers? members).map object
  | unreadable => none
  | null => some null
  | bool b => some (bool b)
  | number n => some (number n)
  | string s => some (string s)

def settleItems? : List Json → Option (List Json)
  | [] => some []
  | j :: rest => do
    let j ← settle? j
    let rest ← settleItems? rest
    some (j :: rest)

def settleMembers? : List (String × Json) → Option (List (String × Json))
  | [] => some []
  | (k, v) :: rest => do
    let v ← settle? v
    let rest ← settleMembers? rest
    some (putMember k v rest)

end

/-! ## Settling twice -/

/-- Every key is below all keys after it. -/
def Ascending (members : List (String × Json)) : Prop :=
  members.Pairwise fun a b => compare a.1 b.1 = .lt

/-- Every value is its own settled form. -/
def ValuesSettled (members : List (String × Json)) : Prop :=
  ∀ m ∈ members, settle? m.2 = some m.2

theorem mem_putMember {key : String} {value : Json} {members : List (String × Json)}
    {m : String × Json} (h : m ∈ putMember key value members) :
    m = (key, value) ∨ m ∈ members := by
  induction members with
  | nil => simpa [putMember] using h
  | cons head rest ih =>
    obtain ⟨k, v⟩ := head
    simp only [putMember] at h
    split at h
    · simpa using h
    · exact .inr h
    · rcases List.mem_cons.1 h with h | h
      · exact .inr (by simp [h])
      · exact (ih h).imp_right (List.mem_cons_of_mem _)

theorem ascending_putMember {key : String} {value : Json} {members : List (String × Json)}
    (h : Ascending members) : Ascending (putMember key value members) := by
  induction members with
  | nil => simp [putMember, Ascending]
  | cons head rest ih =>
    obtain ⟨k, v⟩ := head
    have hrest := List.pairwise_cons.1 h
    simp only [putMember]
    split
    · rename_i hlt
      refine List.pairwise_cons.2 ⟨fun m hm => ?_, h⟩
      rcases List.mem_cons.1 hm with rfl | hm
      · exact hlt
      · exact Std.TransCmp.lt_trans hlt (hrest.1 m hm)
    · exact h
    · rename_i hgt
      refine List.pairwise_cons.2 ⟨fun m hm => ?_, ih hrest.2⟩
      rcases mem_putMember hm with rfl | hm
      · exact Std.OrientedCmp.lt_of_gt hgt
      · exact hrest.1 m hm

theorem putMember_of_below {key : String} {value : Json} {members : List (String × Json)}
    (h : ∀ m ∈ members, compare key m.1 = .lt) :
    putMember key value members = (key, value) :: members := by
  cases members with
  | nil => rfl
  | cons head rest => simp [putMember, h head (by simp)]

theorem settleMembers?_of_ascending {members : List (String × Json)}
    (h : Ascending members) (hv : ValuesSettled members) :
    settleMembers? members = some members := by
  induction members with
  | nil => simp [settleMembers?]
  | cons head rest ih =>
    obtain ⟨k, v⟩ := head
    have hrest := List.pairwise_cons.1 h
    simp [settleMembers?, hv (k, v) (by simp),
      ih hrest.2 fun m hm => hv m (List.mem_cons_of_mem _ hm), putMember_of_below hrest.1]

mutual

theorem settle?_settle? {j k : Json} (h : settle? j = some k) : settle? k = some k := by
  cases j with
  | array items =>
    simp only [settle?, Option.map_eq_some_iff] at h
    obtain ⟨items', h, rfl⟩ := h
    simp [settle?, settleItems?_settleItems? h]
  | object members =>
    simp only [settle?, Option.map_eq_some_iff] at h
    obtain ⟨members', h, rfl⟩ := h
    have := settled_of_settleMembers? h
    simp [settle?, settleMembers?_of_ascending this.1 this.2]
  | unreadable => simp [settle?] at h
  | null => simp only [settle?, Option.some.injEq] at h; subst h; simp [settle?]
  | bool b => simp only [settle?, Option.some.injEq] at h; subst h; simp [settle?]
  | number n => simp only [settle?, Option.some.injEq] at h; subst h; simp [settle?]
  | string s => simp only [settle?, Option.some.injEq] at h; subst h; simp [settle?]

theorem settleItems?_settleItems? {js ks : List Json} (h : settleItems? js = some ks) :
    settleItems? ks = some ks := by
  cases js with
  | nil => simp only [settleItems?, Option.some.injEq] at h; subst h; simp [settleItems?]
  | cons j rest =>
    simp only [settleItems?, Option.bind_eq_bind, Option.bind_eq_some_iff,
      Option.some.injEq] at h
    obtain ⟨k, hk, ks', hks, rfl⟩ := h
    simp [settleItems?, settle?_settle? hk, settleItems?_settleItems? hks]

theorem settled_of_settleMembers? {ms ns : List (String × Json)}
    (h : settleMembers? ms = some ns) : Ascending ns ∧ ValuesSettled ns := by
  cases ms with
  | nil =>
    simp only [settleMembers?, Option.some.injEq] at h
    subst h
    simp [Ascending, ValuesSettled]
  | cons head rest =>
    obtain ⟨k, v⟩ := head
    simp only [settleMembers?, Option.bind_eq_bind, Option.bind_eq_some_iff,
      Option.some.injEq] at h
    obtain ⟨v', hv, rest', hrest, rfl⟩ := h
    have ih := settled_of_settleMembers? hrest
    refine ⟨ascending_putMember ih.1, fun m hm => ?_⟩
    rcases mem_putMember hm with rfl | hm
    · exact settle?_settle? hv
    · exact ih.2 m hm

end

/-! ## Free-form objects -/

/-- A free-form object in settled form. -/
structure Fields where
  members : List (String × Json)
  settled : settle? (object members) = some (object members)

namespace Fields

def empty : Fields := ⟨[], by simp [settle?, settleMembers?]⟩

instance : Inhabited Fields := ⟨empty⟩

def toJson (fields : Fields) : Json := object fields.members

/-- The free-form object a tree stands for; only an object is one. -/
def ofJson? : Json → Option Fields
  | object members =>
    match h : settleMembers? members with
    | some settledMembers => some ⟨settledMembers, by
        have := settle?_settle? (j := object members) (k := object settledMembers)
          (by simp [settle?, h])
        exact this⟩
    | none => none
  | _ => none

def get? (fields : Fields) (key : String) : Option Json :=
  (fields.members.find? (·.1 == key)).map (·.2)

/-- The text under a key; none if another kind of value stands there. -/
def text? (fields : Fields) (key : String) : Option String := (fields.get? key).bind string?

def number? (fields : Fields) (key : String) : Option Binary64 :=
  (fields.get? key).bind Json.number?

theorem ofJson?_toJson (fields : Fields) : ofJson? fields.toJson = some fields := by
  have h : settleMembers? fields.members = some fields.members := by
    have := fields.settled
    simpa [settle?] using this
  simp only [toJson, ofJson?]
  split
  · rename_i ms h'
    simp only [h, Option.some.injEq] at h'
    cases fields; simp_all
  · simp_all

end Fields

end Json

end CoinQuery
