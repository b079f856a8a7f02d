import CoinQuery.Json.Shape
import Mathlib.Data.List.Forall2

/-!
# Structures and the values they are spelled by

A structure is read from a tree as it is spelled.  The tree stands for a value, its settled form,
where members are sorted by key, and whoever passes the value on hands over that form.  A reader is
`Steady` if it makes the same of both.  The readers of structures are steady once those of their
fields are (`Lawful.pair?`), because settling neither loses a field nor brings one in
(`slots?_settle?`).

What is written as a structure is read back from what is written and from the value it stands for;
`Spells` says both at once, and the readers of later modules get it field by field
(`Lawful.pair?`, `Lawful.list?`).  Members that name no field do no harm (`slots?_filter`).
-/

namespace CoinQuery.Json

variable {α β γ : Type} {name : String} {j k : Json} {members settled : List (String × Json)}

/-! ## Slots -/

/-- What a slot comes to when the tree is settled. -/
inductive Slot.Settles : Slot → Slot → Prop
  | given {j k : Json} (value : settle? j = some k) : Settles (.given j) (.given k)
  | omitted : Settles .omitted .omitted
  | cutOff : Settles .cutOff .cutOff

lemma filter_putMember_other {key : String} (h : key ≠ name) (value : Json)
    (members : List (String × Json)) :
    (putMember key value members).filter (·.1 == name) = members.filter (·.1 == name) := by
  induction members with
  | nil => simp [putMember, h]
  | cons m rest ih =>
    rw [putMember]
    split
    · simp [h]
    · rfl
    · rw [List.filter_cons, List.filter_cons, ih]

lemma filter_putMember_same (value : Json) (h : members.filter (·.1 == name) = []) :
    (putMember name value members).filter (·.1 == name) = [(name, value)] := by
  induction members with
  | nil => simp [putMember]
  | cons m rest ih =>
    have hother : m.1 ≠ name := by simpa using List.filter_eq_nil_iff.mp h m List.mem_cons_self
    have hrest : rest.filter (·.1 == name) = [] := by simpa [hother] using h
    rw [putMember]
    split
    · simp [hother, hrest]
    · rename_i hsame
      exact absurd (Std.LawfulEqCmp.eq_of_compare hsame).symm hother
    · simp [hother, ih hrest]

lemma memberSlot?_eq_omitted :
    memberSlot? members name = some .omitted ↔ members.filter (·.1 == name) = [] := by
  cases hnamed : members.filter (·.1 == name) with
  | nil => simp [memberSlot?, hnamed]
  | cons m rest => cases rest <;> simp [memberSlot?, hnamed]

lemma memberSlot?_cons_other {key : String} (h : key ≠ name) (value : Json)
    (members : List (String × Json)) :
    memberSlot? ((key, value) :: members) name = memberSlot? members name := by
  simp [memberSlot?, h]

lemma memberSlot?_cons_of_omitted (value : Json) (h : memberSlot? members name = some .omitted) :
    memberSlot? ((name, value) :: members) name = some (.given value) := by
  simp [memberSlot?, memberSlot?_eq_omitted.mp h]

lemma memberSlot?_cons_same {value : Json} {slot : Slot}
    (h : memberSlot? ((name, value) :: members) name = some slot) :
    memberSlot? members name = some .omitted ∧ slot = .given value := by
  rw [memberSlot?_eq_omitted]
  cases hnamed : members.filter (·.1 == name) with
  | nil => exact ⟨rfl, by simpa [memberSlot?, hnamed] using h.symm⟩
  | cons m rest => simp [memberSlot?, hnamed] at h

/-- Settling an object keeps the slot of every field. -/
lemma memberSlot?_settleMembers? {slot : Slot} (hsettled : settleMembers? members = some settled)
    (hslot : memberSlot? members name = some slot) :
    ∃ slot', memberSlot? settled name = some slot' ∧ slot.Settles slot' := by
  induction members generalizing settled slot with
  | nil =>
    obtain rfl : [] = settled := by simpa [settleMembers?] using hsettled
    obtain rfl : Slot.omitted = slot := by simpa [memberSlot?] using hslot
    exact ⟨.omitted, rfl, .omitted⟩
  | cons m rest ih =>
    obtain ⟨key, value⟩ := m
    obtain ⟨value', hvalue, rest', hrest, rfl⟩ :
        ∃ value', settle? value = some value' ∧
          ∃ rest', settleMembers? rest = some rest' ∧ putMember key value' rest' = settled := by
      simpa [settleMembers?, Option.bind_eq_some_iff] using hsettled
    by_cases hkey : key = name
    · -- the object names the field here and nowhere else, and so does the settled one
      subst hkey
      obtain ⟨homitted, rfl⟩ := memberSlot?_cons_same hslot
      obtain ⟨slot', hslot', hsettles⟩ := ih hrest homitted
      cases hsettles
      rw [memberSlot?, filter_putMember_same value' (memberSlot?_eq_omitted.mp hslot')]
      exact ⟨.given value', rfl, .given hvalue⟩
    · rw [memberSlot?_cons_other hkey] at hslot
      rw [memberSlot?, filter_putMember_other hkey]
      exact ih hrest hslot

lemma settleItems?_forall₂ {items items' : List Json} (h : settleItems? items = some items') :
    List.Forall₂ (fun j k => settle? j = some k) items items' := by
  induction items generalizing items' with
  | nil =>
    obtain rfl : [] = items' := by simpa [settleItems?] using h
    exact .nil
  | cons j rest ih =>
    obtain ⟨k, hk, rest', hrest, rfl⟩ : ∃ k, settle? j = some k ∧
        ∃ rest', settleItems? rest = some rest' ∧ k :: rest' = items' := by
      simpa [settleItems?, Option.bind_eq_some_iff] using h
    exact .cons hk (ih hrest)

lemma mapM_memberSlot?_settleMembers? {names : List String} {slots : List Slot}
    (hsettled : settleMembers? members = some settled)
    (hslots : names.mapM (memberSlot? members) = some slots) :
    ∃ slots', names.mapM (memberSlot? settled) = some slots' ∧
      List.Forall₂ Slot.Settles slots slots' := by
  induction names generalizing slots with
  | nil =>
    obtain rfl : [] = slots := by simpa using hslots
    exact ⟨[], rfl, .nil⟩
  | cons name names ih =>
    obtain ⟨slot, hslot, rest, hrest, rfl⟩ : ∃ slot, memberSlot? members name = some slot ∧
        ∃ rest, names.mapM (memberSlot? members) = some rest ∧ slot :: rest = slots := by
      simpa [Option.bind_eq_some_iff] using hslots
    obtain ⟨slot', hslot', hsettles⟩ := memberSlot?_settleMembers? hsettled hslot
    obtain ⟨rest', hrest', hall⟩ := ih hrest
    exact ⟨slot' :: rest', by simp [hslot', hrest'], .cons hsettles hall⟩

/-- Settling a structure keeps all its slots. -/
lemma slots?_settle? {names : List String} {slots : List Slot} (hsettled : settle? j = some k)
    (hslots : slots? names j = some slots) :
    ∃ slots', slots? names k = some slots' ∧ List.Forall₂ Slot.Settles slots slots' := by
  match j with
  | .object members =>
    obtain ⟨settled, hmembers, rfl⟩ : ∃ settled, settleMembers? members = some settled ∧
        .object settled = k := by simpa [settle?] using hsettled
    exact mapM_memberSlot?_settleMembers? hmembers hslots
  | .array items =>
    obtain ⟨items', hitems, rfl⟩ : ∃ items', settleItems? items = some items' ∧
        .array items' = k := by simpa [settle?] using hsettled
    have hall := settleItems?_forall₂ hitems
    simp only [slots?, ← hall.length_eq] at hslots ⊢
    split at hslots
    · rename_i hlength
      obtain rfl := Option.some.inj hslots
      rw [if_pos hlength]
      refine ⟨_, rfl, List.rel_append ?_ (List.forall₂_same.mpr ?_)⟩
      · rw [List.forall₂_map_left_iff, List.forall₂_map_right_iff]
        exact hall.imp fun _ _ => .given
      · intro slot hslot
        obtain rfl := List.eq_of_mem_replicate hslot
        exact .cutOff
    · cases hslots
  | .null | .bool _ | .number _ | .string _ | .unreadable => cases hslots

lemma mapM_congr_of_mem {f g : α → Option β} {as : List α} (h : ∀ a ∈ as, f a = g a) :
    as.mapM f = as.mapM g := by
  induction as with
  | nil => rfl
  | cons a as ih =>
    rw [List.mapM_cons, List.mapM_cons, h a List.mem_cons_self,
      ih fun b hb => h b (List.mem_cons_of_mem a hb)]

/-- Members that name no field are passed over. -/
lemma slots?_filter (names : List String) (members : List (String × Json)) :
    slots? names (.object (members.filter (·.1 ∈ names))) = slots? names (.object members) := by
  refine mapM_congr_of_mem fun name hname => ?_
  have hsame : ∀ m ∈ members, (m.1 == name && decide (m.1 ∈ names)) = (m.1 == name) := by
    intro m _
    by_cases hm : m.1 = name <;> simp [hm, hname]
  rw [memberSlot?, List.filter_filter, List.filter_congr hsame, memberSlot?]

lemma pair?_filter (first second : String) (readFirst : Slot → Option α)
    (readSecond : Slot → Option β) (make : α → β → γ) (members : List (String × Json)) :
    pair? first second readFirst readSecond make
        (.object (members.filter (·.1 ∈ [first, second]))) =
      pair? first second readFirst readSecond make (.object members) := by
  rw [pair?, pair?, slots?_filter]

/-! ## Steady readers -/

/-- The reader makes of the settled form what it makes of the tree. -/
def Steady (read : Json → Option α) : Prop :=
  ∀ j k a, settle? j = some k → read j = some a → read k = some a

lemma Steady.choice? : Steady choice? := by
  intro j k a hsettled hread
  unfold Json.choice? at hread
  split at hread
  · obtain rfl := Option.some.inj hsettled
    exact hread
  · obtain rfl : Json.object _ = k := by
      simpa [settle?, settleMembers?, putMember] using hsettled
    exact hread
  · cases hread

lemma Steady.list? {read : Json → Option α} (h : Steady read) : Steady (list? read) := by
  intro j k as hsettled hread
  cases j with
  | array items =>
    obtain ⟨items', hitems, rfl⟩ : ∃ items', settleItems? items = some items' ∧
        .array items' = k := by simpa [settle?] using hsettled
    have hall := settleItems?_forall₂ hitems
    simp only [Json.list?] at hread ⊢
    clear hsettled hitems
    induction hall generalizing as with
    | nil => exact hread
    | cons hitem _ ih =>
      obtain ⟨a, ha, rest, hrest, rfl⟩ : ∃ a, read _ = some a ∧
          ∃ rest, List.mapM read _ = some rest ∧ a :: rest = as := by
        simpa [Option.bind_eq_some_iff] using hread
      simp [h _ _ a hitem ha, ih rest hrest]
  | _ => cases hread

/-! ## Writers and readers -/

/-- A writer and a reader that belong together: what is written stands for a value, and is read back
from the tree and from its value. -/
structure Lawful (write : α → Json) (read : Json → Option α) : Prop where
  read_write : ∀ a, read (write a) = some a
  hasValue : ∀ a, ∃ value, settle? (write a) = some value
  steady : Steady read

/-- The tree spells `a`: it is read as `a`, and so is the value that it stands for. -/
def Spells (read : Json → Option α) (j : Json) (a : α) : Prop :=
  read j = some a ∧ ∃ value, settle? j = some value ∧ read value = some a

/-- A writer and the reader of a field that belong together. -/
structure LawfulField (write : α → Json) (read : Slot → Option α) : Prop where
  read_write : ∀ a, read (.given (write a)) = some a
  hasValue : ∀ a, ∃ value, settle? (write a) = some value
  steady : ∀ slot slot' a, slot.Settles slot' → read slot = some a → read slot' = some a

/-- What is read as a free-form object is its settled form. -/
lemma Fields.settle?_of_ofJson? {fields : Fields} (h : Fields.ofJson? j = some fields) :
    settle? j = some fields.toJson := by
  cases j with
  | object members =>
    simp only [Fields.ofJson?] at h
    split at h
    · rename_i settled hsettled
      obtain rfl := Option.some.inj h
      simp [settle?, hsettled, Fields.toJson]
    · cases h
  | _ => cases h

namespace Lawful

variable {write : α → Json} {read : Json → Option α}

/-- What is written spells what it was written for. -/
lemma spells (h : Lawful write read) (a : α) : Spells read (write a) a := by
  obtain ⟨value, hvalue⟩ := h.hasValue a
  exact ⟨h.read_write a, value, hvalue, h.steady _ _ a hvalue (h.read_write a)⟩

/-- Different things are written differently. -/
lemma write_injective (h : Lawful write read) {a b : α} (hsame : write a = write b) : a = b := by
  have hread : read (write a) = some b := by rw [hsame, h.read_write]
  rw [h.read_write] at hread
  exact Option.some.inj hread

lemma string : Lawful Json.string string? where
  read_write _ := rfl
  hasValue s := ⟨.string s, by rw [settle?]⟩
  steady j k s hsettled hread := by
    cases j with
    | string s =>
      obtain rfl := Option.some.inj hsettled
      exact hread
    | _ => cases hread

lemma bool : Lawful Json.bool bool? where
  read_write _ := rfl
  hasValue b := ⟨.bool b, by rw [settle?]⟩
  steady j k b hsettled hread := by
    cases j with
    | bool b =>
      obtain rfl := Option.some.inj hsettled
      exact hread
    | _ => cases hread

lemma fields : Lawful Fields.toJson Fields.ofJson? where
  read_write := Fields.ofJson?_toJson
  hasValue fields := ⟨fields.toJson, fields.settled⟩
  steady j k fields hsettled hread := by
    obtain rfl : fields.toJson = k := by
      simpa [Fields.settle?_of_ofJson? hread] using hsettled
    exact Fields.ofJson?_toJson fields

lemma required (h : Lawful write read) : LawfulField write (·.required read) where
  read_write := h.read_write
  hasValue := h.hasValue
  steady slot slot' a hsettles hread := by
    cases hsettles with
    | given hvalue => exact h.steady _ _ a hvalue hread
    | omitted => cases hread
    | cutOff => cases hread

lemma defaulted (h : Lawful write read) (default : α) :
    LawfulField write (·.defaulted default read) where
  read_write := h.read_write
  hasValue := h.hasValue
  steady slot slot' a hsettles hread := by
    cases hsettles with
    | given hvalue => exact h.steady _ _ a hvalue hread
    | omitted => exact hread
    | cutOff => exact hread

lemma list? (h : Lawful write read) : Lawful (fun as => .array (as.map write)) (list? read) where
  read_write as := by
    induction as with
    | nil => rfl
    | cons a as ih =>
      have hrest : (as.map write).mapM read = some as := ih
      simp [Json.list?, h.read_write, hrest]
  hasValue as := by
    obtain ⟨items, hitems⟩ : ∃ items, settleItems? (as.map write) = some items := by
      induction as with
      | nil => exact ⟨[], rfl⟩
      | cons a as ih =>
        obtain ⟨value, hvalue⟩ := h.hasValue a
        obtain ⟨rest, hrest⟩ := ih
        exact ⟨value :: rest, by simp [settleItems?, hvalue, hrest]⟩
    exact ⟨.array items, by simp [settle?, hitems]⟩
  steady := Steady.list? h.steady

/-- A structure with two fields is written and read field by field. -/
lemma pair? {first second : String} {writeFirst : α → Json} {readFirst : Slot → Option α}
    {writeSecond : β → Json} {readSecond : Slot → Option β} {make : α → β → γ} {getFirst : γ → α}
    {getSecond : γ → β} (hnames : first ≠ second) (hfirst : LawfulField writeFirst readFirst)
    (hsecond : LawfulField writeSecond readSecond)
    (hmake : ∀ c, make (getFirst c) (getSecond c) = c) :
    Lawful
      (fun c => .object [(first, writeFirst (getFirst c)), (second, writeSecond (getSecond c))])
      (pair? first second readFirst readSecond make) where
  read_write c := by
    have hslots : slots? [first, second] (.object [(first, writeFirst (getFirst c)),
        (second, writeSecond (getSecond c))]) =
          some [.given (writeFirst (getFirst c)), .given (writeSecond (getSecond c))] := by
      simp [slots?, memberSlot?, hnames, hnames.symm]
    simp [Json.pair?, hslots, hfirst.read_write, hsecond.read_write, hmake]
  hasValue c := by
    obtain ⟨value, hvalue⟩ := hfirst.hasValue (getFirst c)
    obtain ⟨value', hvalue'⟩ := hsecond.hasValue (getSecond c)
    exact ⟨_, by simp [settle?, settleMembers?, hvalue, hvalue']; rfl⟩
  steady j k c hsettled hread := by
    obtain ⟨slots, hslots, hfields⟩ := Option.bind_eq_some_iff.mp hread
    obtain ⟨slots', hslots', hall⟩ := slots?_settle? hsettled hslots
    split at hfields
    · rename_i a b
      obtain _ | ⟨ha, _ | ⟨hb, ⟨⟩⟩⟩ := hall
      obtain ⟨x, hx, y, hy, rfl⟩ : ∃ x, readFirst a = some x ∧
          ∃ y, readSecond b = some y ∧ make x y = c := by
        simpa [Option.bind_eq_some_iff] using hfields
      simp [Json.pair?, hslots', hfirst.steady _ _ x ha hx, hsecond.steady _ _ y hb hy]
    · cases hfields

end Lawful

end CoinQuery.Json
