import QueueSupply.Config.Json
import QueueSupply.Proofs.Json.Reading

set_option autoImplicit false

namespace QueueSupply.Config

open Text
open Json (Written isSpace parse? parse?_eq_some_iff)

/-- The value is a literal of digits alone that is worth the size. -/
def IsSize (v : Json) (size : UInt64) : Prop :=
  ∃ n, v = .number n ∧ (∀ c ∈ n.literal, c.isDigit = true) ∧ numeralValue n.literal = size.toNat

/-- At most one member has the name, and its value is the size; the size is the given one if none
has. -/
structure Tells (members : List (List Char × Json)) (name : List Char) (missing size : UInt64) :
    Prop where
  once : (members.map Prod.fst).count name ≤ 1
  given : ∀ v, (name, v) ∈ members → IsSize v size
  absent : (∀ v, (name, v) ∉ members) → size = missing

def TellsAt (items : List Json) (place : Nat) (missing size : UInt64) : Prop :=
  match items[place]? with
  | none => size = missing
  | some v => IsSize v size

def objectOf (members : List (List Char × Json)) : Json :=
  .object (members.map fun (key, v) => (unitsOfText key, v))

def isSizeMember (member : List Char × Json) : Bool :=
  member.1 == xsMember || member.1 == smallMember

section Sizes

variable {members members' : List (List Char × Json)} {name : List Char} {missing size : UInt64}

theorem jsonSize?_eq_some_iff {v : Json} : jsonSize? v = some size ↔ IsSize v size := by
  unfold IsSize
  cases v with
  | number n =>
    have some_digit : n.literal ≠ [] := by
      intro nothing
      have literal := n.wellFormed
      rw [nothing] at literal
      exact absurd literal (by decide)
    simp [jsonSize?, Json.Number.size?, Text.readSize?_eq_some_iff, isNumeral_iff, some_digit]
  | null | bool | string | array | object => simp [jsonSize?]

theorem memberSize?_eq_some_iff :
    memberSize? name missing members = some size ↔ Tells members name missing size := by
  have count_eq : (members.map Prod.fst).count name =
      (members.filter fun (key, _) => key == name).length := by
    rw [List.count_eq_countP, List.countP_map, List.countP_eq_length_filter]
    rfl
  have mem_iff (v : Json) :
      (name, v) ∈ members ↔ (name, v) ∈ members.filter fun (key, _) => key == name := by
    simp
  have named : ∀ member ∈ members.filter fun (key, _) => key == name, member.1 = name := by
    simp
  unfold memberSize?
  constructor
  · intro read
    split at read
    · next nobody =>
      rw [nobody] at count_eq mem_iff
      exact ⟨by simp [count_eq], by simp [mem_iff], fun _ => (Option.some.inj read).symm⟩
    · next key v only =>
      rw [only] at count_eq mem_iff named
      obtain rfl : key = name := named _ List.mem_cons_self
      refine ⟨by simp [count_eq], ?_, fun absent => absurd ((mem_iff v).mpr (by simp)) (absent v)⟩
      intro w mem
      obtain rfl : w = v := by simpa [mem_iff] using mem
      exact jsonSize?_eq_some_iff.mp read
    · cases read
  · intro tells
    have once := tells.once
    rw [count_eq] at once
    split
    · next nobody =>
      rw [tells.absent fun v mem => by rw [mem_iff, nobody] at mem; cases mem]
    · next key v only =>
      rw [only] at mem_iff named
      obtain rfl : key = name := named _ List.mem_cons_self
      exact jsonSize?_eq_some_iff.mpr (tells.given v ((mem_iff v).mpr List.mem_cons_self))
    -- Two members of the name would count twice.
    · next no_nil no_single =>
      match found : members.filter fun (key, _) => key == name with
      | [] => exact absurd found no_nil
      | [(key, v)] => exact absurd found (no_single key v)
      | _ :: _ :: _ =>
        rw [found] at once
        simp at once

/-- What the members tell under the name of a size depends neither on their order nor on members of
other names. -/
theorem Tells.of_perm (same : (members.filter isSizeMember).Perm (members'.filter isSizeMember))
    (known : ∀ v, isSizeMember (name, v) = true) (tells : Tells members name missing size) :
    Tells members' name missing size := by
  have mem_iff (v : Json) : (name, v) ∈ members ↔ (name, v) ∈ members' := by
    have filtered := same.mem_iff (a := (name, v))
    simpa [known] using filtered
  have count_filter (list : List (List Char × Json)) :
      (list.map Prod.fst).count name = ((list.filter isSizeMember).map Prod.fst).count name := by
    simp only [List.count_eq_countP, List.countP_map, List.countP_filter]
    refine List.countP_congr fun member _ => ?_
    obtain ⟨key, v⟩ := member
    simp only [Function.comp_apply, beq_iff_eq, Bool.and_eq_true]
    constructor
    · rintro rfl
      exact ⟨rfl, known v⟩
    · exact And.left
  refine ⟨?_, fun v mem => tells.given v ((mem_iff v).mpr mem), fun absent => ?_⟩
  · have once := tells.once
    rw [count_filter] at once ⊢
    rwa [← (same.map Prod.fst).count_eq]
  · exact tells.absent fun v mem => absent v ((mem_iff v).mp mem)

end Sizes

section Values

variable {members members' : List (List Char × Json)} {items : List Json} {c : Config}

theorem textMembers?_eq_some_iff {units : List (List UInt16 × Json)} :
    textMembers? units = some members ↔
      units = members.map fun (key, v) => (unitsOfText key, v) := by
  unfold textMembers?
  induction units generalizing members with
  | nil => cases members <;> simp
  | cons unit units ih =>
    obtain ⟨key, v⟩ := unit
    simp only [List.mapM_cons, Option.bind_eq_bind, Option.bind_eq_some_iff, Option.map_eq_some_iff,
      textOfUnits?_eq_some_iff]
    constructor
    · rintro ⟨member, ⟨text, rfl, rfl⟩, others, rest, eq⟩
      obtain rfl := Option.some.inj eq
      rw [ih.mp rest]
      rfl
    · intro same
      cases members with
      | nil => cases same
      | cons member members =>
        obtain ⟨first, rest⟩ := List.cons.inj same
        obtain ⟨key_eq, v_eq⟩ := Prod.mk.inj first
        exact ⟨member, ⟨member.1, key_eq, by rw [v_eq]⟩, members, ih.mpr rest, rfl⟩

theorem ofJson?_objectOf_eq_some_iff : ofJson? (objectOf members) = some c ↔ ∃ xs small,
    Tells members xsMember 32 xs ∧ Tells members smallMember 256 small ∧ c = ofSizes xs small := by
  have xs_told (xs : UInt64) : memberSize? xsMember defaultXs members = some xs ↔
      Tells members xsMember 32 xs := memberSize?_eq_some_iff
  have small_told (small : UInt64) : memberSize? smallMember defaultSmall members = some small ↔
      Tells members smallMember 256 small := memberSize?_eq_some_iff
  simp only [objectOf, ofJson?, textMembers?_eq_some_iff.mpr rfl, Option.bind_some, ofMembers?,
    Option.bind_eq_bind, Option.bind_eq_some_iff, xs_told, small_told]
  constructor
  · rintro ⟨xs, told_xs, small, told_small, eq⟩
    exact ⟨xs, small, told_xs, told_small, (Option.some.inj eq).symm⟩
  · rintro ⟨xs, small, told_xs, told_small, rfl⟩
    exact ⟨xs, told_xs, small, told_small, rfl⟩

theorem ofJson?_array_eq_some_iff : ofJson? (.array items) = some c ↔ items.length ≤ 2 ∧
    ∃ xs small, TellsAt items 0 32 xs ∧ TellsAt items 1 256 small ∧ c = ofSizes xs small := by
  unfold TellsAt
  simp only [← jsonSize?_eq_some_iff, ofJson?]
  match items with
  | [] => simp [ofItems?, default, defaultXs, defaultSmall, eq_comm (a := c)]
  | [xs] => simp [ofItems?, defaultSmall, eq_comm (a := c)]
  | [xs, small] => simp [ofItems?, Option.bind_eq_some_iff, eq_comm (a := c)]
  | xs :: small :: third :: items => simp [ofItems?]

/-- Only objects whose keys are texts, and arrays, are configurations. -/
theorem exists_of_ofJson? {v : Json} (read : ofJson? v = some c) :
    (∃ members, v = objectOf members) ∨ ∃ items, v = .array items := by
  cases v with
  | object units =>
    obtain ⟨members, texts, -⟩ := Option.bind_eq_some_iff.mp read
    rw [textMembers?_eq_some_iff.mp texts]
    exact .inl ⟨members, rfl⟩
  | array items => exact .inr ⟨items, rfl⟩
  | null | bool | number | string => cases read

theorem ofJson?_objectOf_congr
    (same : (members.filter isSizeMember).Perm (members'.filter isSizeMember)) :
    ofJson? (objectOf members) = ofJson? (objectOf members') := by
  have known_xs (v : Json) : isSizeMember (xsMember, v) = true := by simp [isSizeMember]
  have known_small (v : Json) : isSizeMember (smallMember, v) = true := by simp [isSizeMember]
  refine Option.ext fun c => ?_
  rw [ofJson?_objectOf_eq_some_iff, ofJson?_objectOf_eq_some_iff]
  constructor
  · rintro ⟨xs, small, told_xs, told_small, rfl⟩
    exact ⟨xs, small, told_xs.of_perm same known_xs, told_small.of_perm same known_small, rfl⟩
  · rintro ⟨xs, small, told_xs, told_small, rfl⟩
    exact ⟨xs, small, told_xs.of_perm same.symm known_xs, told_small.of_perm same.symm known_small,
      rfl⟩

end Values

section Texts

variable {text : String} {v : Json}

theorem ofJsonText?_of_written (written : Written v text.toList) :
    ofJsonText? text = ofJson? v := by
  rw [ofJsonText?, parse?_eq_some_iff.mpr written, Option.bind_some]

/-- A text is refused if a value is followed by anything but blanks. -/
theorem ofJsonText?_append (written : Written v text.toList) {extra : String}
    (solid : ∃ c ∈ extra.toList, isSpace c = false) : ofJsonText? (text ++ extra) = none := by
  obtain ⟨c, mem, not_space⟩ := solid
  rw [ofJsonText?, String.toList_append]
  cases read : parse? (text.toList ++ extra.toList) with
  | none => rfl
  | some w =>
    by_cases number : ∃ n, v = .number n
    · obtain ⟨n, rfl⟩ := number
      obtain ⟨m, rfl⟩ := Json.number_of_parse?_append written read
      rfl
    · have other : ∀ n, v ≠ .number n := fun n eq => number ⟨n, eq⟩
      have blank := Json.blank_of_parse?_append written other read c mem
      rw [not_space] at blank
      cases blank

/-- An object text is a configuration exactly when each of the two names tells a size, and the
configuration is that of the two sizes, with 32 and 256 for names that are missing. So it is the
same for all orders of the members and whatever members of other names there are. An array text is
one exactly when it has at most two items and all are sizes. Other values are none, nor are texts
that write no value or more than one. -/
theorem documents_tell_sizes (text : String) :
    (∀ members, Written (objectOf members) text.toList →
      ∀ c, ofJsonText? text = some c ↔ ∃ xs small, Tells members xsMember 32 xs ∧
        Tells members smallMember 256 small ∧ c = ofSizes xs small) ∧
    (∀ members members' text', Written (objectOf members) text.toList →
      Written (objectOf members') text'.toList →
        (members.filter isSizeMember).Perm (members'.filter isSizeMember) →
          ofJsonText? text = ofJsonText? text') ∧
    (∀ items, Written (.array items) text.toList →
      ∀ c, ofJsonText? text = some c ↔ items.length ≤ 2 ∧ ∃ xs small, TellsAt items 0 32 xs ∧
        TellsAt items 1 256 small ∧ c = ofSizes xs small) ∧
    (∀ v, Written v text.toList → (∀ members, v ≠ objectOf members) → (∀ items, v ≠ .array items) →
      ofJsonText? text = none) ∧
    ((∀ v, ¬ Written v text.toList) → ofJsonText? text = none) ∧
    (∀ v extra, Written v text.toList → (∃ c ∈ extra.toList, isSpace c = false) →
      ofJsonText? (text ++ extra) = none) := by
  refine ⟨?_, ?_, ?_, ?_, ?_, ?_⟩
  · intro members written c
    rw [ofJsonText?_of_written written, ofJson?_objectOf_eq_some_iff]
  · intro members members' text' written written' same
    rw [ofJsonText?_of_written written, ofJsonText?_of_written written']
    exact ofJson?_objectOf_congr same
  · intro items written c
    rw [ofJsonText?_of_written written, ofJson?_array_eq_some_iff]
  · intro v written no_object no_array
    rw [ofJsonText?_of_written written, Option.eq_none_iff_forall_ne_some]
    intro c told
    obtain ⟨members, rfl⟩ | ⟨items, rfl⟩ := exists_of_ofJson? told
    · exact no_object members rfl
    · exact no_array items rfl
  · intro no_value
    have unread : parse? text.toList = none := by
      rw [Option.eq_none_iff_forall_ne_some]
      exact fun v read => no_value v (parse?_eq_some_iff.mp read)
    rw [ofJsonText?, unread, Option.bind_none]
  · intro v extra written solid
    exact ofJsonText?_append written solid

/-- A key counts as what it stands for, however it is escaped. -/
example : ofJsonText? "\x7b\"xs\\u005fbuffer_size\": 64, \"other\": [1e2]\x7d" =
    some (ofSizes 64 256) := by
  decide +kernel

end Texts

end QueueSupply.Config
