import QueueSupply.Proofs.Config.Documents
import QueueSupply.Proofs.Json.Writing

set_option autoImplicit false

namespace QueueSupply.Config

theorem atLeast_of_le {minimum size : UInt64} (le : minimum ≤ size) : atLeast minimum size = size :=
  if_neg (UInt64.not_lt.mpr le)

/-- Raising the sizes of a configuration to the minimums changes nothing. -/
@[simp] theorem ofSizes_self (c : Config) : ofSizes c.xs c.small = c := by
  obtain ⟨xs, small, xs_enough, small_enough⟩ := c
  simp only [ofSizes, atLeast_of_le xs_enough, atLeast_of_le small_enough]

def members (c : Config) : List (List Char × Json) :=
  [(xsMember, .number (.ofNat c.xs.toNat)), (smallMember, .number (.ofNat c.small.toNat))]

theorem toJson_eq_objectOf (c : Config) : c.toJson = objectOf c.members := rfl

theorem isSize_ofNat (size : UInt64) : IsSize (.number (.ofNat size.toNat)) size :=
  jsonSize?_eq_some_iff.mp (Json.Number.size?_ofNat size)

/-- One of two members of different names tells its size. -/
theorem tells_of_pair {name other : List Char} (differ : name ≠ other) {v w : Json}
    {missing size : UInt64} (worth : IsSize v size) {members : List (List Char × Json)}
    (pair : members.Perm [(name, v), (other, w)]) : Tells members name missing size := by
  have mem_iff (u : Json) : (name, u) ∈ members ↔ u = v := by
    rw [pair.mem_iff]
    simp [differ]
  refine ⟨?_, ?_, ?_⟩
  · rw [(pair.map Prod.fst).count_eq]
    simp [differ.symm]
  · intro u mem
    rw [(mem_iff u).mp mem]
    exact worth
  · intro absent
    exact absurd ((mem_iff v).mpr rfl) (absent v)

theorem ofJson?_toJson (c : Config) : ofJson? c.toJson = some c := by
  have differ : xsMember ≠ smallMember := by decide
  rw [toJson_eq_objectOf, ofJson?_objectOf_eq_some_iff]
  refine ⟨c.xs, c.small, ?_, ?_, (ofSizes_self c).symm⟩
  · exact tells_of_pair differ (isSize_ofNat c.xs) (.refl _)
  · exact tells_of_pair differ.symm (isSize_ofNat c.small) (.swap _ _ _)

theorem toList_jsonText (c : Config) : c.jsonText.toList = c.toJson.compact :=
  String.toList_ofList

theorem ofJsonText?_jsonText (c : Config) : ofJsonText? c.jsonText = some c := by
  rw [ofJsonText?, toList_jsonText, Json.parse?_compact, Option.bind_some, ofJson?_toJson]

/-- The text of a configuration writes the object of its two sizes. It is read back as this
configuration, and no other configuration has the same text. So a text that is read as a
configuration, whatever its sizes are raised to, may be replaced by the configuration's own. -/
theorem json_text_read_back (c : Config) :
    Json.Written (objectOf c.members) c.jsonText.toList ∧
      ofJsonText? c.jsonText = some c ∧
      (∀ d : Config, d.jsonText = c.jsonText → d = c) ∧
      (∀ text, ofJsonText? text = some c → ofJsonText? c.jsonText = ofJsonText? text) ∧
      ofSizes c.xs c.small = c := by
  refine ⟨?_, ofJsonText?_jsonText c, ?_, ?_, ofSizes_self c⟩
  · rw [toList_jsonText, toJson_eq_objectOf]
    exact Json.written_compact _
  · intro d same
    have read := ofJsonText?_jsonText d
    rw [same, ofJsonText?_jsonText c] at read
    exact (Option.some.inj read).symm
  · intro text read
    rw [read, ofJsonText?_jsonText]

example : (ofSizes 2 128).jsonText = "\x7b\"xs_buffer_size\":8,\"small_buffer_size\":128\x7d" := by
  decide +kernel

end QueueSupply.Config
