import QueueSupply.Buffer.Basic

set_option autoImplicit false

namespace QueueSupply.Buffer

variable {Q E : Type} [Buffer Q E]

def next (q : Q) : Option E × Q := if isEmpty q then (none, q) else poll q

theorem next_of_isEmpty {q : Q} (h : isEmpty q = true) : next q = (none, q) := if_pos h

theorem next_of_not_isEmpty {q : Q} (h : isEmpty q = false) : next q = poll q := by
  simp [next, h]

def drain (q : Q) : List E × Q := pollUpTo next ((toList q).length + 1) q

def count (q : Q) : Nat × Q := Prod.map List.length id (drain q)

/-- The steps from the one queue yield the elements, one each, and then nothing, which leaves the
other queue. -/
inductive Drains : Q → List E → Q → Prop
  | ended {q q' : Q} (nothing : next q = (none, q')) : Drains q [] q'
  | yields {q q' q'' : Q} {e : E} {es : List E} (first : next q = (some e, q'))
      (rest : Drains q' es q'') : Drains q (e :: es) q''

theorem Drains.pollUpTo_eq {q q' : Q} {es : List E} (drains : Drains q es q') :
    ∀ {limit : Nat}, es.length < limit → pollUpTo next limit q = (es, q') := by
  induction drains with
  | ended nothing =>
    intro limit enough
    obtain ⟨n, rfl⟩ := Nat.exists_eq_add_one.mpr enough
    rw [pollUpTo, nothing]
  | @yields q q' q'' e es first _ ih =>
    intro limit enough
    obtain ⟨n, rfl⟩ := Nat.exists_eq_add_one.mpr (Nat.zero_lt_of_lt enough)
    rw [pollUpTo, first]
    simp only [ih (Nat.lt_of_succ_lt_succ enough)]

end QueueSupply.Buffer
