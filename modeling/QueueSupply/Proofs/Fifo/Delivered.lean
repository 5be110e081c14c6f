import QueueSupply.Proofs.Fifo.Types
import QueueSupply.Supplier.Factory

set_option autoImplicit false

namespace QueueSupply

variable {E : Type}

def boundFor (c : Config) (requested : UInt64) : Option Nat :=
  if requested = 0 then some 0
  else if requested = 1 then some 1
  else if requested ≤ 10000000 then some (max 8 requested.toNat)
  else if requested ≠ 18446744073709551615 ∧ (requested = c.xs ∨ requested = c.small) then
    some requested.toNat
  else none

def delivered (c : Config) (requested : UInt64) (hookRuns : Nat) : AnyQueue E :=
  (((Factory.ofConfig c .identity).supplierFor requested).get hookRuns).1

theorem delivered_eq_build (c : Config) (requested : UInt64) (hookRuns : Nat) :
    delivered c requested hookRuns =
      (((SupplierTable.ofConfig c).resolve requested).build c : AnyQueue E) := rfl

theorem le_boundFor {c : Config} {requested : UInt64} {n : Nat}
    (h : boundFor c requested = some n) : requested.toNat ≤ n := by
  unfold boundFor at h
  split at h
  · next zero =>
    subst zero
    exact Nat.zero_le n
  split at h
  · next one =>
    subst one
    exact Nat.le_of_eq (Option.some.inj h)
  split at h
  · have := Option.some.inj h
    omega
  split at h
  · exact Nat.le_of_eq (Option.some.inj h)
  · cases h

/-- Requests for a bounded queue up to the limit, and the request for a queue without bound, mean
the same under every configuration. -/
theorem boundFor_eq_boundFor {requested : UInt64}
    (h : requested ≤ 10000000 ∨ requested = 18446744073709551615) (c d : Config) :
    boundFor c requested = boundFor d requested := by
  unfold boundFor
  rcases h with h | rfl
  · simp only [h, if_true]
  · rfl

theorem Config.eight_le_of_configured {c : Config} {size : UInt64}
    (h : size = c.xs ∨ size = c.small) : 8 ≤ size.toNat := by
  have xs_ge : 8 ≤ c.xs.toNat := UInt64.le_iff_toNat_le.mp c.minXs_le
  have small_ge : 16 ≤ c.small.toNat := UInt64.le_iff_toNat_le.mp c.minSmall_le
  rcases h with rfl | rfl
  · exact xs_ge
  · omega

theorem Config.toNat_atLeast (minimum size : UInt64) :
    (atLeast minimum size).toNat = max minimum.toNat size.toNat := by
  unfold atLeast
  split
  · next h =>
    have := UInt64.lt_iff_toNat_lt.mp h
    omega
  · next h =>
    have := UInt64.le_iff_toNat_le.mp (UInt64.not_lt.mp h)
    omega

theorem boundFor_of_configured {c : Config} {requested : UInt64}
    (bounded : requested ≠ 18446744073709551615) (h : requested = c.xs ∨ requested = c.small) :
    boundFor c requested = some requested.toNat := by
  have large := Config.eight_le_of_configured h
  have zero : requested ≠ 0 := by
    rintro rfl
    exact absurd large (by decide)
  have one : requested ≠ 1 := by
    rintro rfl
    exact absurd large (by decide)
  rw [boundFor, if_neg zero, if_neg one, Nat.max_eq_right large]
  split
  · rfl
  · exact if_pos ⟨bounded, h⟩

/-- A configured size is met as it is, since it is neither 0 nor 1. -/
theorem delivered_of_configured {c : Config} {requested : UInt64}
    (bounded : requested ≠ SupplierTable.unboundedRequest)
    (h : requested = c.xs ∨ requested = c.small) (hookRuns : Nat) :
    delivered c requested hookRuns = (.ring (.ofCapacity requested.toNat) : AnyQueue E) := by
  rw [delivered_eq_build, SupplierTable.resolve, if_neg bounded]
  simp only [SupplierTable.ofConfig]
  by_cases xs : requested = c.xs
  · rw [if_pos xs, xs]
    rfl
  · have small := h.resolve_left xs
    rw [if_neg xs, if_pos small, small]
    rfl

theorem SupplierTable.maxBounded_lt_iff (requested : UInt64) :
    maxBounded < Config.atLeast minBounded requested ↔ 10000000 < requested.toNat := by
  have adjusted := Config.toNat_atLeast minBounded requested
  have eight : minBounded.toNat = 8 := rfl
  have limit : maxBounded.toNat = 10000000 := rfl
  rw [UInt64.lt_iff_toNat_lt]
  omega

/-- The queue is the null queue or the slot for the requests 0 and 1, else a ring or a chain. -/
theorem delivered_cases (c : Config) (requested : UInt64) (hookRuns : Nat) :
    (requested = 0 ∧ boundFor c requested = some 0 ∧
        delivered c requested hookRuns = (.null ⟨⟩ : AnyQueue E)) ∨
      (requested = 1 ∧ boundFor c requested = some 1 ∧
        delivered c requested hookRuns = (.slot .empty : AnyQueue E)) ∨
      (requested ≠ 0 ∧ requested ≠ 1 ∧ ∃ n, boundFor c requested = some n ∧
        delivered c requested hookRuns = (.ring (.ofCapacity n) : AnyQueue E)) ∨
      (requested ≠ 0 ∧ requested ≠ 1 ∧ boundFor c requested = none ∧
        ∃ size, delivered c requested hookRuns = (.chain (.ofLinkSize size) : AnyQueue E)) := by
  by_cases top : requested = SupplierTable.unboundedRequest
  · subst top
    exact .inr (.inr (.inr ⟨by decide, by decide, rfl, c.small, rfl⟩))
  by_cases configured : requested = c.xs ∨ requested = c.small
  · have large := Config.eight_le_of_configured configured
    refine .inr (.inr (.inl ⟨?_, ?_, requested.toNat, boundFor_of_configured top configured,
      delivered_of_configured top configured hookRuns⟩))
    · rintro rfl
      exact absurd large (by decide)
    · rintro rfl
      exact absurd large (by decide)
  -- From here on the table of special sizes decides, and then the limit.
  obtain ⟨xs, small⟩ := not_or.mp configured
  rw [delivered_eq_build, SupplierTable.resolve, if_neg top]
  simp only [SupplierTable.ofConfig]
  rw [if_neg xs, if_neg small]
  by_cases one : requested = 1
  · subst one
    exact .inr (.inl ⟨rfl, rfl, rfl⟩)
  by_cases zero : requested = 0
  · subst zero
    exact .inl ⟨rfl, rfl, rfl⟩
  rw [if_neg one, if_neg zero, boundFor, if_neg zero, if_neg one]
  have limit := SupplierTable.maxBounded_lt_iff requested
  by_cases fits : requested ≤ 10000000
  · have within := mt limit.mp (Nat.not_lt.mpr (UInt64.le_iff_toNat_le.mp fits))
    refine .inr (.inr (.inl ⟨zero, one, max 8 requested.toNat, if_pos fits, ?_⟩))
    simp only [if_neg within, SupplierKind.build, Config.toNat_atLeast]
    rfl
  · have beyond := limit.mpr (UInt64.lt_iff_toNat_lt.mp (UInt64.not_le.mp fits))
    refine .inr (.inr (.inr ⟨zero, one, ?_, c.small, ?_⟩))
    · rw [if_neg fits, if_neg fun h => configured h.2]
    · simp only [if_pos beyond, SupplierKind.build]

def mannerFor (requested : UInt64) : Manner :=
  if requested = 0 then .null else if requested = 1 then .slot else .plain

theorem mannerFor_tellsRoom (requested : UInt64) : (mannerFor requested).tellsRoom = false := by
  unfold mannerFor
  split
  · rfl
  split <;> rfl

theorem delivered_represented (c : Config) (requested : UInt64) (hookRuns : Nat) :
    ∃ R : AnyQueue E → Fifo E → Prop, Represents R (mannerFor requested) ∧
      R (delivered c requested hookRuns) (.fresh (boundFor c requested)) := by
  rcases delivered_cases c requested hookRuns with
    ⟨rfl, bound, built⟩ | ⟨rfl, bound, built⟩ | ⟨zero, one, n, bound, built⟩ |
      ⟨zero, one, bound, size, built⟩
  · rw [bound, built]
    exact QueueType.null.represented
  · rw [bound, built]
    exact QueueType.slot.represented
  · rw [bound, built, mannerFor, if_neg zero, if_neg one]
    exact (QueueType.ring n).represented
  · rw [bound, built, mannerFor, if_neg zero, if_neg one]
    exact (QueueType.chain size).represented

/-- The calls that no manner answers but as the list does, unless it tells the room left. -/
def Call.isCommon : Call E → Bool
  | .offerAll _ => false
  | .element => false
  | .remove => false
  | _ => true

theorem Manner.answer_of_isCommon {m : Manner} (quiet : m.tellsRoom = false) {c : Call E}
    (common : c.isCommon = true) (l : Fifo E) : m.answer l c = plain.answer l c := by
  cases c with
  | offerAll es => cases common
  | element => cases common
  | remove => cases common
  | remaining => simp [answer, remaining, quiet, plain]
  | capacity => simp [answer, capacity, quiet, plain]
  | _ => rfl

theorem Manner.run_of_isCommon {m : Manner} (quiet : m.tellsRoom = false) (calls : List (Call E))
    (common : ∀ c ∈ calls, c.isCommon = true) (l : Fifo E) : m.run l calls = plain.run l calls := by
  induction calls generalizing l with
  | nil => rfl
  | cons c rest ih =>
    have now := answer_of_isCommon quiet (common c List.mem_cons_self) l
    rw [run, run, now, ih fun d mem => common d (List.mem_cons_of_mem _ mem)]

theorem Fifo.isFull_eq_false {l : Fifo E} (h : ∀ n, l.bound = some n → l.items.length < n) :
    l.isFull = false := by
  rw [Bool.eq_false_iff]
  intro full
  obtain ⟨n, bound, le⟩ := l.isFull_iff.mp full
  exact absurd (h n bound) (Nat.not_lt.mpr le)

/-- The queue delivered for a request answers as the list with the bound that the request stands
for. In every state it reports that bound, and it takes in an element as long as fewer than
requested are held. Up to the limit, and for the request without bound, no calls tell two
configurations apart. -/
theorem delivered_queue_answers_as_list (c : Config) (requested : UInt64) (hookRuns : Nat) :
    (∀ calls : List (Call E), (∀ k ∈ calls, k.isCommon = true) →
        (Buffer.run (delivered c requested hookRuns) calls).1 =
          (Manner.plain.run (.fresh (boundFor c requested)) calls).1) ∧
      (∀ calls : List (Call E),
        Buffer.capacity (Buffer.run (delivered c requested hookRuns) calls).2 =
          Fifo.reported (boundFor c requested)) ∧
      (∀ (calls : List (Call E)) (e : E),
        Buffer.len (Buffer.run (delivered c requested hookRuns) calls).2 < requested.toNat →
          (Buffer.offer (Buffer.run (delivered c requested hookRuns) calls).2 e).1 = .ok ()) ∧
      (requested ≤ 10000000 ∨ requested = 18446744073709551615 →
        ∀ (d : Config) (calls : List (Call E)),
          (Buffer.run (delivered d requested hookRuns) calls).1 =
            (Buffer.run (delivered c requested hookRuns) calls).1) := by
  obtain ⟨R, rep, start⟩ := delivered_represented (E := E) c requested hookRuns
  have quiet := mannerFor_tellsRoom requested
  refine ⟨?_, ?_, ?_, ?_⟩
  · intro calls common
    rw [(rep.run start calls).1, Manner.run_of_isCommon quiet calls common]
  · intro calls
    rw [rep.capacity (rep.run start calls).2, Manner.capacity, quiet, Manner.run_bound]
    rfl
  · intro calls e short
    have after := (rep.run start calls).2
    rw [rep.len after] at short
    have room :
        ((mannerFor requested).run (.fresh (boundFor c requested)) calls).2.isFull = false := by
      refine Fifo.isFull_eq_false fun n bound => ?_
      rw [Manner.run_bound] at bound
      have := le_boundFor bound
      omega
    rw [(rep.offer after e).1, Fifo.offer, room]
    rfl
  · intro any d calls
    obtain ⟨S, rep', start'⟩ := delivered_represented (E := E) d requested hookRuns
    rw [boundFor_eq_boundFor any d c] at start'
    rw [(rep'.run start' calls).1, (rep.run start calls).1]

end QueueSupply
