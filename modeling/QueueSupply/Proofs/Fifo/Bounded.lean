import QueueSupply.Proofs.Fifo.Representation
import QueueSupply.Queue.Null
import QueueSupply.Queue.Ring
import QueueSupply.Queue.Slot
import QueueSupply.Queue.Waiting

set_option autoImplicit false

namespace QueueSupply

variable {E : Type}

theorem Fifo.offer_bounded (n : Nat) (xs : List E) (e : E) :
    (⟨some n, xs⟩ : Fifo E).offer e =
      if n ≤ xs.length then (.error (.full e), ⟨some n, xs⟩)
      else (.ok (), ⟨some n, xs ++ [e]⟩) := by
  have isFull : (⟨some n, xs⟩ : Fifo E).isFull = true ↔ n ≤ xs.length := by
    rw [Fifo.isFull_iff]
    constructor
    · rintro ⟨m, eq, le⟩
      obtain rfl := Option.some.inj eq
      exact le
    · intro le
      exact ⟨n, rfl, le⟩
  by_cases h : n ≤ xs.length
  · rw [Fifo.offer, if_pos (isFull.mpr h), if_pos h]
  · rw [Fifo.offer, if_neg (fun full => h (isFull.mp full)), if_neg h]
    rfl

namespace RingQueue

def Shows (q : RingQueue E) (l : Fifo E) : Prop := l = ⟨some q.capacity, q.contents⟩

theorem Shows.offer {q : RingQueue E} {l : Fifo E} (h : q.Shows l) (e : E) :
    Agree Shows (Buffer.offer q e) (l.offer e) := by
  obtain rfl := h
  change Agree Shows (q.offer e) _
  rw [Fifo.offer_bounded]
  by_cases full : q.capacity ≤ q.contents.length
  · rw [offer_of_full full, if_pos full]
    exact ⟨rfl, rfl⟩
  · rw [offer_of_room (Nat.not_le.mp full), if_neg full]
    exact ⟨rfl, rfl⟩

theorem follows : Follows (@Shows E) .plain where
  toList := by
    rintro q l rfl
    rfl
  len := by
    rintro q l rfl
    rfl
  capacityClass := by
    rintro q l rfl
    rfl
  remaining := by
    rintro q l _
    rfl
  offer h e := h.offer e
  poll := by
    rintro q l rfl
    exact ⟨rfl, rfl⟩
  peek := by
    rintro q l rfl
    exact ⟨rfl, rfl⟩
  clear := by
    rintro q l rfl
    rfl

theorem represents : Represents (@Shows E) .plain :=
  follows.represents (by constructor <;> intros <;> rfl) rfl rfl

theorem pollsIdly : PollsIdly (@Shows E) := by
  rintro ⟨capacity, contents⟩ l rfl none
  obtain rfl : contents = [] := none
  rfl

end RingQueue

namespace WaitingQueue

def Shows (q : WaitingQueue E) (l : Fifo E) : Prop := l = ⟨some q.capacity, q.contents⟩

theorem Shows.offer {q : WaitingQueue E} {l : Fifo E} (h : q.Shows l) (e : E) :
    Agree Shows (Buffer.offer q e) (l.offer e) := by
  obtain rfl := h
  change Agree Shows (q.offer e) _
  rw [Fifo.offer_bounded]
  by_cases full : q.capacity ≤ q.contents.length
  · rw [offer_of_full (decide_eq_true full), if_pos full]
    exact ⟨rfl, rfl⟩
  · rw [offer_of_room (Nat.not_le.mp full), if_neg full]
    exact ⟨rfl, rfl⟩

theorem follows : Follows (@Shows E) .waiting where
  toList := by
    rintro q l rfl
    rfl
  len := by
    rintro q l rfl
    rfl
  capacityClass := by
    rintro q l rfl
    rfl
  remaining := by
    rintro q l rfl
    rfl
  offer h e := h.offer e
  poll := by
    rintro q l rfl
    exact ⟨rfl, rfl⟩
  peek := by
    rintro q l rfl
    exact ⟨rfl, rfl⟩
  clear := by
    rintro q l rfl
    rfl

theorem represents : Represents (@Shows E) .waiting :=
  follows.represents (by constructor <;> intros <;> rfl) rfl rfl

theorem pollsIdly : PollsIdly (@Shows E) := by
  rintro ⟨capacity, contents⟩ l rfl none
  obtain rfl : contents = [] := none
  rfl

end WaitingQueue

namespace SlotQueue

/-- The queue that nobody is at work on. -/
def holding : Option E → SlotQueue E
  | none => empty
  | some e => ⟨fullWord, some e⟩

def Shows (q : SlotQueue E) (l : Fifo E) : Prop := ∃ o, q = holding o ∧ l = ⟨some 1, o.toList⟩

theorem Shows.offer {q : SlotQueue E} {l : Fifo E} (h : q.Shows l) (e : E) :
    Agree Shows (Buffer.offer q e) (l.offer e) := by
  obtain ⟨o, rfl, rfl⟩ := h
  rw [Fifo.offer_bounded]
  cases o with
  | none => exact ⟨rfl, some e, rfl, rfl⟩
  | some held => exact ⟨rfl, some held, rfl, rfl⟩

theorem Shows.poll {q : SlotQueue E} {l : Fifo E} (h : q.Shows l) :
    Agree Shows (Buffer.poll q) (l.items.head?, l.pop) := by
  obtain ⟨o, rfl, rfl⟩ := h
  cases o with
  | none => exact ⟨rfl, none, rfl, rfl⟩
  | some held => exact ⟨rfl, none, rfl, rfl⟩

theorem Shows.peek {q : SlotQueue E} {l : Fifo E} (h : q.Shows l) :
    Agree Shows (Buffer.peek q) (l.items.head?, l) := by
  obtain ⟨o, rfl, rfl⟩ := h
  cases o with
  | none => exact ⟨rfl, none, rfl, rfl⟩
  | some held => exact ⟨rfl, some held, rfl, rfl⟩

theorem fetch_eq (l : Fifo E) : Manner.slot.fetch l = .ok l.items.head? := by
  cases h : l.items <;> simp [Manner.fetch, Manner.slot, h]

theorem represents : Represents (@Shows E) .slot where
  toList := by
    rintro q l ⟨o, rfl, rfl⟩
    cases o <;> rfl
  len := by
    rintro q l ⟨o, rfl, rfl⟩
    cases o <;> rfl
  isEmpty := by
    rintro q l ⟨o, rfl, rfl⟩
    cases o <;> rfl
  capacityClass := by
    rintro q l ⟨o, rfl, rfl⟩
    rfl
  remaining := by
    rintro q l _
    rfl
  offer h e := h.offer e
  offerAll h es := ⟨rfl, h⟩
  poll h := h.poll
  peek h := h.peek
  element {q l} h := by
    rw [fetch_eq]
    exact h.peek.map Except.ok
  remove {q l} h := by
    rw [fetch_eq]
    exact h.poll.map Except.ok
  clear {q l} h := by
    have after := h.poll.2
    obtain ⟨o, rfl, rfl⟩ := h
    cases o <;> exact after

theorem pollsIdly : PollsIdly (@Shows E) := by
  rintro q l ⟨o, rfl, rfl⟩ none
  obtain rfl : o = .none := Option.toList_eq_nil_iff.mp none
  rfl

end SlotQueue

namespace NullQueue

def Shows (_ : NullQueue E) (l : Fifo E) : Prop := l = ⟨some 0, []⟩

theorem represents : Represents (@Shows E) .null where
  toList := by
    rintro q l rfl
    rfl
  len := by
    rintro q l rfl
    rfl
  isEmpty := by
    rintro q l rfl
    rfl
  capacityClass := by
    rintro q l rfl
    rfl
  remaining := by
    rintro q l _
    rfl
  offer := by
    rintro q l rfl e
    rw [Fifo.offer_bounded]
    exact ⟨rfl, rfl⟩
  offerAll h es := ⟨rfl, h⟩
  poll := by
    rintro q l rfl
    exact ⟨rfl, rfl⟩
  peek := by
    rintro q l rfl
    exact ⟨rfl, rfl⟩
  element := by
    rintro q l rfl
    exact ⟨rfl, rfl⟩
  remove := by
    rintro q l rfl
    exact ⟨rfl, rfl⟩
  clear := by
    rintro q l rfl
    rfl

theorem pollsIdly : PollsIdly (@Shows E) := fun _ _ => rfl

end NullQueue

def Call.asksRoom : Call E → Bool
  | .remaining => true
  | .capacity => true
  | _ => false

theorem Manner.run_waiting_eq (calls : List (Call E)) (quiet : ∀ c ∈ calls, c.asksRoom = false)
    (l : Fifo E) : Manner.waiting.run l calls = Manner.plain.run l calls := by
  induction calls generalizing l with
  | nil => rfl
  | cons c rest ih =>
    have same : Manner.waiting.answer l c = Manner.plain.answer l c := by
      have now := quiet c List.mem_cons_self
      cases c <;> first | rfl | cases now
    rw [Manner.run, Manner.run, same, ih fun d m => quiet d (List.mem_cons_of_mem _ m)]

/-- Whatever the calls, new bounded queues give the results of the list with their bound, each in
its manner. There is a ring of every capacity, and a waiting queue of every capacity for which the
buffer is not too large: then the two give the same to all calls but those that ask for the room
left. -/
theorem bounded_queues_answer_as_list (elementBytes n : Nat) :
    AnswersAs (RingQueue.ofCapacity n : RingQueue E) .plain (.fresh (some n)) ∧
      (n * elementBytes ≤ WaitingQueue.maxBufferBytes → ∃ q : WaitingQueue E,
        WaitingQueue.allocate? elementBytes n = some q ∧
          AnswersAs q .waiting (.fresh (some n)) ∧
          ∀ calls : List (Call E), (∀ c ∈ calls, c.asksRoom = false) →
            (Buffer.run q calls).1 = (Buffer.run (RingQueue.ofCapacity n : RingQueue E) calls).1) ∧
      (WaitingQueue.maxBufferBytes < n * elementBytes →
        (WaitingQueue.allocate? elementBytes n : Option (WaitingQueue E)) = none) ∧
      AnswersAs (SlotQueue.empty : SlotQueue E) .slot (.fresh (some 1)) ∧
      AnswersAs (⟨⟩ : NullQueue E) .null (.fresh (some 0)) := by
  have ring : AnswersAs (RingQueue.ofCapacity n : RingQueue E) .plain (.fresh (some n)) :=
    RingQueue.represents.answersAs rfl
  have waiting :
      AnswersAs (WaitingQueue.ofCapacity n : WaitingQueue E) .waiting (.fresh (some n)) :=
    WaitingQueue.represents.answersAs rfl
  refine ⟨ring, ?_, WaitingQueue.allocate?_eq_none_iff.mpr,
    SlotQueue.represents.answersAs ⟨none, rfl, rfl⟩, NullQueue.represents.answersAs rfl⟩
  intro fits
  refine ⟨.ofCapacity n, WaitingQueue.allocate?_of_fits fits, waiting, ?_⟩
  intro calls quiet
  rw [(waiting calls).1, Manner.run_waiting_eq calls quiet, (ring calls).1]

/-- The buffer for as many elements of eight bytes as a word counts is too large. -/
theorem largest_waiting_queue_missing :
    ¬ ∀ (n : UInt64) (calls : List (Call Int64)), (∀ c ∈ calls, c.asksRoom = false) →
      ∃ q : WaitingQueue Int64, WaitingQueue.allocate? 8 n.toNat = some q ∧
        (Buffer.run q calls).1 =
          (Buffer.run (RingQueue.ofCapacity n.toNat : RingQueue Int64) calls).1 := by
  intro agree
  obtain ⟨q, allocated, -⟩ := agree 18446744073709551615 [.offer 1] (by simp [Call.asksRoom])
  have missing :
      (WaitingQueue.allocate? 8 18446744073709551615 : Option (WaitingQueue Int64)) = none :=
    WaitingQueue.allocate?_eq_none_iff.mpr (by decide)
  cases missing.symm.trans allocated

end QueueSupply
