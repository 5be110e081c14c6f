import QueueSupply.Buffer.Drain

set_option autoImplicit false

namespace QueueSupply

structure Transfer (Q E : Type) where
  queue : Q
  pending : List E
  received : List E

namespace Transfer

variable {Q E : Type} [Buffer Q E]

inductive Turn
  | producer
  | consumer
  deriving DecidableEq

def start (q : Q) (values : List E) : Transfer Q E := ⟨q, values, []⟩

def step (t : Transfer Q E) : Turn → Transfer Q E
  | .producer =>
    match t.pending with
    | [] => t
    | e :: rest =>
      match Buffer.offer t.queue e with
      | (.ok (), q) => { t with queue := q, pending := rest }
      | (.error err, q) => { t with queue := q, pending := err.handedBack ++ rest }
  | .consumer =>
    match Buffer.poll t.queue with
    | (some e, q) => { t with queue := q, received := t.received ++ [e] }
    | (none, q) => { t with queue := q }

def run (t : Transfer Q E) (schedule : List Turn) : Transfer Q E := schedule.foldl step t

/-- Rounds in which first the producer has a turn, then the consumer as long as fewer than `due`
elements have arrived. -/
def rounds (due : Nat) : Nat → Transfer Q E → Transfer Q E
  | 0, t => t
  | n + 1, t =>
    let t := t.step .producer
    rounds due n (if t.received.length < due then t.step .consumer else t)

theorem rounds_eq_run (due n : Nat) (t : Transfer Q E) : ∃ turns, rounds due n t = t.run turns := by
  induction n generalizing t with
  | zero => exact ⟨[], rfl⟩
  | succ n ih =>
    by_cases h : (t.step .producer).received.length < due
    · obtain ⟨turns, eq⟩ := ih ((t.step .producer).step .consumer)
      exact ⟨.producer :: .consumer :: turns, by simpa [rounds, run, h] using eq⟩
    · obtain ⟨turns, eq⟩ := ih (t.step .producer)
      exact ⟨.producer :: turns, by simpa [rounds, run, h] using eq⟩

/-- The transfer of the values through the queue, until all that there is has been received. The
queue turns down at most `refusals` offers while it has room; in every other round either an element
arrives or only values past the due number are left to insert. -/
def complete (q : Q) (values : List E) (refusals : Nat) : Transfer Q E :=
  let due := Buffer.len q + values.length
  rounds due (due + refusals) (start q values)

end Transfer

end QueueSupply
