import QueueSupply.Concurrent.SlotMachine

set_option autoImplicit false

/-!
Calls on a queue with one slot while another party is in the middle of looking at it. That party
has entered before the first call and leaves when it is waited for, or else after the last call.
-/

namespace QueueSupply

namespace Race

inductive Action (E : Type)
  | len
  | look
  | take
  | clear
  | offer (e : E)
  | putNow (e : E)
  | describe

inductive Shown (E : Type)
  | number (n : Nat)
  | element (e : Option E)
  | accepted (b : Bool)
  | text (t : String)
  | nothing

/-- The reader that is in the middle of looking. -/
def slowReader : Nat := 0

/-- The reader that stands for this party's own looks. -/
def ownReader : Nat := 1

variable {E : Type}

open SlotMachine (Event)

def finishReading : List (Event E) := [.reader slowReader false, .reader slowReader false]

/-- The consumer sees the word once before the slow reader leaves and goes on after it has left. -/
def takeEvents : List (Event E) :=
  [.take, .consumer false] ++ finishReading ++ List.replicate 4 (.consumer false)

def lookEvents : List (Event E) := .look ownReader :: List.replicate 4 (.reader ownReader false)

def Action.events : Action E → List (Event E)
  | .len => [.measure]
  | .look => lookEvents
  | .take => takeEvents
  | .clear => takeEvents
  | .offer e => .insert .once e :: List.replicate 3 (.producer false)
  | .putNow e => .insert .untilDeadline e :: List.replicate 3 (.producer true)
  | .describe => []

def perform (m : SlotMachine E) (events : List (Event E)) : SlotMachine E :=
  Schedule.runPossible SlotMachine.step? m events

def lastInsertAccepted (m : SlotMachine E) : Bool :=
  match m.inserts.getLast? with
  | some (.ok ()) => true
  | _ => false

def Action.shown (m : SlotMachine E) : Action E → Shown E
  | .len => .number (Buffer.len m.queue)
  | .look => .element (m.looks.getLast?.bind fun (_, _, got) => got)
  | .take => .element (m.polls.getLast?.bind fun (_, got) => got)
  | .clear => .nothing
  | .offer _ => .accepted (lastInsertAccepted m)
  | .putNow _ => .accepted (lastInsertAccepted m)
  | .describe => .text (QueueSupply.describe m.queue)

def performAll (m : SlotMachine E) : List (Action E) → List (Shown E) × SlotMachine E
  | [] => ([], m)
  | a :: rest =>
    let now := perform m a.events
    let later := performAll now rest
    (a.shown now :: later.1, later.2)

end Race

structure Race (E : Type) where
  /-- What the slow reader saw. -/
  seen : Option E
  shown : List (Race.Shown E)
  len : Nat

namespace Race

variable {E : Type}

def start (held : E) : SlotMachine E :=
  perform (.start (SlotQueue.offer .empty held).2 2)
    [.look slowReader, .reader slowReader false, .reader slowReader false]

def run (held : E) (actions : List (Action E)) : Race E :=
  let after := performAll (start held) actions
  let done := perform after.2 finishReading
  { seen := (done.looks.lookup slowReader).bind fun (_, got) => got
    shown := after.1
    len := Buffer.len done.queue }

end Race

end QueueSupply
