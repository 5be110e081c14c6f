import QueueSupply.Buffer.Call
import QueueSupply.Concurrent.Offers
import QueueSupply.Concurrent.Transfer
import QueueSupply.Queue.Any
import QueueSupply.Text.Ordered

set_option autoImplicit false

namespace QueueSupply

inductive QueueStep (E : Type)
  | call (c : Call E)
  /-- Offers all the elements, also after one has been turned down. -/
  | fill (es : List E)
  /-- Polls up to `n` times, until nothing comes. -/
  | pollSome (n : Nat)
  | info
  | drainSorted
  /-- Calls made through one draining sequence. -/
  | iterate (calls : List (Call E))
  | contains (e : E)
  | describe
  /-- The elements of a queue that holds none, counted three times. -/
  | countElements
  | bound
  | links
  | put (e : E) (wait : Option Timeout)
  | take (wait : Option Timeout)
  /-- A second party puts while this one makes room. -/
  | putWhile (e : E) (wait : Option Timeout) (other : QueueStep E)
  /-- A second party takes while this one inserts. -/
  | takeWhile (wait : Option Timeout) (other : QueueStep E)
  | transfer (es : List E)
  | offerFromMany (lists : List (List E))

inductive Reply (E : Type)
  | result (r : Result E)
  | filled (accepted : Nat) (firstError : Option (QueueError E))
  | info (isEmpty nonEmpty : Bool) (bound : CapacityClass) (remaining : Option Nat)
  | results (rs : List (Result E))
  | texts (ts : List String)
  | counts (ns : List Nat)
  | bound (n : Nat)
  | links (linkSize linkCount : Nat)
  | both (own other : Reply E)
  | rejected (n : Nat)
  | built (calls : Option Nat)
  /-- The call waits for ever. -/
  | waiting
  /-- The queue has no such call. -/
  | unanswered

namespace AnyQueue

variable {E : Type}

def fill (q : AnyQueue E) : List E → (Nat × Option (QueueError E)) × AnyQueue E
  | [] => ((0, none), q)
  | e :: rest =>
    match Buffer.offer q e with
    | (.ok (), q) =>
      let r := fill q rest
      ((r.1.1 + 1, r.1.2), r.2)
    | (.error err, q) =>
      let r := fill q rest
      ((r.1.1, some err), r.2)

/-- What a call that may wait for ever answers, and the queue after it. -/
def settle {α : Type} (q : AnyQueue E) (reply : α → Result E) (outcome : Option (α × AnyQueue E)) :
    Reply E × AnyQueue E :=
  match outcome with
  | none => (.waiting, q)
  | some (a, q) => (.result (reply a), q)

def put (q : AnyQueue E) (e : E) (wait : Option Timeout) : Reply E × AnyQueue E :=
  match q, wait with
  | .slot s, none => settle q .inserted ((s.put? e).map fun s => (.ok (), .slot s))
  | .slot s, some t => settle q .inserted ((s.putWithin? e t).map (Prod.map id .slot))
  | .waiting w, none => settle q .inserted ((w.put? e).map fun w => (.ok (), .waiting w))
  | .waiting w, some t => settle q .inserted ((w.putWithin? e t).map (Prod.map id .waiting))
  | q, _ => (.unanswered, q)

def take (q : AnyQueue E) (wait : Option Timeout) : Reply E × AnyQueue E :=
  match q, wait with
  | .waiting w, none => settle q .option (w.take?.map fun (e, w) => (some e, .waiting w))
  | .waiting w, some t => settle q .option ((w.takeWithin? t).map (Prod.map id .waiting))
  | q, _ => (.unanswered, q)

def contains [DecidableEq E] (q : AnyQueue E) (e : E) : Reply E × AnyQueue E :=
  match q with
  | .null n => (.result (.flag (n.contains e)), q)
  | .slot s => Prod.map (fun found => .result (.flag found)) .slot (s.contains e)
  | q => (.unanswered, q)

def describe (q : AnyQueue E) : Reply E :=
  let both (text : String) : Reply E :=
    .texts [text, describeRecord "PollIter" [("queue", text)]]
  match q with
  | .null n => both (Describe.describe n)
  | .slot s => both (Describe.describe s)
  | _ => .unanswered

def countElements : AnyQueue E → Reply E
  | .null n => .counts [n.elements.length, n.elements.length, n.elements.length]
  | _ => .unanswered

def bound : AnyQueue E → Reply E
  | .ring r => .bound r.capacity
  | _ => .unanswered

def links : AnyQueue E → Reply E
  | .chain c => .links c.linkSize c.links.length
  | _ => .unanswered

end AnyQueue

namespace QueueStep

variable {E : Type} [DecidableEq E] [Ordered E]

/-- The reply, and the queue after the step. What waits for the other party comes after it. -/
def perform (q : AnyQueue E) : QueueStep E → Reply E × AnyQueue E
  | .call c => Prod.map .result id (Buffer.call q c)
  | .fill es => Prod.map (fun (accepted, error) => .filled accepted error) id (q.fill es)
  | .pollSome n =>
    Prod.map (fun es => .result (.items es)) id (pollUpTo Buffer.poll n q)
  | .info =>
    (.info (Buffer.isEmpty q) (Buffer.nonEmpty q) (Buffer.capacityClass q) (Buffer.remaining q), q)
  | .drainSorted => Prod.map (fun es => .result (.items (Ordered.sort es))) id (Buffer.drain q)
  | .iterate calls => Prod.map .results id (Buffer.run q calls)
  | .contains e => q.contains e
  | .describe => (q.describe, q)
  | .countElements => (q.countElements, q)
  | .bound => (q.bound, q)
  | .links => (q.links, q)
  | .put e wait => q.put e wait
  | .take wait => q.take wait
  | .putWhile e wait other =>
    let first := perform q other
    let own := first.2.put e wait
    (.both own.1 first.1, own.2)
  | .takeWhile wait other =>
    let first := perform q other
    let own := first.2.take wait
    (.both own.1 first.1, own.2)
  | .transfer es =>
    let t := Transfer.complete q es q.refusals
    (.result (.items t.received), t.queue)
  | .offerFromMany lists =>
    let o := Offers.complete q lists
    (.rejected o.rejectedCount, o.queue)

end QueueStep

end QueueSupply
