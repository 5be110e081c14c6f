import QueueSupply.Session.QueueStep
import QueueSupply.Supplier.Factory

set_option autoImplicit false

namespace QueueSupply

abbrev Registers (α : Type) := String → Option α

namespace Registers

variable {α : Type}

def none : Registers α := fun _ => .none

def set (r : Registers α) (name : String) (a : α) : Registers α :=
  fun n => if n = name then some a else r n

end Registers

inductive Route
  | supplierFor (requested : UInt64)
  | unboundedLinked (linkSize : UInt64)
  | unboundedMultiProducer
  | empty
  | one
  | xs
  | small
  | unbounded
  | kind (k : SupplierKind)
  | clone (name : String)

inductive Step (E : Type)
  | make (name : String) (q : AnyQueue E)
  | supplier (name : String) (route : Route)
  | get (supplier name : String)
  | factory
  | on (name : String) (s : QueueStep E)

inductive Answer (E : Type)
  /-- The reply of a step on a queue, with the queue's length and capacity after it. -/
  | queue (reply : Reply E) (len : Nat) (capacity : Int)
  | supplier (kind text : String) (calls : Option Nat)
  | factory (xs small : UInt64) (text : String) (calls : Option Nat)
  | unknownName (name : String)

structure Session (E : Type) where
  factory : Factory E
  calls : Nat
  suppliers : Registers (Supplier E)
  queues : Registers (AnyQueue E)

namespace Session

variable {E : Type}

def start (c : Config) (hook : Hook E) : Session E := ⟨.ofConfig c hook, 0, .none, .none⟩

def shownCalls (s : Session E) : Option Nat := s.factory.hook.shownCalls s.calls

def supplierBy? (s : Session E) : Route → Option (Supplier E)
  | .supplierFor requested => some (s.factory.supplierFor requested)
  | .unboundedLinked linkSize => some (s.factory.unboundedLinked linkSize)
  | .unboundedMultiProducer => some s.factory.unboundedMultiProducer
  | .empty => some s.factory.empty
  | .one => some s.factory.one
  | .xs => some s.factory.xs
  | .small => some s.factory.small
  | .unbounded => some s.factory.unbounded
  | .kind k => some (s.factory.supplier k)
  | .clone name => s.suppliers name

def store (s : Session E) (name : String) (r : Reply E × AnyQueue E) : Answer E × Session E :=
  (.queue r.1 (Buffer.len r.2) (Buffer.capacity r.2), { s with queues := s.queues.set name r.2 })

variable [DecidableEq E] [Ordered E]

def step (s : Session E) : Step E → Answer E × Session E
  | .make name q => s.store name (.result .cleared, q)
  | .supplier name route =>
    match s.supplierBy? route with
    | none => (.unknownName name, s)
    | some supplier =>
      (.supplier (describe supplier.kind) (describe supplier) s.shownCalls,
        { s with suppliers := s.suppliers.set name supplier })
  | .get supplier name =>
    match s.suppliers supplier with
    | none => (.unknownName supplier, s)
    | some supplier =>
      let built := supplier.get s.calls
      let s := { s with calls := built.2 }
      s.store name (.built s.shownCalls, built.1)
  | .factory =>
    (.factory s.factory.config.xs s.factory.config.small (describe s.factory) s.shownCalls, s)
  | .on name q =>
    match s.queues name with
    | none => (.unknownName name, s)
    | some queue => s.store name (q.perform queue)

def run (s : Session E) : List (Step E) → List (Answer E) × Session E
  | [] => ([], s)
  | x :: rest =>
    let now := s.step x
    let later := run now.2 rest
    (now.1 :: later.1, later.2)

end Session

end QueueSupply
