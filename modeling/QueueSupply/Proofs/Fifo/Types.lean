import QueueSupply.Proofs.Fifo.Bounded
import QueueSupply.Proofs.Fifo.Unbounded
import QueueSupply.Queue.Any

set_option autoImplicit false

namespace QueueSupply

variable {E : Type}

section Embedding

variable {Q R : Type} [Buffer Q E] [Buffer R E]

/-- The methods of one queue type are those of another, under `f`. -/
structure Embeds (f : Q → R) : Prop where
  toList (q : Q) : Buffer.toList (f q) = Buffer.toList q
  len (q : Q) : Buffer.len (f q) = Buffer.len q
  isEmpty (q : Q) : Buffer.isEmpty (f q) = Buffer.isEmpty q
  capacityClass (q : Q) : Buffer.capacityClass (f q) = Buffer.capacityClass q
  remaining (q : Q) : Buffer.remaining (f q) = Buffer.remaining q
  offer (q : Q) (e : E) : Buffer.offer (f q) e = Prod.map id f (Buffer.offer q e)
  offerAll (q : Q) (es : List E) : Buffer.offerAll (f q) es = Prod.map id f (Buffer.offerAll q es)
  poll (q : Q) : Buffer.poll (f q) = Prod.map id f (Buffer.poll q)
  peek (q : Q) : Buffer.peek (f q) = Prod.map id f (Buffer.peek q)
  element (q : Q) : Buffer.element (f q) = Prod.map id f (Buffer.element q)
  remove (q : Q) : Buffer.remove (f q) = Prod.map id f (Buffer.remove q)
  clear (q : Q) : Buffer.clear (f q) = f (Buffer.clear q)

def Within (f : Q → R) (S : Q → Fifo E → Prop) (q : R) (l : Fifo E) : Prop :=
  ∃ inner, q = f inner ∧ S inner l

omit [Buffer Q E] [Buffer R E] in
theorem Agree.within {α : Type} {S : Q → Fifo E → Prop} {x : α × Q} {y : α × Fifo E} (f : Q → R)
    (h : Agree S x y) : Agree (Within f S) (Prod.map id f x) y :=
  ⟨h.1, x.2, rfl, h.2⟩

theorem Represents.within {S : Q → Fifo E → Prop} {m : Manner} {f : Q → R}
    (rep : Represents S m) (emb : Embeds f) : Represents (Within f S) m where
  toList := by
    rintro _ l ⟨q, rfl, h⟩
    rw [emb.toList, rep.toList h]
  len := by
    rintro _ l ⟨q, rfl, h⟩
    rw [emb.len, rep.len h]
  isEmpty := by
    rintro _ l ⟨q, rfl, h⟩
    rw [emb.isEmpty, rep.isEmpty h]
  capacityClass := by
    rintro _ l ⟨q, rfl, h⟩
    rw [emb.capacityClass, rep.capacityClass h]
  remaining := by
    rintro _ l ⟨q, rfl, h⟩
    rw [emb.remaining, rep.remaining h]
  offer := by
    rintro _ l ⟨q, rfl, h⟩ e
    rw [emb.offer]
    exact (rep.offer h e).within f
  offerAll := by
    rintro _ l ⟨q, rfl, h⟩ es
    rw [emb.offerAll]
    exact (rep.offerAll h es).within f
  poll := by
    rintro _ l ⟨q, rfl, h⟩
    rw [emb.poll]
    exact (rep.poll h).within f
  peek := by
    rintro _ l ⟨q, rfl, h⟩
    rw [emb.peek]
    exact (rep.peek h).within f
  element := by
    rintro _ l ⟨q, rfl, h⟩
    rw [emb.element]
    exact (rep.element h).within f
  remove := by
    rintro _ l ⟨q, rfl, h⟩
    rw [emb.remove]
    exact (rep.remove h).within f
  clear := by
    rintro _ l ⟨q, rfl, h⟩
    rw [emb.clear]
    exact ⟨Buffer.clear q, rfl, rep.clear h⟩

theorem PollsIdly.within {S : Q → Fifo E → Prop} {f : Q → R} (idle : PollsIdly S)
    (emb : Embeds f) : PollsIdly (Within f S) := by
  rintro _ l ⟨q, rfl, h⟩ none
  rw [emb.poll, idle h none]
  rfl

end Embedding

namespace AnyQueue

variable {Q : Type} [Buffer Q E]

/-- Every call is passed on to the queue within, so a queue of any type does what that one does. -/
theorem embeds {f : Q → AnyQueue E}
    (views : ∀ {α : Type} (g : (Q : Type) → [Buffer Q E] → Q → α) (q : Q), view g (f q) = g Q q)
    (acts : ∀ {α : Type} (g : (Q : Type) → [Buffer Q E] → Q → α × Q) (q : Q),
      act g (f q) = Prod.map id f (g Q q)) : Embeds f where
  toList := views fun _ => Buffer.toList
  len := views fun _ => Buffer.len
  isEmpty := views fun _ => Buffer.isEmpty
  capacityClass := views fun _ => Buffer.capacityClass
  remaining := views fun _ => Buffer.remaining
  offer q e := acts (fun _ _ q => Buffer.offer q e) q
  offerAll q es := acts (fun _ _ q => Buffer.offerAll q es) q
  poll := acts fun _ => Buffer.poll
  peek := acts fun _ => Buffer.peek
  element := acts fun _ => Buffer.element
  remove := acts fun _ => Buffer.remove
  clear q := congrArg Prod.snd (acts (fun _ _ q => ((), Buffer.clear q)) q)

theorem stands (f : Q → AnyQueue E) {S : Q → Fifo E → Prop} {m : Manner} {q : Q} {l : Fifo E}
    (views : ∀ {α : Type} (g : (Q : Type) → [Buffer Q E] → Q → α) (q : Q), view g (f q) = g Q q)
    (acts : ∀ {α : Type} (g : (Q : Type) → [Buffer Q E] → Q → α × Q) (q : Q),
      act g (f q) = Prod.map id f (g Q q))
    (rep : Represents S m) (idle : PollsIdly S) (h : S q l) :
    ∃ R : AnyQueue E → Fifo E → Prop, Represents R m ∧ PollsIdly R ∧ R (f q) l :=
  ⟨Within f S, rep.within (embeds views acts), idle.within (embeds views acts), q, rfl, h⟩

end AnyQueue

inductive QueueType
  | null
  | slot
  | ring (n : Nat)
  | waiting (n : Nat)
  | chain (linkSize : UInt64)
  | inbox
  | plain

namespace QueueType

def fresh : QueueType → AnyQueue E
  | .null => .null ⟨⟩
  | .slot => .slot .empty
  | .ring n => .ring (.ofCapacity n)
  | .waiting n => .waiting (.ofCapacity n)
  | .chain linkSize => .chain (.ofLinkSize linkSize)
  | .inbox => .inbox .empty
  | .plain => .plain .empty

def bound : QueueType → Option Nat
  | .null => some 0
  | .slot => some 1
  | .ring n => some n
  | .waiting n => some n
  | _ => none

def manner : QueueType → Manner
  | .null => .null
  | .slot => .slot
  | .waiting _ => .waiting
  | _ => .plain

theorem represented_idly (type : QueueType) : ∃ R : AnyQueue E → Fifo E → Prop,
    Represents R type.manner ∧ PollsIdly R ∧ R type.fresh (.fresh type.bound) := by
  cases type with
  | null =>
    exact AnyQueue.stands .null (fun _ _ => rfl) (fun _ _ => rfl) NullQueue.represents
      NullQueue.pollsIdly rfl
  | slot =>
    exact AnyQueue.stands .slot (fun _ _ => rfl) (fun _ _ => rfl) SlotQueue.represents
      SlotQueue.pollsIdly ⟨none, rfl, rfl⟩
  | ring n =>
    exact AnyQueue.stands .ring (fun _ _ => rfl) (fun _ _ => rfl) RingQueue.represents
      RingQueue.pollsIdly rfl
  | waiting n =>
    exact AnyQueue.stands .waiting (fun _ _ => rfl) (fun _ _ => rfl) WaitingQueue.represents
      WaitingQueue.pollsIdly rfl
  | chain linkSize =>
    exact AnyQueue.stands .chain (fun _ _ => rfl) (fun _ _ => rfl) ChainQueue.represents
      ChainQueue.pollsIdly ⟨ChainQueue.linked_ofLinkSize linkSize, rfl⟩
  | inbox =>
    exact AnyQueue.stands .inbox (fun _ _ => rfl) (fun _ _ => rfl) InboxQueue.represents
      InboxQueue.pollsIdly ⟨rfl, rfl⟩
  | plain =>
    exact AnyQueue.stands .plain (fun _ _ => rfl) (fun _ _ => rfl) PlainQueue.represents
      PlainQueue.pollsIdly rfl

theorem represented (type : QueueType) : ∃ R : AnyQueue E → Fifo E → Prop,
    Represents R type.manner ∧ R type.fresh (.fresh type.bound) := by
  obtain ⟨R, rep, -, start⟩ := type.represented_idly (E := E)
  exact ⟨R, rep, start⟩

end QueueType

end QueueSupply
