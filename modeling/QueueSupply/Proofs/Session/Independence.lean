import QueueSupply.Proofs.Fifo.Types
import QueueSupply.Proofs.Session.Hooks

set_option autoImplicit false

/-!
Sessions with all queues but one left out. A name may come to stand for another queue, so queues are
told apart by their numbers, in the order in which they are stored. When the steps that are made on
other queues, or make them, are deleted, then what is left of the session goes on as it did before:
only the number of hook calls can tell that something is missing.
-/

namespace QueueSupply

variable {E : Type}

/-- What the steps have done so far to the names: those of the suppliers, the number of queues
stored, and the number of the queue that each name stands for. -/
structure Ledger where
  sources : List String
  stored : Nat
  under : Registers Nat

namespace Ledger

def blank : Ledger := ⟨[], 0, .none⟩

def enter (l : Ledger) (name : String) : Ledger :=
  { l with stored := l.stored + 1, under := l.under.set name l.stored }

def number? (l : Ledger) : Step E → Option Nat
  | .make _ _ => some l.stored
  | .get source _ => if l.sources.contains source then some l.stored else none
  | .on name _ => l.under name
  | .supplier _ _ | .factory => none

def after (l : Ledger) : Step E → Ledger
  | .make name _ => l.enter name
  | .get source name => if l.sources.contains source then l.enter name else l
  | x@(.supplier _ _) => { l with sources := x.learn l.sources }
  | .on _ _ | .factory => l

section Get

variable {l : Ledger} {source : String}

theorem get_known (known : source ∈ l.sources) (name : String) :
    l.number? (.get source name : Step E) = some l.stored ∧
      l.after (.get source name : Step E) = l.enter name := by
  simp [number?, after, known]

theorem get_unknown (unknown : source ∉ l.sources) (name : String) :
    l.number? (.get source name : Step E) = none ∧ l.after (.get source name : Step E) = l := by
  simp [number?, after, unknown]

end Get

/-- Whether each step stays when all that concerns queues other than the `k`th is deleted. -/
def marks (k : Nat) : Ledger → List (Step E) → List Bool
  | _, [] => []
  | l, x :: rest => (l.number? x).all (· == k) :: marks k (l.after x) rest

end Ledger

def marked {α : Type} (marks : List Bool) (entries : List α) : List α :=
  (marks.zip entries).filterMap fun (mark, entry) => if mark then some entry else none

section Marked

variable {α : Type} {marks : List Bool} {entry : α} {entries : List α}

theorem marked_true :
    marked (true :: marks) (entry :: entries) = entry :: marked marks entries := rfl

theorem marked_false :
    marked (false :: marks) (entry :: entries) = marked marks entries := rfl

end Marked

def Reply.uncounted : Reply E → Reply E
  | .built _ => .built none
  | r => r

def Answer.uncounted : Answer E → Answer E
  | .queue reply len capacity => .queue reply.uncounted len capacity
  | .supplier kind text _ => .supplier kind text none
  | .factory xs small text _ => .factory xs small text none
  | .unknownName name => .unknownName name

/-- What hooks do with a new queue, whether they count or not: they deliver it, or another new one
in its place. -/
inductive Hook.DeliversNew : Hook E → Prop
  | itself (name : String) (counts : Bool) : DeliversNew ⟨name, counts, id⟩
  | replacing (name : String) (counts : Bool) (type : QueueType) :
    DeliversNew ⟨name, counts, fun _ => type.fresh⟩

theorem SupplierKind.build_new (c : Config) (kind : SupplierKind) :
    ∃ type : QueueType, (kind.build c : AnyQueue E) = type.fresh := by
  cases kind with
  | empty => exact ⟨.null, rfl⟩
  | one => exact ⟨.slot, rfl⟩
  | xs => exact ⟨.ring c.xs.toNat, rfl⟩
  | small => exact ⟨.ring c.small.toNat, rfl⟩
  | xsUnbounded => exact ⟨.chain c.xs, rfl⟩
  | smallUnbounded => exact ⟨.chain c.small, rfl⟩
  | bounded size => exact ⟨.ring size.toNat, rfl⟩
  | unboundedLinked linkSize => exact ⟨.chain linkSize, rfl⟩
  | unboundedMultiProducer => exact ⟨.inbox, rfl⟩

theorem Hook.DeliversNew.wrap_new {hook : Hook E} (new : hook.DeliversNew) (type : QueueType) :
    ∃ type' : QueueType, hook.wrap type.fresh = type'.fresh := by
  cases new with
  | itself => exact ⟨type, rfl⟩
  | replacing _ _ other => exact ⟨other, rfl⟩

theorem QueueType.fresh_empty (type : QueueType) :
    Buffer.toList (type.fresh : AnyQueue E) = [] ∧ Buffer.len (type.fresh : AnyQueue E) = 0 := by
  obtain ⟨R, rep, start⟩ := type.represented (E := E)
  exact ⟨rep.toList start, rep.len start⟩

/-- What a name stands for in the whole session and in what is left of it, where the number is that
of the queue in the whole one: only the `k`th queue need be there in both. -/
inductive Mirrored {α : Type} (k : Nat) : Option Nat → Option α → Option α → Prop
  | absent : Mirrored k none none none
  | own (a : α) : Mirrored k (some k) (some a) (some a)
  | other {j : Nat} (other : j ≠ k) (a : α) (left : Option α) : Mirrored k (some j) (some a) left

namespace Mirrored

variable {α : Type} {k : Nat} {number : Option Nat} {whole left : Option α} {a : α}

theorem of_none (mirrored : Mirrored k number whole left) (missing : whole = none) :
    number = none ∧ left = none := by
  cases mirrored with
  | absent => exact ⟨rfl, rfl⟩
  | own | other => cases missing

theorem of_some (mirrored : Mirrored k number whole left) (there : whole = some a)
    (own : ∀ j, number = some j → j = k) : number = some k ∧ left = some a := by
  cases mirrored with
  | absent => cases there
  | own => exact ⟨rfl, there⟩
  | @other j other => exact absurd (own j rfl) other

theorem of_own (mirrored : Mirrored k number whole left) (own : number = some k) :
    ∃ a, whole = some a ∧ left = some a := by
  cases mirrored with
  | absent => cases own
  | own a => exact ⟨a, rfl, rfl⟩
  | other other => exact absurd (Option.some.inj own) other

/-- A queue is stored in the whole session, and the other one changes at this name at most. -/
theorem set {j : Nat} {under : Registers Nat} {whole apart apart' : Registers α} {name : String}
    (before : ∀ n, Mirrored k (under n) (whole n) (apart n))
    (there : Mirrored k (some j) (some a) (apart' name))
    (elsewhere : ∀ n, n ≠ name → apart' n = apart n) (n : String) :
    Mirrored k (under.set name j n) (whole.set name a n) (apart' n) := by
  by_cases same : n = name
  · simpa [same] using there
  · rw [Registers.set_other same, Registers.set_other same, elsewhere n same]
    exact before n

end Mirrored

namespace Session

/-- What is left of a session has its factory and its suppliers, and has its `k`th queue under the
same names. The ledger is that of the whole session. -/
structure Mirrors (k : Nat) (l : Ledger) (whole apart : Session E) : Prop where
  factory : apart.factory = whole.factory
  suppliers : apart.suppliers = whole.suppliers
  knows : whole.Knows l.sources
  queues (name : String) : Mirrored k (l.under name) (whole.queues name) (apart.queues name)

variable {k : Nat} {l : Ledger} {whole apart whole' : Session E} {x : Step E} {a : Answer E}

theorem mirrors_start (k : Nat) (c : Config) (hook : Hook E) :
    Mirrors k .blank (start c hook) (start c hook) :=
  ⟨rfl, rfl, knows_start c hook, fun _ => .absent⟩

theorem Mirrors.supplierBy? (mirrors : Mirrors k l whole apart) (route : Route) :
    apart.supplierBy? route = whole.supplierBy? route := by
  cases route with
  | clone name => exact congrFun mirrors.suppliers name
  | supplierFor | unboundedLinked | unboundedMultiProducer | empty | one | xs | small | unbounded
  | kind => simp only [Session.supplierBy?, mirrors.factory]

/-- A queue other than the `k`th is stored in the whole session only. -/
theorem Mirrors.set_whole (mirrors : Mirrors k l whole apart) {j : Nat} (other : j ≠ k)
    (name : String) (q : AnyQueue E) (stored calls : Nat) :
    Mirrors k { l with stored := stored, under := l.under.set name j }
      { whole with calls := calls, queues := whole.queues.set name q } apart :=
  { mirrors with
    queues := Mirrored.set mirrors.queues (.other other q _) fun _ _ => rfl }

/-- The `k`th queue is stored in both sessions. -/
theorem Mirrors.set_both (mirrors : Mirrors k l whole apart) (name : String) (q : AnyQueue E)
    (stored calls calls' : Nat) :
    Mirrors k { l with stored := stored, under := l.under.set name k }
      { whole with calls := calls, queues := whole.queues.set name q }
      { apart with calls := calls', queues := apart.queues.set name q } :=
  { mirrors with
    queues := Mirrored.set mirrors.queues (by simpa using .own q)
      fun _ different => Registers.set_other different }

variable [DecidableEq E] [Ordered E]

/-- A step that concerns another queue may be left out. -/
theorem Mirrors.skip (mirrors : Mirrors k l whole apart) (move : whole.Move x a whole') {j : Nat}
    (number : l.number? x = some j) (other : j ≠ k) : Mirrors k (l.after x) whole' apart := by
  cases move with
  | make name q =>
    obtain rfl := Option.some.inj number
    exact mirrors.set_whole other name q (l.stored + 1) whole.calls
  | @get source name found there =>
    obtain ⟨stored, after⟩ := Ledger.get_known (E := E) (mirrors.knows.mem there) name
    obtain rfl := Option.some.inj (stored.symm.trans number)
    rw [after]
    exact mirrors.set_whole other name _ (l.stored + 1) _
  | @on name q qs there =>
    have changed := mirrors.set_whole other name (qs.perform q).2 l.stored whole.calls
    rwa [Registers.set_eq_self number] at changed
  | @noQueue name qs missing =>
    cases ((mirrors.queues name).of_none missing).1.symm.trans number
  | @noSource source name missing =>
    cases (Ledger.get_unknown (mirrors.knows.not_mem missing) name).1.symm.trans number
  | supplier | noSupplier | factory => cases number

/-- Any other step is answered as before, and does the same. -/
theorem Mirrors.keep (mirrors : Mirrors k l whole apart) (move : whole.Move x a whole')
    (own : ∀ j, l.number? x = some j → j = k) :
    (apart.step x).1.uncounted = a.uncounted ∧ Mirrors k (l.after x) whole' (apart.step x).2 := by
  have known := mirrors.knows.move move
  cases move with
  | make name q =>
    obtain rfl := own l.stored rfl
    exact ⟨rfl, mirrors.set_both name q (l.stored + 1) _ _⟩
  | @supplier name route made led =>
    have led' : apart.supplierBy? route = some made := (mirrors.supplierBy? route).trans led
    simp only [step, led']
    exact ⟨rfl, mirrors.factory, by rw [mirrors.suppliers], known, mirrors.queues⟩
  | @noSupplier name route missing =>
    have missing' : apart.supplierBy? route = none := (mirrors.supplierBy? route).trans missing
    have stays : apart.step (.supplier name route) = (.unknownName name, apart) := by
      simp only [step, missing']
    rw [stays]
    exact ⟨rfl, mirrors.factory, mirrors.suppliers, known, mirrors.queues⟩
  | @get source name found there =>
    have there' : apart.suppliers source = some found :=
      (congrFun mirrors.suppliers source).trans there
    obtain ⟨stored, after⟩ := Ledger.get_known (E := E) (mirrors.knows.mem there) name
    obtain rfl := own l.stored stored
    rw [after]
    simp only [step, there']
    exact ⟨rfl, mirrors.set_both name _ (l.stored + 1) _ _⟩
  | @noSource source name missing =>
    have missing' : apart.suppliers source = none :=
      (congrFun mirrors.suppliers source).trans missing
    have stays : apart.step (.get source name) = (.unknownName source, apart) := by
      simp only [step, missing']
    rw [(Ledger.get_unknown (mirrors.knows.not_mem missing) name).2, stays]
    exact ⟨rfl, mirrors⟩
  | factory =>
    refine ⟨?_, mirrors⟩
    simp only [step, mirrors.factory, Answer.uncounted]
  | @on name q qs there =>
    obtain ⟨stands, left⟩ := (mirrors.queues name).of_some there own
    have changed := mirrors.set_both name (qs.perform q).2 l.stored whole.calls apart.calls
    rw [Registers.set_eq_self stands] at changed
    simp only [step, left]
    exact ⟨rfl, changed⟩
  | @noQueue name qs missing =>
    have stays : apart.step (.on name qs) = (.unknownName name, apart) := by
      simp only [step, ((mirrors.queues name).of_none missing).2]
    rw [stays]
    exact ⟨rfl, mirrors⟩

/-- What is left of a session does what the whole one does, as far as it is about the queue. -/
theorem Mirrors.run (mirrors : Mirrors k l whole apart) (steps : List (Step E)) :
    (apart.run (marked (l.marks k steps) steps)).1.map Answer.uncounted =
        (marked (l.marks k steps) (whole.run steps).1).map Answer.uncounted ∧
      Mirrors k (steps.foldl Ledger.after l) (whole.run steps).2
        (apart.run (marked (l.marks k steps) steps)).2 := by
  -- Both sessions go on, or only the whole one.
  induction steps generalizing l whole apart with
  | nil => exact ⟨rfl, mirrors⟩
  | cons x rest ih =>
    have move := move_step whole x
    cases mark : (l.number? x).all (· == k) with
    | true =>
      obtain ⟨answer, now⟩ := mirrors.keep move (by simpa [Option.all_eq_true] using mark)
      obtain ⟨answers, later⟩ := ih now
      simp only [Ledger.marks, mark, marked_true, run, List.map_cons, answer, answers]
      exact ⟨trivial, later⟩
    | false =>
      obtain ⟨j, number, other⟩ := (Option.all_eq_false _ _).mp mark
      simp only [Ledger.marks, mark, marked_false, run]
      exact ih (mirrors.skip move number (by simpa using other))

/-- The queues of a session are independent. When all gets and all other steps that are about queues
other than the `k`th are deleted, then every answer that remains is the same, but for the numbers of
hook calls, and so is the queue. In particular each get delivers a queue that is new and empty, and
that answers so whatever was done to other queues before, or is done to them afterwards. -/
theorem queues_go_on_apart (c : Config) (hook : Hook E) (steps : List (Step E)) :
    let whole := (start c hook).run steps
    (∀ k,
      let marks := Ledger.blank.marks k steps
      let apart := (start c hook).run (marked marks steps)
      apart.1.map Answer.uncounted = (marked marks whole.1).map Answer.uncounted ∧
        ∀ name, (steps.foldl Ledger.after .blank).under name = some k →
          ∃ q, whole.2.queues name = some q ∧ apart.2.queues name = some q) ∧
    (hook.DeliversNew → ∀ supplier ∈ supplierNames steps, ∃ type : QueueType,
      whole.2.Delivers (supplierNames steps) supplier type.fresh ∧
        Buffer.toList (type.fresh : AnyQueue E) = [] ∧
        Buffer.len (type.fresh : AnyQueue E) = 0) := by
  intro whole
  constructor
  · intro k marks apart
    obtain ⟨answers, after⟩ := (mirrors_start k c hook).run steps
    refine ⟨answers, fun name number => ?_⟩
    exact (after.queues name).of_own number
  · intro new supplier mem
    obtain ⟨kind, -, delivers⟩ := run_delivers c hook steps mem
    obtain ⟨built, build_eq⟩ := kind.build_new (E := E) c
    obtain ⟨type, wrap_eq⟩ := new.wrap_new built
    rw [build_eq, wrap_eq] at delivers
    exact ⟨type, delivers, type.fresh_empty⟩

/-- A name that is used again stands for another queue. -/
example : Ledger.blank.marks 0 ([.supplier "s" .small, .get "s" "a", .get "s" "b",
    .on "b" (.call (.offer 1)), .on "a" (.call .poll), .get "s" "a", .on "a" .info] :
      List (Step Nat)) = [true, true, false, false, true, false, false] := by decide

end Session

end QueueSupply
