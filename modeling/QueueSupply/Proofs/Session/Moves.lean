import QueueSupply.Session.Basic

set_option autoImplicit false

namespace QueueSupply

variable {E : Type}

namespace Registers

variable {α : Type} {r : Registers α} {name other : String} {a : α}

@[simp] theorem set_self : r.set name a name = some a := if_pos rfl

theorem set_other (apart : other ≠ name) : r.set name a other = r other := if_neg apart

theorem set_eq_self (there : r name = some a) : r.set name a = r := by
  funext n
  by_cases same : n = name
  · rw [same, set_self, there]
  · exact set_other same

end Registers

def Route.known (names : List String) : Route → Bool
  | .clone name => names.contains name
  | .supplierFor _ | .unboundedLinked _ | .unboundedMultiProducer | .empty | .one | .xs | .small
  | .unbounded | .kind _ => true

def Step.learn (names : List String) : Step E → List String
  | .supplier name route => if route.known names then name :: names else names
  | .make _ _ | .get _ _ | .factory | .on _ _ => names

def supplierNames (steps : List (Step E)) : List String := steps.foldl Step.learn []

namespace Session

section Moves

variable [DecidableEq E] [Ordered E]

inductive Move (s : Session E) : Step E → Answer E → Session E → Prop
  | make (name : String) (q : AnyQueue E) :
      Move s (.make name q) (.queue (.result .cleared) (Buffer.len q) (Buffer.capacity q))
        { s with queues := s.queues.set name q }
  | supplier {name : String} {route : Route} {made : Supplier E}
      (led : s.supplierBy? route = some made) :
      Move s (.supplier name route) (.supplier (describe made.kind) (describe made) s.shownCalls)
        { s with suppliers := s.suppliers.set name made }
  | noSupplier {name : String} {route : Route} (missing : s.supplierBy? route = none) :
      Move s (.supplier name route) (.unknownName name) s
  | get {source name : String} {found : Supplier E} (there : s.suppliers source = some found) :
      Move s (.get source name)
        (.queue (.built (s.factory.hook.shownCalls (found.get s.calls).2))
          (Buffer.len (found.get s.calls).1) (Buffer.capacity (found.get s.calls).1))
        { s with
          calls := (found.get s.calls).2
          queues := s.queues.set name (found.get s.calls).1 }
  | noSource {source name : String} (missing : s.suppliers source = none) :
      Move s (.get source name) (.unknownName source) s
  | factory :
      Move s .factory
        (.factory s.factory.config.xs s.factory.config.small (describe s.factory) s.shownCalls) s
  | on {name : String} {q : AnyQueue E} (qs : QueueStep E) (there : s.queues name = some q) :
      Move s (.on name qs)
        (.queue (qs.perform q).1 (Buffer.len (qs.perform q).2) (Buffer.capacity (qs.perform q).2))
        { s with queues := s.queues.set name (qs.perform q).2 }
  | noQueue {name : String} (qs : QueueStep E) (missing : s.queues name = none) :
      Move s (.on name qs) (.unknownName name) s

theorem move_step (s : Session E) (x : Step E) : s.Move x (s.step x).1 (s.step x).2 := by
  cases x with
  | make name q => exact .make name q
  | supplier name route =>
    cases led : s.supplierBy? route with
    | none =>
      simp only [step, led]
      exact .noSupplier led
    | some made =>
      simp only [step, led]
      exact .supplier led
  | get source name =>
    cases there : s.suppliers source with
    | none =>
      simp only [step, there]
      exact .noSource there
    | some found =>
      simp only [step, there]
      exact .get there
  | factory => exact .factory
  | on name qs =>
    cases there : s.queues name with
    | none =>
      simp only [step, there]
      exact .noQueue qs there
    | some q =>
      simp only [step, there]
      exact .on qs there

end Moves

def Knows (s : Session E) (names : List String) : Prop :=
  ∀ name, (s.suppliers name).isSome = names.contains name

variable {s s' : Session E} {names : List String} {x : Step E} {a : Answer E}

theorem knows_start (c : Config) (hook : Hook E) : (start c hook).Knows [] := fun _ => rfl

theorem Knows.mem {name : String} (knows : s.Knows names) {found : Supplier E}
    (there : s.suppliers name = some found) : name ∈ names := by
  have told := knows name
  rw [there] at told
  simpa using told

theorem Knows.not_mem {name : String} (knows : s.Knows names) (missing : s.suppliers name = none) :
    name ∉ names := by
  have told := knows name
  rw [missing] at told
  simpa using told

theorem Knows.supplierBy? (knows : s.Knows names) (route : Route) :
    (s.supplierBy? route).isSome = route.known names := by
  cases route with
  | clone name => exact knows name
  | supplierFor | unboundedLinked | unboundedMultiProducer | empty | one | xs | small | unbounded
  | kind => rfl

variable [DecidableEq E] [Ordered E]

theorem Knows.move (knows : s.Knows names) (move : s.Move x a s') : s'.Knows (x.learn names) := by
  cases move with
  | @supplier name route made led =>
    have known := knows.supplierBy? route
    rw [led] at known
    intro other
    by_cases same : other = name
    · simp [Step.learn, ← known, same]
    · simp [Step.learn, ← known, same, Registers.set_other same, knows other]
  | @noSupplier name route missing =>
    have known := knows.supplierBy? route
    rw [missing] at known
    simpa [Step.learn, ← known] using knows
  | make | get | noSource | factory | on | noQueue => exact knows

theorem Knows.run {steps : List (Step E)} (knows : s.Knows names) :
    (s.run steps).2.Knows (steps.foldl Step.learn names) := by
  induction steps generalizing s names with
  | nil => exact knows
  | cons x rest ih => exact ih (knows.move (move_step s x))

end Session

end QueueSupply
