import QueueSupply.Proofs.Session.Queues

set_option autoImplicit false

namespace QueueSupply

variable {E : Type}

def Step.isGet (names : List String) : Step E → Bool
  | .get source _ => names.contains source
  | .make _ _ | .supplier _ _ | .factory | .on _ _ => false

/-- The number of calls of get, given the names of the suppliers there are before. -/
def getCalls : List String → List (Step E) → Nat
  | _, [] => 0
  | names, x :: rest => (x.isGet names).toNat + getCalls (x.learn names) rest

namespace Session

def FromFactory (s : Session E) : Prop :=
  ∀ name supplier, s.suppliers name = some supplier → ∃ kind, supplier = s.factory.supplier kind

variable {s s' : Session E} {names : List String} {x : Step E} {a : Answer E} {supplier : String}

theorem fromFactory_start (c : Config) (hook : Hook E) : (start c hook).FromFactory := by
  intro name supplier there
  cases there

theorem FromFactory.supplierBy? (from_factory : s.FromFactory) {route : Route}
    {supplier : Supplier E} (led : s.supplierBy? route = some supplier) :
    ∃ kind, supplier = s.factory.supplier kind := by
  cases route with
  | clone name => exact from_factory name supplier led
  | supplierFor | unboundedLinked | unboundedMultiProducer | empty | one | xs | small | unbounded
  | kind => exact ⟨_, (Option.some.inj led).symm⟩

variable [DecidableEq E] [Ordered E]

theorem Move.factory_eq (move : s.Move x a s') : s'.factory = s.factory := by
  cases move with
  | make | supplier | noSupplier | get | noSource | factory | on | noQueue => rfl

theorem factory_run (s : Session E) (steps : List (Step E)) :
    (s.run steps).2.factory = s.factory := by
  induction steps generalizing s with
  | nil => rfl
  | cons x rest ih => rw [run, ih, (move_step s x).factory_eq]

theorem FromFactory.move (from_factory : s.FromFactory) (move : s.Move x a s') :
    s'.FromFactory := by
  cases move with
  | @supplier name route made led =>
    intro other found there
    change s.suppliers.set name made other = some found at there
    by_cases same : other = name
    · rw [same, Registers.set_self] at there
      obtain rfl := Option.some.inj there
      exact from_factory.supplierBy? led
    · rw [Registers.set_other same] at there
      exact from_factory other found there
  | make | noSupplier | get | noSource | factory | on | noQueue => exact from_factory

theorem FromFactory.run {steps : List (Step E)} (from_factory : s.FromFactory) :
    (s.run steps).2.FromFactory := by
  induction steps generalizing s with
  | nil => exact from_factory
  | cons x rest ih => exact ih (from_factory.move (move_step s x))

theorem Move.calls (move : s.Move x a s') (knows : s.Knows names) (from_factory : s.FromFactory)
    (counts : s.factory.hook.counts = true) : s'.calls = s.calls + (x.isGet names).toNat := by
  cases move with
  | @get source name found there =>
    have known := knows.mem there
    obtain ⟨kind, rfl⟩ := from_factory source found there
    simp [Step.isGet, known, Supplier.get, Hook.run, Factory.supplier, counts]
  | @noSource source name missing =>
    have unknown : names.contains source = false := by
      rw [← knows source, missing]
      rfl
    simp only [Step.isGet, unknown]
    rfl
  | make | supplier | noSupplier | factory | on | noQueue => rfl

theorem calls_run {steps : List (Step E)} (knows : s.Knows names) (from_factory : s.FromFactory)
    (counts : s.factory.hook.counts = true) :
    (s.run steps).2.calls = s.calls + getCalls names steps := by
  induction steps generalizing s names with
  | nil => rfl
  | cons x rest ih =>
    have move := move_step s x
    have now := move.calls knows from_factory counts
    have later := ih (knows.move move) (from_factory.move move) (by rwa [move.factory_eq])
    simp only [run, getCalls]
    omega

/-- A call of get on the supplier delivers the queue: the answer is about this queue, and so are the
answers to all steps under its name, until another queue is stored there. -/
def Delivers (s : Session E) (names : List String) (supplier : String) (q : AnyQueue E) : Prop :=
  ∀ name, (s.step (.get supplier name)).1 =
      .queue (.built (s.factory.hook.shownCalls (s.calls + 1))) (Buffer.len q) (Buffer.capacity q) ∧
    ∀ later, Keeps name names later →
      answersOn name later ((s.step (.get supplier name)).2.run later).1 =
        QueueStep.answers q (stepsOn name later)

theorem delivers {kind : SupplierKind} (knows : s.Knows names)
    (there : s.suppliers supplier = some (s.factory.supplier kind)) :
    s.Delivers names supplier (s.factory.hook.wrap (kind.build s.factory.config)) := by
  intro name
  have move := move_step s (.get supplier name)
  constructor
  · cases counts : s.factory.hook.counts with
    | false =>
      simp [step, there, store, Supplier.get, Hook.run, Factory.supplier, shownCalls,
        Hook.shownCalls, counts]
    | true =>
      simp [step, there, store, Supplier.get, Hook.run, Factory.supplier, shownCalls,
        Hook.shownCalls, counts]
  · intro later keeps
    have stored : (s.step (.get supplier name)).2.queues name =
        some (s.factory.hook.wrap (kind.build s.factory.config)) := by
      simp [step, there, store, Supplier.get, Hook.run, Factory.supplier]
    exact answersOn_run (knows.move move) stored keeps

/-- After any steps, every supplier is one of the factory's, and delivers what the hook makes of a
queue of its kind. -/
theorem run_delivers (c : Config) (hook : Hook E) (steps : List (Step E))
    (mem : supplier ∈ supplierNames steps) :
    ∃ kind, ((start c hook).run steps).2.suppliers supplier = some ⟨kind, c, hook⟩ ∧
      ((start c hook).run steps).2.Delivers (supplierNames steps) supplier
        (hook.wrap (kind.build c)) := by
  have knows : ((start c hook).run steps).2.Knows (supplierNames steps) := (knows_start c hook).run
  have factory_eq := factory_run (start c hook) steps
  have told := knows supplier
  obtain ⟨found, there⟩ := Option.isSome_iff_exists.mp (told.trans (by simpa using mem))
  obtain ⟨kind, rfl⟩ := (fromFactory_start c hook).run supplier found there
  have result := delivers knows there
  rw [factory_eq] at there result
  exact ⟨kind, there, result⟩

/-- With a hook that counts, the number of its runs is that of the calls of get on the factory's
suppliers and their clones, whatever else is done in between, and it grows with these calls only.
What such a call delivers is the hook's result: all answers of the queue are those of this result.
So if the hook has one result for all queues, then they do not depend on the supplier's kind or on
the configuration: a hook that replaces queues by null queues delivers null queues only, and so for
plain ones. -/
theorem hook_runs_once_per_get (c : Config) (hook : Hook E) (steps : List (Step E)) :
    let s := ((start c hook).run steps).2
    let names := supplierNames steps
    (hook.counts = true → s.calls = getCalls [] steps ∧
      ∀ x, (s.step x).2.calls = s.calls + (x.isGet names).toNat) ∧
    (∀ supplier ∈ names, ∃ kind, s.suppliers supplier = some ⟨kind, c, hook⟩ ∧
      s.Delivers names supplier (hook.wrap (kind.build c))) ∧
    (∀ q, (∀ built, hook.wrap built = q) → ∀ supplier ∈ names, s.Delivers names supplier q) ∧
    (hook = .replaceNull → ∀ supplier ∈ names, s.Delivers names supplier (.null ⟨⟩)) ∧
    (hook = .replacePlain → ∀ supplier ∈ names, s.Delivers names supplier (.plain .empty)) := by
  intro s names
  have knows : s.Knows names := (knows_start c hook).run
  have from_factory : s.FromFactory := (fromFactory_start c hook).run
  have factory_eq : s.factory = .ofConfig c hook := factory_run _ steps
  have delivered : ∀ supplier ∈ names, ∃ kind, s.suppliers supplier = some ⟨kind, c, hook⟩ ∧
      s.Delivers names supplier (hook.wrap (kind.build c)) := fun _ => run_delivers c hook steps
  have replaced : ∀ q, (∀ built, hook.wrap built = q) →
      ∀ supplier ∈ names, s.Delivers names supplier q := by
    intro q constant supplier mem
    obtain ⟨kind, -, result⟩ := delivered supplier mem
    rwa [constant] at result
  refine ⟨?_, delivered, replaced, ?_, ?_⟩
  · intro counts
    have counted : s.calls = 0 + getCalls [] steps :=
      calls_run (knows_start c hook) (fromFactory_start c hook) counts
    refine ⟨by omega, fun x => (move_step s x).calls knows from_factory ?_⟩
    rwa [factory_eq]
  · rintro rfl
    exact replaced (.null ⟨⟩) fun _ => rfl
  · rintro rfl
    exact replaced (.plain .empty) fun _ => rfl

end Session

end QueueSupply
