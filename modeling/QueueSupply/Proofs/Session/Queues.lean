import QueueSupply.Proofs.Session.Moves

set_option autoImplicit false

namespace QueueSupply

variable {E : Type}

namespace Step

def replaces (names : List String) (name : String) : Step E → Bool
  | .make n _ => n == name
  | .get source n => n == name && names.contains source
  | .supplier _ _ | .factory | .on _ _ => false

def on? (name : String) : Step E → Option (QueueStep E)
  | .on n s => if n = name then some s else none
  | .make _ _ | .supplier _ _ | .get _ _ | .factory => none

end Step

def Keeps (name : String) : List String → List (Step E) → Prop
  | _, [] => True
  | names, x :: rest => x.replaces names name = false ∧ Keeps name (x.learn names) rest

def stepsOn (name : String) (steps : List (Step E)) : List (QueueStep E) :=
  steps.filterMap (Step.on? name)

def answersOn (name : String) (steps : List (Step E)) (answers : List (Answer E)) :
    List (Answer E) :=
  (steps.zip answers).filterMap fun (x, a) => (x.on? name).map fun _ => a

variable [DecidableEq E] [Ordered E]

def QueueStep.answers (q : AnyQueue E) : List (QueueStep E) → List (Answer E)
  | [] => []
  | s :: rest =>
    let done := s.perform q
    .queue done.1 (Buffer.len done.2) (Buffer.capacity done.2) :: answers done.2 rest

namespace Session

variable {s s' : Session E} {names : List String} {x : Step E} {a : Answer E} {name : String}
  {q : AnyQueue E}

/-- A step on the queue is answered by it and changes it; all other steps leave it as it is, unless
they store another one. -/
theorem Move.queue (move : s.Move x a s') (knows : s.Knows names) (stored : s.queues name = some q)
    (keeps : x.replaces names name = false) :
    (x.on? name = none ∧ s'.queues name = some q) ∨
      ∃ qs, x.on? name = some qs ∧ s'.queues name = some (qs.perform q).2 ∧
        a = .queue (qs.perform q).1 (Buffer.len (qs.perform q).2)
          (Buffer.capacity (qs.perform q).2) := by
  cases move with
  | make n other =>
    have apart : name ≠ n := by
      rintro rfl
      simp [Step.replaces] at keeps
    exact .inl ⟨rfl, by simp [Registers.set_other apart, stored]⟩
  | @get source n found there =>
    have apart : name ≠ n := by
      rintro rfl
      simp [Step.replaces, knows.mem there] at keeps
    exact .inl ⟨rfl, by simp [Registers.set_other apart, stored]⟩
  | @on n other qs there =>
    by_cases same : n = name
    · subst same
      obtain rfl : other = q := Option.some.inj (there.symm.trans stored)
      exact .inr ⟨qs, by simp [Step.on?], by simp, rfl⟩
    · have apart : name ≠ n := fun eq => same eq.symm
      exact .inl ⟨by simp [Step.on?, same], by simp [Registers.set_other apart, stored]⟩
  | @noQueue n qs missing =>
    have same : n ≠ name := by
      rintro rfl
      rw [missing] at stored
      cases stored
    exact .inl ⟨by simp [Step.on?, same], stored⟩
  | supplier | noSupplier | noSource | factory => exact .inl ⟨rfl, stored⟩

/-- Until another queue is stored under its name, a queue answers as if it were alone. -/
theorem answersOn_run {later : List (Step E)} (knows : s.Knows names)
    (stored : s.queues name = some q) (keeps : Keeps name names later) :
    answersOn name later (s.run later).1 = QueueStep.answers q (stepsOn name later) := by
  -- Both the session and the queue under the name change from step to step.
  induction later generalizing s names q with
  | nil => rfl
  | cons x rest ih =>
    have move := move_step s x
    rcases move.queue knows stored keeps.1 with ⟨other, kept⟩ | ⟨qs, made, changed, answer⟩
    · have rest_answers := ih (knows.move move) kept keeps.2
      simp only [answersOn, stepsOn] at rest_answers
      simp only [answersOn, stepsOn, run, List.zip_cons_cons, List.filterMap_cons, other,
        Option.map_none, rest_answers]
    · have rest_answers := ih (knows.move move) changed keeps.2
      simp only [answersOn, stepsOn] at rest_answers
      simp only [answersOn, stepsOn, run, List.zip_cons_cons, List.filterMap_cons, made,
        Option.map_some, rest_answers, QueueStep.answers, answer]

end Session

end QueueSupply
