import QueueSupply.Proofs.Fifo.Room

set_option autoImplicit false

namespace QueueSupply

variable {Q E : Type} {offer : Q → E → Inserted E × Q} {q q' : Q} {es : List E}
  {r : Inserted E × Q}

inductive TakesIn (offer : Q → E → Inserted E × Q) : Q → List E → Q → Prop
  | nothing (q : Q) : TakesIn offer q [] q
  | next {q q' q'' : Q} {e : E} {es : List E} (taken : offer q e = (.ok (), q'))
      (rest : TakesIn offer q' es q'') : TakesIn offer q (e :: es) q''

/-- What a bulk insert comes to, and the elements that it offers. -/
inductive Bulk (offer : Q → E → Inserted E × Q) (q : Q) : List E → List E → Inserted E × Q → Prop
  | all {es : List E} {q' : Q} (taken : TakesIn offer q es q') : Bulk offer q es es (.ok (), q')
  | stopped {taken rest : List E} {e : E} {q' q'' : Q} {err : QueueError E}
      (before : TakesIn offer q taken q') (failed : offer q' e = (.error err, q'')) :
      Bulk offer q (taken ++ e :: rest) (taken ++ [e])
        (.error (.rejected (err.handedBack ++ rest)), q'')

theorem offerInTurn_of_ok {e : E} (taken : offer q e = (.ok (), q')) (rest : List E) :
    offerInTurn offer q (e :: rest) = offerInTurn offer q' rest := by
  rw [offerInTurn, taken]

theorem offerInTurn_of_error {e : E} {err : QueueError E} (failed : offer q e = (.error err, q'))
    (rest : List E) :
    offerInTurn offer q (e :: rest) = (.error (.rejected (err.handedBack ++ rest)), q') := by
  rw [offerInTurn, failed]

theorem TakesIn.offerInTurn_append (taken : TakesIn offer q es q') (rest : List E) :
    offerInTurn offer q (es ++ rest) = offerInTurn offer q' rest := by
  induction taken with
  | nothing q => rfl
  | next now _ ih => exact (offerInTurn_of_ok now _).trans ih

/-- The outcome is the only one there can be. -/
theorem Bulk.offerInTurn_eq {offered : List E} (bulk : Bulk offer q es offered r) :
    offerInTurn offer q es = r := by
  cases bulk with
  | all taken =>
    have same := taken.offerInTurn_append []
    rwa [List.append_nil] at same
  | stopped before failed =>
    exact (before.offerInTurn_append _).trans (offerInTurn_of_error failed _)

theorem Bulk.cons {e : E} {offered : List E} (taken : offer q e = (.ok (), q'))
    (bulk : Bulk offer q' es offered r) : Bulk offer q (e :: es) (e :: offered) r := by
  cases bulk with
  | all rest => exact .all (.next taken rest)
  | stopped before failed => exact .stopped (.next taken before) failed

theorem exists_bulk (offer : Q → E → Inserted E × Q) (es : List E) :
    ∀ q, ∃ offered, Bulk offer q es offered (offerInTurn offer q es) := by
  induction es with
  | nil => exact fun q => ⟨[], .all (.nothing q)⟩
  | cons e rest ih =>
    intro q
    rcases now : offer q e with ⟨_ | err, q'⟩
    · next err =>
      rw [offerInTurn_of_error now]
      exact ⟨[e], .stopped (.nothing q) now⟩
    · obtain ⟨offered, later⟩ := ih q'
      rw [offerInTurn_of_ok now]
      exact ⟨e :: offered, later.cons now⟩

section Recorded

/-- The offers of a queue that also writes down what it is offered. -/
def recorded (offer : Q → E → Inserted E × Q) (s : Q × List E) (e : E) :
    Inserted E × (Q × List E) :=
  ((offer s.1 e).1, (offer s.1 e).2, s.2 ++ [e])

theorem recorded_of_eq {e : E} {answer : Inserted E} (now : offer q e = (answer, q'))
    (log : List E) : recorded offer (q, log) e = (answer, q', log ++ [e]) := by
  rw [recorded, now]

theorem TakesIn.recorded (taken : TakesIn offer q es q') :
    ∀ log, TakesIn (recorded offer) (q, log) es (q', log ++ es) := by
  induction taken with
  | nothing q =>
    intro log
    rw [List.append_nil]
    exact .nothing _
  | @next q q' q'' e es now _ ih =>
    intro log
    have later := ih (log ++ [e])
    rw [List.append_assoc] at later
    exact .next (recorded_of_eq now log) later

theorem Bulk.recorded {offered : List E} (bulk : Bulk offer q es offered r) :
    Bulk (recorded offer) (q, []) es offered (r.1, r.2, offered) := by
  cases bulk with
  | all taken => exact .all (taken.recorded [])
  | stopped before failed => exact .stopped (before.recorded []) (recorded_of_eq failed _)

end Recorded

theorem Bulk.ok_iff {offered : List E} (bulk : Bulk offer q es offered r) :
    r.1 = .ok () ↔ ∃ q', TakesIn offer q es q' := by
  constructor
  · intro ok
    cases bulk with
    | all taken => exact ⟨_, taken⟩
    | stopped before failed => cases ok
  · rintro ⟨q', taken⟩
    rw [← bulk.offerInTurn_eq, (Bulk.all taken).offerInTurn_eq]

/-- On a queue that stands for a list a first part of the elements is taken in, as long as there is
room, and the rest is handed back. -/
theorem Represents.exists_parts [Buffer Q E] {R : Q → Fifo E → Prop} {m : Manner} {l : Fifo E}
    (rep : Represents R m) (h : R q l) (bulk : m.takesBulk = true) (es : List E) :
    ∃ taken back, taken ++ back = es ∧ taken.length = l.admitted es.length ∧
      Buffer.toList (Buffer.offerAll q es).2 = Buffer.toList q ++ taken ∧
      (Buffer.offerAll q es).1 = if back.isEmpty then .ok () else .error (.rejected back) := by
  obtain ⟨answer, after⟩ := rep.offerAll h es
  rw [Manner.offerAll, if_pos bulk] at answer after
  have few : l.admitted es.length ≤ es.length := by
    unfold Fifo.admitted
    split
    · exact Nat.min_le_right _ _
    · exact Nat.le_refl _
  refine ⟨es.take (l.admitted es.length), es.drop (l.admitted es.length),
    List.take_append_drop _ es, List.length_take_of_le few, ?_, ?_⟩
  · rw [rep.toList after, rep.toList h]
    rfl
  · rw [answer, Fifo.offerAll]
    by_cases whole : l.admitted es.length = es.length
    · simp [whole]
    · have some : es.drop (l.admitted es.length) ≠ [] := by
        rw [Ne, List.drop_eq_nil_iff]
        omega
      simp [whole, some]

theorem QueueType.takesBulk {type : QueueType} (not_null : type ≠ .null) (not_slot : type ≠ .slot) :
    type.manner.takesBulk = true := by
  cases type with
  | null => exact absurd rfl not_null
  | slot => exact absurd rfl not_slot
  | ring | waiting | chain | inbox | plain => rfl

/-- A bulk insert offers the elements from left to right up to the first failure, as the record of
the offers shows, and it reports no failure exactly if all of them are taken in. So in a queue of
any type but the null queue and the slot, after any steps, a first part of the elements that there
is room for comes behind what was held, and the others are handed back, in order. -/
theorem bulk_insert_stops_at_first_failure (offer : Q → E → Inserted E × Q) (q : Q) (es : List E) :
    (∃ offered, Bulk offer q es offered (offerInTurn offer q es) ∧
      offerInTurn (recorded offer) (q, []) es =
        ((offerInTurn offer q es).1, (offerInTurn offer q es).2, offered)) ∧
      ((offerInTurn offer q es).1 = .ok () ↔ ∃ q', TakesIn offer q es q') ∧
      ∀ [DecidableEq E] [Ordered E] (type : QueueType) (steps : List (QueueStep E)),
        type ≠ .null → type ≠ .slot →
          let before : AnyQueue E := QueueStep.after type.fresh steps
          ∃ taken back, taken ++ back = es ∧
            (∀ n, type.bound = some n → taken.length = min (n - Buffer.len before) es.length) ∧
            (type.bound = none → back = []) ∧
            Buffer.toList (Buffer.offerAll before es).2 = Buffer.toList before ++ taken ∧
            (Buffer.offerAll before es).1 =
              if back.isEmpty then .ok () else .error (.rejected back) := by
  obtain ⟨offered, bulk⟩ := exists_bulk offer es q
  refine ⟨⟨offered, bulk, bulk.recorded.offerInTurn_eq⟩, bulk.ok_iff, ?_⟩
  intro _ _ type steps not_null not_slot before
  obtain ⟨R, l, rep, now, bound, -⟩ := type.represented_after steps
  obtain ⟨taken, back, parts, length_eq, content, answer⟩ :=
    rep.exists_parts now (QueueType.takesBulk not_null not_slot) es
  refine ⟨taken, back, parts, ?_, ?_, content, answer⟩
  · intro n bounded
    rw [length_eq, Fifo.admitted, Fifo.room, bound, bounded, rep.len now]
    rfl
  · intro unbounded
    rw [Fifo.admitted, Fifo.room, bound, unbounded] at length_eq
    have lengths := congrArg List.length parts
    rw [List.length_append, length_eq] at lengths
    exact List.eq_nil_of_length_eq_zero (Nat.add_eq_left.mp lengths)

/-- The second offer hands back another element than the one it was given, and the third is not
made. -/
example : Buffer.offerAll (⟨[], [.store, .rejected [7]], .unknown, none, none⟩ : ScriptedQueue Nat)
    [1, 2, 3] = (.error (.rejected [7, 3]), ⟨[1], [], .unknown, none, none⟩) := rfl

end QueueSupply
