import QueueSupply.Proofs.Parties
import QueueSupply.Proofs.Slot.Moves

set_option autoImplicit false

/-!
The slot goes round through six stages. At each stage the word, the slot, the elements accepted and
not yet taken and the places of the parties are known, and readers are inside at the full stage
only. Every move keeps the stage or goes on to the next one.
-/

namespace QueueSupply.SlotMachine

variable {E : Type}

inductive Stage (E : Type)
  | empty
  | claimed (e : E)
  | written (e : E)
  | full (e : E)
  | locked (e : E)
  | vacated

namespace Stage

def word : Stage E → Nat
  | .empty => SlotQueue.emptyWord
  | .claimed _ => SlotQueue.writingWord
  | .written _ => SlotQueue.writingWord
  | .full _ => SlotQueue.fullWord
  | .locked _ => SlotQueue.takingWord
  | .vacated => SlotQueue.takingWord

def slot : Stage E → Option E
  | .written e => some e
  | .full e => some e
  | .locked e => some e
  | _ => none

def due : Stage E → Option E
  | .full e => some e
  | .locked e => some e
  | _ => none

theorem word_lt (s : Stage E) : s.word < SlotQueue.readerUnit := by
  cases s <;> exact of_decide_eq_true rfl

theorem eq_empty {s : Stage E} (h : s.word = SlotQueue.emptyWord) : s = .empty := by
  cases s with
  | empty => rfl
  | claimed | written | full | locked | vacated => cases h

theorem eq_full {s : Stage E} (h : s.word = SlotQueue.fullWord) : ∃ e, s = .full e := by
  cases s with
  | full e => exact ⟨e, rfl⟩
  | empty | claimed | written | locked | vacated => cases h

end Stage

def Meets (due there : Option E) : Prop := ∀ e, due = some e → there = some e

theorem Meets.refl (due : Option E) : Meets due due := fun _ h => h

theorem Meets.of_none {due : Option E} (h : Meets due none) (there : Option E) :
    Meets due there := by
  intro e eq
  cases h e eq

def Producer.Free (p : Producer E) : Prop := p = .idle ∨ ∃ insist e, p = .trying insist e

def Producer.Fits (p : Producer E) : Stage E → Prop
  | .claimed e => p = .writing e
  | .written e => p = .publishing e
  | _ => p.Free

/-- The consumer has not claimed the slot, and what is due to it is `there`. -/
def Consumer.Waits (c : Consumer E) (there : Option E) : Prop :=
  c = .idle ∨ ∃ due, c.Seeks due ∧ Meets due there

theorem Consumer.Waits.of_none {c : Consumer E} (h : c.Waits none) (there : Option E) :
    c.Waits there := by
  obtain idle | ⟨due, seeks, meets⟩ := h
  · exact .inl idle
  · exact .inr ⟨due, seeks, meets.of_none there⟩

def Consumer.Fits (c : Consumer E) : Stage E → Prop
  | .locked e => ∃ due, c = .moving due ∧ Meets due (some e)
  | .vacated => ∃ due got, c = .releasing due got ∧ Meets due got
  | s => c.Waits s.due

def Reader.Fits (r : Reader E) (s : Stage E) : Prop :=
  match r with
  | .idle => True
  | .loading => True
  | .entering seen => SlotQueue.phaseOf seen = SlotQueue.fullWord
  | .reading due => due = s.due
  | .leaving due got => due = s.due ∧ got = s.due

theorem Reader.Fits.of_outside {r : Reader E} {s t : Stage E} (h : r.Fits s)
    (out : r.isInside = false) : r.Fits t := by
  cases r with
  | idle => trivial
  | loading => trivial
  | entering seen => exact h
  | reading due => cases out
  | leaving due got => cases out

theorem Reader.Seeks.outside {r : Reader E} (h : r.Seeks) : r.isInside = false := by
  cases h <;> rfl

theorem inside_pos {m : SlotMachine E} {i : Nat} {r : Reader E} (here : m.readers[i]? = some r)
    (inside : r.isInside = true) : 0 < m.inside :=
  List.countP_pos_iff.mpr ⟨r, List.mem_of_getElem? here, inside⟩

theorem inside_setReader {m : SlotMachine E} {i : Nat} {old : Reader E}
    (here : m.readers[i]? = some old) (r : Reader E) :
    (m.setReader i r).inside + old.isInside.toNat = m.inside + r.isInside.toNat :=
  Parties.countP_set here Reader.isInside r

structure At (m : SlotMachine E) (s : Stage E) : Prop where
  word : m.queue.word = s.word + SlotQueue.readerUnit * m.inside
  slot : m.queue.slot = s.slot
  accepted : m.accepted = m.taken ++ s.due.toList
  shared : m.inside ≠ 0 → ∃ e, s = .full e
  producer : m.producer.Fits s
  consumer : m.consumer.Fits s
  readers : ∀ r ∈ m.readers, r.Fits s

theorem at_start (readers : Nat) : At (start (.empty : SlotQueue E) readers) .empty := by
  have inside : (start (.empty : SlotQueue E) readers).inside = 0 := by
    change (List.replicate readers (Reader.idle : Reader E)).countP Reader.isInside = 0
    rw [List.countP_replicate]
    rfl
  refine ⟨?_, rfl, rfl, ?_, .inl rfl, .inl rfl, ?_⟩
  · rw [inside]
    rfl
  · intro anybody
    exact absurd inside anybody
  · intro r mem
    rw [List.eq_of_mem_replicate mem]
    trivial

namespace At

variable {m m' : SlotMachine E} {s : Stage E} {v : Event E}

theorem phaseOf_word (h : At m s) : SlotQueue.phaseOf m.queue.word = s.word := by
  rw [h.word, SlotQueue.phaseOf]
  have lt := s.word_lt
  rw [SlotQueue.readerUnit] at lt ⊢
  omega

theorem readersOf_word (h : At m s) : SlotQueue.readersOf m.queue.word = m.inside := by
  rw [h.word, SlotQueue.readersOf]
  have lt := s.word_lt
  rw [SlotQueue.readerUnit] at lt ⊢
  omega

theorem word_of_nobody (h : At m s) (nobody : m.inside = 0) : m.queue.word = s.word := by
  rw [h.word, nobody]
  rfl

/-- A word below what one reader adds is that of the stage itself, with nobody inside. -/
theorem word_eq {w : Nat} (h : At m s) (small : w < SlotQueue.readerUnit) (eq : m.queue.word = w) :
    s.word = w ∧ m.inside = 0 := by
  have word := h.word
  have lt := s.word_lt
  rw [SlotQueue.readerUnit] at word lt small
  omega

theorem due (h : At m s) : m.due = s.due := by
  rw [SlotMachine.due, h.accepted, List.drop_left]
  exact Option.head?_toList

theorem at_full (h : At m s) (full : SlotQueue.phaseOf m.queue.word = SlotQueue.fullWord) :
    ∃ e, s = .full e :=
  Stage.eq_full (h.phaseOf_word ▸ full)

theorem at_claimed {e : E} (h : At m s) (writing : m.producer = .writing e) : s = .claimed e := by
  have fits := h.producer
  rw [writing] at fits
  cases s with
  | claimed e' =>
    cases fits
    rfl
  | written => cases fits
  | empty | full | locked | vacated =>
    obtain now | ⟨_, _, now⟩ := fits <;> cases now

theorem at_written {e : E} (h : At m s) (publishing : m.producer = .publishing e) :
    s = .written e := by
  have fits := h.producer
  rw [publishing] at fits
  cases s with
  | written e' =>
    cases fits
    rfl
  | claimed => cases fits
  | empty | full | locked | vacated =>
    obtain now | ⟨_, _, now⟩ := fits <;> cases now

theorem at_locked {due : Option E} (h : At m s) (moving : m.consumer = .moving due) :
    ∃ e, s = .locked e ∧ Meets due (some e) := by
  have fits := h.consumer
  rw [moving] at fits
  cases s with
  | locked e =>
    obtain ⟨_, now, meets⟩ := fits
    cases now
    exact ⟨e, rfl, meets⟩
  | vacated =>
    obtain ⟨_, _, now, _⟩ := fits
    cases now
  | empty | claimed | written | full =>
    obtain now | ⟨_, now, _⟩ := fits <;> cases now

theorem at_vacated {due got : Option E} (h : At m s) (releasing : m.consumer = .releasing due got) :
    s = .vacated ∧ Meets due got := by
  have fits := h.consumer
  rw [releasing] at fits
  cases s with
  | vacated =>
    obtain ⟨_, _, now, meets⟩ := fits
    cases now
    exact ⟨rfl, meets⟩
  | locked =>
    obtain ⟨_, now, _⟩ := fits
    cases now
  | empty | claimed | written | full =>
    obtain now | ⟨_, now, _⟩ := fits <;> cases now

theorem readers_of_empty (h : At m s) (nobody : m.inside = 0) (t : Stage E) :
    ∀ r ∈ m.readers, r.Fits t := by
  intro r mem
  have out : ¬r.isInside = true := List.countP_eq_zero.mp nobody r mem
  exact (h.readers r mem).of_outside (Bool.not_eq_true _ ▸ out)

theorem nobody_inside (h : At m s) (other : ∀ e, s ≠ .full e) : m.inside = 0 := by
  by_cases nobody : m.inside = 0
  · exact nobody
  · obtain ⟨e, eq⟩ := h.shared nobody
    exact absurd eq (other e)

/-- A reader goes on: the word changes by what it adds, and it enters at the full stage only. -/
theorem withReader {q : SlotQueue E} {looks : List (Nat × Option E × Option E)} {i : Nat}
    {old r : Reader E} (h : At m s) (here : m.readers[i]? = some old) (fits : r.Fits s)
    (slot : q.slot = m.queue.slot)
    (word : q.word + SlotQueue.readerUnit * old.isInside.toNat =
      m.queue.word + SlotQueue.readerUnit * r.isInside.toNat)
    (enters : r.isInside = true → ∃ e, s = .full e) :
    At { m.setReader i r with queue := q, looks := looks } s where
  word := by
    have before := h.word
    have count := inside_setReader here r
    change q.word = s.word + SlotQueue.readerUnit * (m.setReader i r).inside
    rw [SlotQueue.readerUnit] at *
    omega
  slot := slot.trans h.slot
  accepted := h.accepted
  shared := by
    intro anybody
    by_cases before : m.inside = 0
    · have count := inside_setReader here r
      change (m.setReader i r).inside ≠ 0 at anybody
      cases inside : r.isInside with
      | true => exact enters inside
      | false =>
        rw [inside] at count
        change _ = m.inside + 0 at count
        omega
    · exact h.shared before
  producer := h.producer
  consumer := h.consumer
  readers := by
    intro r' mem
    obtain old_mem | rfl := List.mem_or_eq_of_mem_set mem
    · exact h.readers r' old_mem
    · exact fits

/-- The stage changes with nobody inside. -/
theorem turn {t : Stage E} {queue : SlotQueue E} {producer : Producer E} {consumer : Consumer E}
    {inserts : List (Inserted E)} {accepted taken : List E} {polls : List (Option E × Option E)}
    (h : At m s) (nobody : m.inside = 0) (word : queue.word = t.word) (slot : queue.slot = t.slot)
    (balance : accepted = taken ++ t.due.toList) (producer_fits : producer.Fits t)
    (consumer_fits : consumer.Fits t) :
    At { m with
      queue := queue, producer := producer, consumer := consumer, inserts := inserts
      accepted := accepted, taken := taken, polls := polls } t where
  word := by
    change queue.word = t.word + SlotQueue.readerUnit * m.inside
    rw [nobody]
    exact word
  slot := slot
  accepted := balance
  shared anybody := absurd nobody anybody
  producer := producer_fits
  consumer := consumer_fits
  readers := h.readers_of_empty nobody t

theorem producer_of_free {p : Producer E} (h : At m s) (now : m.producer.Free) (next : p.Free) :
    p.Fits s := by
  have fits := h.producer
  cases s with
  | claimed | written =>
    obtain state | ⟨_, _, state⟩ := now <;> cases state.symm.trans fits
  | empty | full | locked | vacated => exact next

theorem consumer_of_waits {c : Consumer E} (h : At m s)
    (now : m.consumer = .idle ∨ ∃ due, m.consumer.Seeks due) (next : c.Waits s.due) :
    c.Fits s := by
  have fits := h.consumer
  cases s with
  | locked =>
    obtain ⟨_, moving, _⟩ := fits
    rw [moving] at now
    obtain state | ⟨_, state⟩ := now <;> cases state
  | vacated =>
    obtain ⟨_, _, releasing, _⟩ := fits
    rw [releasing] at now
    obtain state | ⟨_, state⟩ := now <;> cases state
  | empty | claimed | written | full => exact next

theorem meets_of_seeks {due : Option E} (h : At m s) (seeks : m.consumer.Seeks due) :
    Meets due s.due := by
  have fits := h.consumer
  have waits : m.consumer.Waits s.due := by
    cases s with
    | locked =>
      obtain ⟨_, moving, _⟩ := fits
      rw [moving] at seeks
      cases seeks
    | vacated =>
      obtain ⟨_, _, releasing, _⟩ := fits
      rw [releasing] at seeks
      cases seeks
    | empty | claimed | written | full => exact fits
  obtain idle | ⟨due', seeks', meets⟩ := waits
  · rw [idle] at seeks
    cases seeks
  · rwa [seeks.unique seeks']

theorem due_none {due : Option E} (h : At m s) (seeks : m.consumer.Seeks due)
    (off : SlotQueue.phaseOf m.queue.word ≠ SlotQueue.fullWord) : s.due = none := by
  have fits := h.consumer
  cases s with
  | full => exact absurd h.phaseOf_word off
  | locked =>
    obtain ⟨_, moving, _⟩ := fits
    rw [moving] at seeks
    cases seeks
  | empty | claimed | written | vacated => rfl

theorem move (h : At m s) (move : Move m v m') : ∃ t, At m' t := by
  cases move with
  | insert idle =>
    exact ⟨s, { h with producer := h.producer_of_free (.inl idle) (.inr ⟨_, _, rfl⟩) }⟩
  | retry trying busy => exact ⟨s, h⟩
  | refuse trying busy settled =>
    exact ⟨s, { h with producer := h.producer_of_free (.inr ⟨_, _, trying⟩) (.inl rfl) }⟩
  | @claim _ _ e trying free =>
    -- The exchange met the bare word of the empty stage, so nobody is inside.
    obtain ⟨word, nobody⟩ := h.word_eq (by decide) free
    obtain rfl := Stage.eq_empty word
    exact ⟨.claimed e, h.turn nobody rfl h.slot h.accepted rfl h.consumer⟩
  | @write _ e writing =>
    -- The plain stores that follow are safe because their stages admit no reader.
    obtain rfl := h.at_claimed writing
    have nobody := h.nobody_inside (fun _ eq => by cases eq)
    have word := h.word_of_nobody nobody
    exact ⟨.written e, h.turn nobody word rfl h.accepted rfl h.consumer⟩
  | @publish _ e publishing =>
    obtain rfl := h.at_written publishing
    have nobody := h.nobody_inside (fun _ eq => by cases eq)
    have balance : m.accepted ++ [e] = m.taken ++ [e] := by
      rw [h.accepted]
      exact congrArg (· ++ [e]) (List.append_nil _)
    have consumer : m.consumer.Waits none := h.consumer
    exact ⟨.full e, h.turn nobody rfl h.slot balance (.inl rfl) (consumer.of_none _)⟩
  | seek idle =>
    have waits : (Consumer.loading m.due).Waits s.due :=
      .inr ⟨m.due, .loading, h.due ▸ Meets.refl _⟩
    exact ⟨s, { h with consumer := h.consumer_of_waits (.inl idle) waits }⟩
  | @goOn _ due next seeks still =>
    have waits : next.Waits s.due := .inr ⟨due, still, h.meets_of_seeks seeks⟩
    exact ⟨s, { h with consumer := h.consumer_of_waits (.inr ⟨due, seeks⟩) waits }⟩
  | giveUp seeks off =>
    exact ⟨s, { h with consumer := h.consumer_of_waits (.inr ⟨_, seeks⟩) (.inl rfl) }⟩
  | @lock _ due exchanging full =>
    -- A word with readers in it is not the bare full word, so the exchange met none of them.
    obtain ⟨word, nobody⟩ := h.word_eq (by decide) full
    obtain ⟨e, rfl⟩ := Stage.eq_full word
    have meets : Meets due (some e) := h.meets_of_seeks (exchanging ▸ .exchanging)
    exact ⟨.locked e, h.turn nobody rfl h.slot h.accepted h.producer ⟨due, rfl, meets⟩⟩
  | @vacate _ due moving =>
    obtain ⟨e, rfl, meets⟩ := h.at_locked moving
    have nobody := h.nobody_inside (fun _ eq => by cases eq)
    have word := h.word_of_nobody nobody
    have slot : m.queue.slot = some e := h.slot
    have balance : m.accepted = (m.taken ++ m.queue.slot.toList) ++ [] := by
      rw [h.accepted, slot]
      exact (List.append_nil _).symm
    exact ⟨.vacated, h.turn nobody word rfl balance h.producer ⟨due, _, rfl, slot ▸ meets⟩⟩
  | release releasing =>
    obtain ⟨rfl, _⟩ := h.at_vacated releasing
    have nobody := h.nobody_inside (fun _ eq => by cases eq)
    exact ⟨.empty, h.turn nobody rfl h.slot h.accepted h.producer (.inl rfl)⟩
  | look idle => exact ⟨s, h.withReader idle trivial rfl rfl (fun inside => by cases inside)⟩
  | aim here seeks full =>
    have word : m.queue.word + SlotQueue.readerUnit * _ = _ :=
      congrArg (m.queue.word + SlotQueue.readerUnit * Bool.toNat ·) seeks.outside
    exact ⟨s, h.withReader here full rfl word (fun inside => by cases inside)⟩
  | miss here seeks off =>
    have word : m.queue.word + SlotQueue.readerUnit * _ = _ :=
      congrArg (m.queue.word + SlotQueue.readerUnit * Bool.toNat ·) seeks.outside
    exact ⟨s, h.withReader here trivial rfl word (fun inside => by cases inside)⟩
  | enter entering =>
    -- The word may have come back to what was seen, but what was seen is full in any case.
    have full := h.at_full (h.readers _ (List.mem_of_getElem? entering))
    exact ⟨s, h.withReader entering h.due rfl rfl (fun _ => full)⟩
  | @read i _ due reading =>
    have mem := List.mem_of_getElem? reading
    obtain ⟨e, rfl⟩ := h.shared (Nat.ne_of_gt (inside_pos reading rfl))
    exact ⟨_, h.withReader reading ⟨h.readers _ mem, h.slot⟩ rfl rfl (fun _ => ⟨e, rfl⟩)⟩
  | leave leaving =>
    have pos := inside_pos leaving rfl
    have word : m.queue.word - SlotQueue.readerUnit + SlotQueue.readerUnit * 1 =
        m.queue.word + SlotQueue.readerUnit * 0 := by
      have word := h.word
      rw [SlotQueue.readerUnit] at word ⊢
      omega
    exact ⟨s, h.withReader leaving trivial rfl word (fun inside => by cases inside)⟩
  | measure => exact ⟨s, h⟩

end At

end QueueSupply.SlotMachine
