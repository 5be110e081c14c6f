set_option autoImplicit false

namespace QueueSupply.Schedule

variable {S V : Type}

def run? (step? : S → V → Option S) (s : S) (events : List V) : Option S := events.foldlM step? s

/-- The run that leaves out the events that are not possible. -/
def runPossible (step? : S → V → Option S) (s : S) (events : List V) : S :=
  events.foldl (fun s v => (step? s v).getD s) s

variable {step? : S → V → Option S}

theorem invariant_of_run? {P : S → Prop} (keeps : ∀ s v t, P s → step? s v = some t → P t) :
    ∀ (events : List V) {s t : S}, P s → run? step? s events = some t → P t
  | [], s, t, holds, run => by
    rw [run?, List.foldlM_nil] at run
    exact Option.some.inj run ▸ holds
  | v :: events, s, t, holds, run => by
    rw [run?, List.foldlM_cons] at run
    obtain ⟨next, step, rest⟩ := Option.bind_eq_some_iff.mp run
    exact invariant_of_run? keeps events (keeps s v next holds step) rest

theorem run?_append (s : S) (events later : List V) :
    run? step? s (events ++ later) = (run? step? s events).bind (run? step? · later) :=
  List.foldlM_append

theorem run?_snoc {s t u : S} {events : List V} {v : V} (run : run? step? s events = some t)
    (step : step? t v = some u) : run? step? s (events ++ [v]) = some u := by
  rw [run?_append, run]
  change (step? t v).bind some = some u
  rw [step]
  rfl

/-- A property of a state and of the events that led to it holds along the run. -/
theorem history_of_run? {P : List V → S → Prop} {s : S} (initially : P [] s)
    (keeps : ∀ past t v u, run? step? s past = some t → P past t → step? t v = some u →
      P (past ++ [v]) u)
    (events : List V) {t : S} (run : run? step? s events = some t) : P events t := by
  -- The events still to come are the induction's, and those behind it grow at their end.
  have goOn : ∀ (later past : List V) (t u : S), run? step? s past = some t → P past t →
      run? step? t later = some u → P (past ++ later) u := by
    intro later
    induction later with
    | nil =>
      intro past t u _ holds rest
      rw [run?, List.foldlM_nil] at rest
      rw [List.append_nil, ← Option.some.inj rest]
      exact holds
    | cons v later ih =>
      intro past t u before holds rest
      rw [run?, List.foldlM_cons] at rest
      obtain ⟨next, step, rest⟩ := Option.bind_eq_some_iff.mp rest
      rw [List.append_cons]
      exact ih _ next u (run?_snoc before step) (keeps past t v next before holds step) rest
  exact goOn events [] s t rfl initially run

/-- An entry of a log that only grows at its end was made by one of the events. -/
theorem moment_of_run? {R : Type} (log : S → List R) {s : S} (fresh : log s = [])
    (grows : ∀ s v t, step? s v = some t → ∃ later, log t = log s ++ later ∧ later.length ≤ 1)
    {events : List V} {t : S} (run : run? step? s events = some t) {k : Nat} {r : R}
    (recorded : (log t)[k]? = some r) :
    ∃ past v later before after, events = past ++ v :: later ∧ run? step? s past = some before ∧
      step? before v = some after ∧ (log before).length = k ∧ log after = log before ++ [r] := by
  refine history_of_run? (P := fun events t => ∀ k r, (log t)[k]? = some r →
    ∃ past v later before after, events = past ++ v :: later ∧ run? step? s past = some before ∧
      step? before v = some after ∧ (log before).length = k ∧ log after = log before ++ [r])
    ?_ ?_ events run k r recorded
  · intro k r recorded
    rw [fresh] at recorded
    cases recorded
  · intro past t v u run earlier step k r recorded
    obtain ⟨new, log_eq, short⟩ := grows t v u step
    rw [log_eq] at recorded
    -- An entry is an old one, made in the past, or the one that this very event makes.
    by_cases old : k < (log t).length
    · rw [List.getElem?_append_left old] at recorded
      obtain ⟨before, w, later, a, b, split, rest⟩ := earlier k r recorded
      refine ⟨before, w, later ++ [v], a, b, ?_, rest⟩
      rw [split, List.append_assoc, List.cons_append]
    · rw [List.getElem?_append_right (Nat.not_lt.mp old)] at recorded
      obtain ⟨lt, eq⟩ := List.getElem?_eq_some_iff.mp recorded
      obtain ⟨n, rfl⟩ : ∃ n, new = [n] := List.length_eq_one_iff.mp (by omega)
      have length : (log t).length = k := by
        rw [List.length_singleton] at lt
        omega
      rw [List.getElem_singleton] at eq
      exact ⟨past, v, [], t, u, rfl, run, step, length, eq ▸ log_eq⟩

end QueueSupply.Schedule
