import Mathlib.Tactic
import ServiceMonitor.Tracker

/-!
Service changes as a function of what was observed.

What is reported on a service depends on its own known readings alone. `history` lists them in order, behind an
unknown state unless the first is skipped; `turns` picks the neighbours that differ.

- `step_reports`: one call moves the state that the next reading is compared with (`compared`) and reports the turn it
  makes.
- `run_reports`: a run reports the turns of the whole history, from any tracker.
- `service_changes`: the same from an empty tracker, with the answer of every single call.
-/

namespace ServiceMonitor.Tracker

/-! ## What was observed of a service -/

/-- the known state of service `k` that a call observes; an unknown reading, a call for another service and a
reachability call observe none -/
def Op.reading? (k : ServiceKey) : Op → Option Lifecycle
  | .observe host source o => if keyOf host source o = k ∧ o.state ≠ .unknown then some o.state else none
  | .success _ | .failure .. => none

/-- the known states of service `k`, in the order they were observed -/
def readings (k : ServiceKey) (ops : List Op) : List Lifecycle := ops.filterMap (Op.reading? k)

/-- the readings of service `k`, behind an unknown state unless the first reading is skipped -/
def history (skipFirst : Bool) (k : ServiceKey) (ops : List Op) : List Lifecycle :=
  (if skipFirst then [] else [.unknown]) ++ readings k ops

/-- neighbours that differ -/
def turns (l : List Lifecycle) : List (Lifecycle × Lifecycle) := (l.zip l.tail).filter fun p => p.1 ≠ p.2

@[simp] theorem turns_nil : turns [] = [] := rfl

@[simp] theorem turns_singleton (a : Lifecycle) : turns [a] = [] := rfl

theorem turns_cons_cons (a b : Lifecycle) (l : List Lifecycle) :
    turns (a :: b :: l) = turns [a, b] ++ turns (b :: l) := by
  simp only [turns, List.tail_cons, List.zip_cons_cons, List.zip_nil_right, List.filter_cons, List.filter_nil]
  split_ifs <;> rfl

/-- service `k` went from one state to another -/
def changed (k : ServiceKey) (turn : Lifecycle × Lifecycle) : Change :=
  .service k.host k.name k.source turn.1 turn.2

/-- a change of service `k` -/
def isOn (k : ServiceKey) : Change → Bool
  | .service host name source _ _ => (⟨host, name, source⟩ : ServiceKey) = k
  | .unreachable .. | .recovered _ => false

/-- the changes of service `k` among answers, in order -/
def reportsOn (k : ServiceKey) (answers : List (Option Change)) : List Change :=
  answers.filterMap fun a => a.filter (isOn k)

theorem reportsOn_cons (k : ServiceKey) (a : Option Change) (answers : List (Option Change)) :
    reportsOn k (a :: answers) = (a.filter (isOn k)).toList ++ reportsOn k answers := by
  simp only [reportsOn, List.filterMap_cons]
  cases a.filter (isOn k) <;> rfl

/-! ## One call -/

/-- what the next reading of service `k` is compared with: the last known state, nothing if that is the first and
skipped -/
def compared (t : Tracker) (k : ServiceKey) : List Lifecycle :=
  if t.lifecycle k = .unknown ∧ t.skipFirst = true then [] else [t.lifecycle k]

/-- what an observation returns after states that it is compared with -/
def answerTo (last : List Lifecycle) (k : ServiceKey) (state : Lifecycle) : Option Change :=
  if state = .unknown then none
  else last.getLast?.bind fun l => if l = state then none else some (changed k (l, state))

theorem observe_answer (t : Tracker) (host source : String) (o : Observation) :
    (t.observe host source o).2 = answerTo (t.compared (keyOf host source o)) (keyOf host source o) o.state := by
  rw [observe_snd]
  by_cases hu : o.state = .unknown
  · simp [answerTo, hu]
  · by_cases hf : t.lifecycle (keyOf host source o) = .unknown ∧ t.skipFirst = true
    · rw [if_pos (Or.inr (Or.inr hf))]
      simp [answerTo, compared, hf]
    · simp only [hu, hf, or_false, false_or, answerTo, compared, if_false, List.getLast?_singleton, Option.bind_some]
      by_cases hs : o.state = t.lifecycle (keyOf host source o)
      · rw [if_pos hs, if_pos hs.symm]
      · rw [if_neg hs, if_neg (Ne.symm hs)]; rfl

@[simp] theorem step_skipFirst (t : Tracker) (op : Op) : (t.step op).1.skipFirst = t.skipFirst := by
  cases op <;> simp [step]

theorem step_lifecycle (t : Tracker) (op : Op) (k : ServiceKey) :
    (t.step op).1.lifecycle k = (op.reading? k).getD (t.lifecycle k) := by
  cases op with
  | observe host source o =>
    simp only [step, observe_lifecycle, Op.reading?]
    split_ifs <;> rfl
  | success host => simp [step, Op.reading?]
  | failure host reason => simp [step, Op.reading?]

theorem reading?_known {op : Op} {k : ServiceKey} {state : Lifecycle} (h : op.reading? k = some state) :
    state ≠ .unknown := by
  cases op with
  | observe host source o =>
    simp only [Op.reading?] at h
    split_ifs at h with hk
    cases h; exact hk.2
  | success host => simp [Op.reading?] at h
  | failure host reason => simp [Op.reading?] at h

/-- a reading takes the place of what was compared with before -/
theorem step_compared (t : Tracker) (op : Op) (k : ServiceKey) :
    (t.step op).1.compared k = (t.compared k ++ (op.reading? k).toList).getLast?.toList := by
  simp only [compared, step_lifecycle, step_skipFirst]
  cases hr : op.reading? k with
  | none => simp only [Option.getD_none, Option.toList_none, List.append_nil]; split_ifs <;> rfl
  | some state => simp [reading?_known hr]

theorem turns_compared (t : Tracker) (k : ServiceKey) : turns (t.compared k) = [] := by
  simp only [compared]; split_ifs <;> rfl

theorem compared_last (t : Tracker) (k : ServiceKey) : (t.compared k).getLast?.toList = t.compared k := by
  simp only [compared]; split_ifs <;> rfl

/-- an answer is on the service that was observed -/
theorem answerTo_other {last : List Lifecycle} {k k' : ServiceKey} {state : Lifecycle} (h : k ≠ k') :
    (answerTo last k state).filter (isOn k') = none := by
  simp only [answerTo]
  split_ifs
  · rfl
  · cases last.getLast? with
    | none => rfl
    | some l =>
      simp only [Option.bind_some]
      split_ifs
      · rfl
      · simpa [changed, isOn] using h

/-- an answer is the turn that a known state makes -/
theorem answerTo_turn (t : Tracker) (k : ServiceKey) (state : Lifecycle) (h : state ≠ .unknown) :
    ((answerTo (t.compared k) k state).filter (isOn k)).toList =
      (turns (t.compared k ++ [state])).map (changed k) := by
  simp only [compared]
  split_ifs
  · simp [answerTo]
  · simp only [answerTo, h, if_false, List.getLast?_singleton, Option.bind_some]
    by_cases hs : t.lifecycle k = state
    · simp [hs, turns]
    · simp [hs, turns, changed, isOn]

/-- **One call.** A call reports on service `k` the turn that its reading makes, and nothing if it reads nothing of
it. -/
theorem step_reports (t : Tracker) (op : Op) (k : ServiceKey) :
    ((t.step op).2.filter (isOn k)).toList = (turns (t.compared k ++ (op.reading? k).toList)).map (changed k) := by
  cases op with
  | observe host source o =>
    simp only [step, observe_answer, Op.reading?]
    by_cases hk : keyOf host source o = k
    · subst hk
      by_cases hu : o.state = .unknown
      · simp [answerTo, hu, turns_compared]
      · simpa [hu] using answerTo_turn t _ o.state hu
    · simp [hk, answerTo_other hk, turns_compared]
  | success host =>
    simp only [step, success_snd, Op.reading?, Option.toList_none, List.append_nil, turns_compared, List.map_nil]
    split_ifs <;> rfl
  | failure host reason =>
    simp only [step, failure_snd, Op.reading?, Option.toList_none, List.append_nil, turns_compared, List.map_nil]
    split_ifs <;> rfl

/-! ## Runs -/

theorem run_cons (t : Tracker) (op : Op) (ops : List Op) :
    t.run (op :: ops) = (((t.step op).1.run ops).1, (t.step op).2 :: ((t.step op).1.run ops).2) := rfl

theorem run_length (t : Tracker) (ops : List Op) : (t.run ops).2.length = ops.length := by
  induction ops generalizing t with
  | nil => rfl
  | cons op ops ih => rw [run_cons, List.length_cons, ih, List.length_cons]

/-- the answer of a call is what it returns in the state that the calls before it led to -/
theorem run_getElem? (t : Tracker) (ops : List Op) (i : ℕ) :
    (t.run ops).2[i]? = ops[i]?.map fun op => ((t.run (ops.take i)).1.step op).2 := by
  induction ops generalizing t i with
  | nil => simp [run]
  | cons op ops ih =>
    cases i with
    | zero => simp [run]
    | succ i => rw [run_cons, List.getElem?_cons_succ, ih, List.getElem?_cons_succ, List.take_succ_cons, run_cons]

theorem run_compared (t : Tracker) (ops : List Op) (k : ServiceKey) :
    (t.run ops).1.compared k = (t.compared k ++ readings k ops).getLast?.toList := by
  induction ops generalizing t with
  | nil => simp [run, readings, compared_last]
  | cons op ops ih =>
    rw [run_cons, ih, step_compared, readings, readings, List.filterMap_cons]
    cases hr : op.reading? k with
    | none => rw [Option.toList_none, List.append_nil, compared_last]
    | some state => simp [List.getLast?_append, List.getLast?_cons]

/-- **A run** reports on a service the turns of its readings behind the state that the first is compared with. -/
theorem run_reports (t : Tracker) (ops : List Op) (k : ServiceKey) :
    reportsOn k (t.run ops).2 = (turns (t.compared k ++ readings k ops)).map (changed k) := by
  induction ops generalizing t with
  | nil => simp [run, reportsOn, readings, turns_compared]
  | cons op ops ih =>
    rw [run_cons, reportsOn_cons, step_reports, ih, step_compared, ← List.map_append]
    congr 1
    have hrest : readings k (op :: ops) = (op.reading? k).toList ++ readings k ops := by
      simp only [readings, List.filterMap_cons]; cases op.reading? k <;> rfl
    rw [hrest]
    cases hr : op.reading? k with
    | none => simp [turns_compared, compared_last]
    | some state =>
      simp only [compared, Option.toList_some, List.getLast?_append, List.getLast?_singleton, Option.some_or]
      split_ifs
      · simp
      · exact (turns_cons_cons (t.lifecycle k) state (readings k ops)).symm

theorem history_eq (skipFirst : Bool) (k : ServiceKey) (ops : List Op) :
    (start skipFirst).compared k ++ readings k ops = history skipFirst k ops := by
  cases skipFirst <;> rfl

/-- an answer looks at the last of the states before it only -/
theorem answerTo_last (last : List Lifecycle) (k : ServiceKey) (state : Lifecycle) :
    answerTo last.getLast?.toList k state = answerTo last k state := by
  cases h : last.getLast? <;> simp [answerTo, h]

/-- **Service changes.** From an empty tracker, after any sequence of calls:
- the changes returned for a service are the turns of its history, in order;
- an observation returns the turn that it makes itself, from the last state of the history before it, and nothing if
  there is none;
- a call that reads nothing of a service (an unknown state, another service, reachability) returns no change of it;
- and such calls never matter to what is returned for the service. -/
theorem service_changes (skipFirst : Bool) (ops : List Op) :
    let answers := (run (start skipFirst) ops).2
    answers.length = ops.length ∧
    (∀ k, reportsOn k answers = (turns (history skipFirst k ops)).map (changed k)) ∧
    (∀ i host source o, ops[i]? = some (.observe host source o) →
      let k := keyOf host source o
      answers[i]? = some (answerTo (history skipFirst k (ops.take i)) k o.state)) ∧
    (∀ (i : ℕ) op k c, ops[i]? = some op → op.reading? k = none → answers[i]? = some (some c) → isOn k c = false) ∧
    ∀ k ops', readings k ops' = readings k ops →
      reportsOn k (run (start skipFirst) ops').2 = reportsOn k answers := by
  intro answers
  have hreports (k : ServiceKey) (ops : List Op) :
      reportsOn k (run (start skipFirst) ops).2 = (turns (history skipFirst k ops)).map (changed k) := by
    rw [run_reports, history_eq]
  refine ⟨run_length _ _, fun k => hreports k ops, ?_, ?_, ?_⟩
  · intro i host source o hi k
    rw [run_getElem?, hi, Option.map_some, step, observe_answer, run_compared, history_eq, answerTo_last]
  · intro i op k c hi hr hc
    simp only [answers, run_getElem?, hi, Option.map_some, Option.some.injEq] at hc
    have h := step_reports (run (start skipFirst) (ops.take i)).1 op k
    rw [hc, hr, Option.toList_none, List.append_nil, turns_compared] at h
    by_contra hon
    simp [Option.filter, hon] at h
  · intro k ops' h
    rw [hreports, hreports, history, history, h]

/-- two sources of one service, an unknown reading and a failure in between -/
def mixedCalls : List Op :=
  [.observe "nas" "docker" ⟨"db", .running, ""⟩, .failure "nas" "refused",
    .observe "nas" "docker" ⟨"db", .unknown, ""⟩, .observe "nas" "systemd" ⟨"db", .stopped, ""⟩,
    .observe "nas" "docker" ⟨"db", .stopped, ""⟩]

/-- the calls in between do not matter to the change that the last one returns -/
theorem service_changes_mixed :
    let answers := (run (start false) mixedCalls).2
    reportsOn ⟨"nas", "db", "docker"⟩ answers =
      [.service "nas" "db" "docker" .unknown .running, .service "nas" "db" "docker" .running .stopped] ∧
    mixedCalls[4]? = some (.observe "nas" "docker" ⟨"db", .stopped, ""⟩) ∧
    answers[4]? = some (some (.service "nas" "db" "docker" .running .stopped)) := by
  obtain ⟨-, hreports, hanswers, -⟩ := service_changes false mixedCalls
  refine ⟨?_, rfl, ?_⟩
  · rw [hreports]; decide
  · rw [hanswers 4 "nas" "docker" ⟨"db", .stopped, ""⟩ rfl]; decide

end ServiceMonitor.Tracker
