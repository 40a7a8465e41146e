import Mathlib.Data.List.Destutter
import ServiceMonitor.Proofs.Tracker.Changes

/-!
Outages of a host.

An outage is a maximal run of failures of one host. Whatever else the tracker is told in between, the host is reported
unreachable by the failure that begins an outage, for the reason of that failure, and recovered by the answer that ends it.
`turningPoints` picks these outcomes out of what was recorded of the host: the first of every stretch of outcomes that went
the same way, behind a host that counts as answering.

- `step_answer`: one call reports the outcome it records if that goes another way than the host is recorded; `step_silent`: a
  call that records none reports nothing.
- `run_turningPoints`: a run reports the turning points of its outcomes, from any tracker.
- `reachability_reports`: the same from an empty tracker, with the answer of every single call.
-/

namespace ServiceMonitor.Tracker

/-! ## What was recorded of a host -/

/-- how an attempt on a host went -/
inductive Outcome where
  | answered
  | failed (reason : String)
  deriving DecidableEq, Repr

namespace Outcome

def isFailed : Outcome → Bool
  | .failed _ => true
  | .answered => false

/-- what a host is known as behind an outcome -/
def reachability : Outcome → Reachability
  | .answered => .reachable
  | .failed _ => .unreachable

/-- the change that an outcome makes where it goes another way than the one before -/
def change (host : String) : Outcome → Change
  | .answered => .recovered host
  | .failed reason => .unreachable host reason

/-- two outcomes that do not go the same way -/
def Turns (a b : Outcome) : Prop := a.isFailed ≠ b.isFailed

instance : DecidableRel Turns := fun a b => inferInstanceAs (Decidable (a.isFailed ≠ b.isFailed))

end Outcome

/-- the outcome on a host that a call records; an observation and a call for another host record none -/
def Op.outcome? (host : String) : Op → Option Outcome
  | .success h => if h = host then some .answered else none
  | .failure h reason => if h = host then some (.failed reason) else none
  | .observe .. => none

/-- the outcomes on a host, in the order they were recorded -/
def outcomes (host : String) (ops : List Op) : List Outcome := ops.filterMap (Op.outcome? host)

/-- the last outcome on a host was a failure -/
def isDown (host : String) (ops : List Op) : Bool := (outcomes host ops).getLast?.any Outcome.isFailed

/-- the first outcome of every maximal stretch that goes the same way, but for answers in front of all failures -/
def turningPoints (l : List Outcome) : List Outcome := (l.destutter' Outcome.Turns .answered).tail

/-- a change of the reachability of a host -/
def isReachOf (host : String) : Change → Bool
  | .unreachable h _ | .recovered h => h = host
  | .service .. => false

/-- the changes of the reachability of a host among answers, in order -/
def reachReports (host : String) (answers : List (Option Change)) : List Change :=
  answers.filterMap fun a => a.filter (isReachOf host)

theorem reachReports_cons (host : String) (a : Option Change) (answers : List (Option Change)) :
    reachReports host (a :: answers) = (a.filter (isReachOf host)).toList ++ reachReports host answers := by
  simp only [reachReports, List.filterMap_cons]
  cases a.filter (isReachOf host) <;> rfl

theorem change_isReachOf (host : String) (o : Outcome) : isReachOf host (o.change host) = true := by
  cases o <;> simp [Outcome.change, isReachOf]

/-- outcomes that go another way make changes of another kind -/
theorem change_kind_ne {a b : Outcome} (h : a.Turns b) (host : String) :
    (a.change host).kind ≠ (b.change host).kind := by
  cases a <;> cases b <;> simp [Outcome.Turns, Outcome.isFailed, Outcome.change, Change.kind] at h ⊢

/-- a host that has never failed is not down -/
theorem isDown_of_never {host : String} {ops : List Op} (h : ∀ reason, .failed reason ∉ outcomes host ops) :
    isDown host ops = false := by
  rw [isDown]
  cases ho : (outcomes host ops).getLast? with
  | none => rfl
  | some o =>
    cases o with
    | answered => rfl
    | failed reason => exact absurd (List.mem_of_getLast? ho) (h reason)

/-! ## One call -/

theorem step_reachability (t : Tracker) (op : Op) (host : String) :
    (t.step op).1.reachability host = ((op.outcome? host).map Outcome.reachability).getD (t.reachability host) := by
  cases op with
  | observe h source o => simp [step, Op.outcome?]
  | success h =>
    simp only [step, success_reachability, Op.outcome?]
    split_ifs <;> rfl
  | failure h reason =>
    simp only [step, failure_reachability, Op.outcome?]
    split_ifs <;> rfl

/-- what a call returns that records an outcome -/
theorem step_answer {op : Op} {host : String} {o : Outcome} (h : op.outcome? host = some o) (t : Tracker) :
    (t.step op).2 = if o.isFailed = decide (t.reachability host = .unreachable) then none else some (o.change host) := by
  cases op with
  | observe h' source o' => cases h
  | success h' =>
    simp only [Op.outcome?] at h
    split_ifs at h with hh
    subst hh
    cases h
    simp only [step, success_snd, Outcome.isFailed, Outcome.change, Bool.false_eq, decide_eq_false_iff_not, ite_not]
  | failure h' reason =>
    simp only [Op.outcome?] at h
    split_ifs at h with hh
    subst hh
    cases h
    simp only [step, failure_snd, Outcome.isFailed, Outcome.change, Bool.true_eq, decide_eq_true_eq]

/-- a call that records no outcome on a host reports nothing on its reachability -/
theorem step_silent {op : Op} {host : String} (h : op.outcome? host = none) (t : Tracker) :
    (t.step op).2.filter (isReachOf host) = none := by
  cases op with
  | observe h' source o =>
    simp only [step, observe_snd]
    split_ifs <;> rfl
  | success h' =>
    have hh : h' ≠ host := by simpa [Op.outcome?] using h
    simp only [step, success_snd]
    split_ifs <;> simp [isReachOf, hh]
  | failure h' reason =>
    have hh : h' ≠ host := by simpa [Op.outcome?] using h
    simp only [step, failure_snd]
    split_ifs <;> simp [isReachOf, hh]

/-! ## Runs -/

theorem outcomes_cons (host : String) (op : Op) (ops : List Op) :
    outcomes host (op :: ops) = (op.outcome? host).toList ++ outcomes host ops := by
  simp only [outcomes, List.filterMap_cons]
  cases op.outcome? host <;> rfl

theorem cons_tail_destutter' (a : Outcome) (l : List Outcome) :
    a :: (l.destutter' Outcome.Turns a).tail = l.destutter' Outcome.Turns a := by
  induction l with
  | nil => rfl
  | cons b l ih =>
    by_cases h : a.Turns b
    · rw [List.destutter'_cons_pos _ h, List.tail_cons]
    · rw [List.destutter'_cons_neg _ h, ih]

theorem run_reachability (t : Tracker) (ops : List Op) (host : String) :
    (t.run ops).1.reachability host =
      ((outcomes host ops).getLast?.map Outcome.reachability).getD (t.reachability host) := by
  induction ops generalizing t with
  | nil => rfl
  | cons op ops ih =>
    rw [run_cons, ih, step_reachability, outcomes_cons]
    cases op.outcome? host with
    | none => rfl
    | some o => cases h : (outcomes host ops).getLast? <;> simp [List.getLast?_cons, h]

/-- from an empty tracker a host is recorded unreachable as long as its last outcome is a failure -/
theorem start_run_unreachable (skipFirst : Bool) (ops : List Op) (host : String) :
    decide (((start skipFirst).run ops).1.reachability host = .unreachable) = isDown host ops := by
  rw [run_reachability, isDown]
  cases (outcomes host ops).getLast? with
  | none => rfl
  | some o => cases o <;> rfl

/-- **A run** reports on a host the turning points of its outcomes, behind an outcome that went as the host is
recorded. -/
theorem run_turningPoints (t : Tracker) (ops : List Op) (host : String) {last : Outcome}
    (h : decide (t.reachability host = .unreachable) = last.isFailed) :
    reachReports host (t.run ops).2 =
      ((outcomes host ops).destutter' Outcome.Turns last).tail.map (Outcome.change host) := by
  induction ops generalizing t last with
  | nil => rfl
  | cons op ops ih =>
    have hstep := step_reachability t op host
    rw [run_cons, reachReports_cons, outcomes_cons]
    cases ho : op.outcome? host with
    | none =>
      rw [ho, Option.map_none, Option.getD_none] at hstep
      rw [step_silent ho, Option.toList_none, List.nil_append, Option.toList_none, List.nil_append]
      exact ih (t.step op).1 (by rw [hstep]; exact h)
    | some o =>
      rw [ho, Option.map_some, Option.getD_some] at hstep
      have hnext : decide ((t.step op).1.reachability host = .unreachable) = o.isFailed := by
        rw [hstep]; cases o <;> rfl
      rw [step_answer ho, h, Option.toList_some, List.singleton_append]
      by_cases hturn : last.Turns o
      · -- the outcome begins a stretch, and its change stands in front of those to come
        rw [if_neg (Ne.symm hturn), List.destutter'_cons_pos _ hturn, List.tail_cons, ← cons_tail_destutter' o,
          List.map_cons, ← ih (t.step op).1 hnext]
        rw [Option.filter_some, if_pos (change_isReachOf host o), Option.toList_some, List.singleton_append]
      · have hsame : last.isFailed = o.isFailed := not_not.1 hturn
        rw [if_pos hsame.symm, List.destutter'_cons_neg _ hturn, ← ih (t.step op).1 (hnext.trans hsame.symm)]
        rfl

/-- turning points go one way and the other, and the first is a failure -/
theorem turningPoints_turn (l : List Outcome) :
    (turningPoints l).IsChain Outcome.Turns ∧ ∀ o ∈ (turningPoints l).head?, o.isFailed = true := by
  have hchain := List.isChain_destutter' Outcome.Turns l .answered
  rw [← cons_tail_destutter', ← turningPoints, List.isChain_cons] at hchain
  obtain ⟨hfirst, hrest⟩ := hchain
  refine ⟨hrest, fun o ho => ?_⟩
  have hturn := hfirst o ho
  cases o with
  | answered => exact absurd rfl hturn
  | failed reason => rfl

/-- **Reachability reports.** From an empty tracker, after any sequence of calls:
- a failure returns that its host is unreachable, for the reason it was told, unless the outcome before it on the host was a
  failure as well;
- an answer returns that its host has recovered if the outcome before it on the host was a failure, and nothing otherwise;
- a call that records no outcome on a host returns nothing on its reachability;
- so the reports on a host are the turning points of its outcomes: the first failure of every maximal run of failures, and the
  first answer behind each;
- they depend on the outcomes of the host alone;
- they are unreachable and recovered in turn, beginning with unreachable;
- and a host that has never failed is not reported. -/
theorem reachability_reports (skipFirst : Bool) (ops : List Op) (host : String) :
    let answers := (run (start skipFirst) ops).2
    let reports := reachReports host answers
    answers.length = ops.length ∧
    (∀ (i : ℕ) reason, ops[i]? = some (.failure host reason) →
      answers[i]? = some (if isDown host (ops.take i) then none else some (.unreachable host reason))) ∧
    (∀ i : ℕ, ops[i]? = some (.success host) →
      answers[i]? = some (if isDown host (ops.take i) then some (.recovered host) else none)) ∧
    (∀ (i : ℕ) op c, ops[i]? = some op → op.outcome? host = none → answers[i]? = some (some c) →
      isReachOf host c = false) ∧
    reports = (turningPoints (outcomes host ops)).map (Outcome.change host) ∧
    (∀ skipFirst' ops', outcomes host ops' = outcomes host ops →
      reachReports host (run (start skipFirst') ops').2 = reports) ∧
    (reports.map Change.kind).IsChain (· ≠ ·) ∧
    (∀ c ∈ reports.head?, c.kind = .hostUnreachable) ∧
    ∀ i : ℕ, ops[i]? = some (.success host) → (∀ reason, .failed reason ∉ outcomes host (ops.take i)) →
      answers[i]? = some none := by
  intro answers reports
  have hreports (skipFirst : Bool) (ops : List Op) : reachReports host (run (start skipFirst) ops).2 =
      (turningPoints (outcomes host ops)).map (Outcome.change host) :=
    run_turningPoints (start skipFirst) ops host rfl
  have hanswer {i : ℕ} {op : Op} {o : Outcome} (hi : ops[i]? = some op) (ho : op.outcome? host = some o) :
      answers[i]? = some (if o.isFailed = isDown host (ops.take i) then none else some (o.change host)) := by
    rw [run_getElem?, hi, Option.map_some, step_answer ho, start_run_unreachable]
  have hsuccess (i : ℕ) (hi : ops[i]? = some (.success host)) :
      answers[i]? = some (if isDown host (ops.take i) then some (.recovered host) else none) := by
    rw [hanswer hi (o := .answered) (by simp [Op.outcome?])]
    cases isDown host (ops.take i) <;> rfl
  obtain ⟨hchain, hfirst⟩ := turningPoints_turn (outcomes host ops)
  refine ⟨run_length _ _, ?_, hsuccess, ?_, hreports skipFirst ops, ?_, ?_, ?_, ?_⟩
  · intro i reason hi
    rw [hanswer hi (o := .failed reason) (by simp [Op.outcome?])]
    cases isDown host (ops.take i) <;> rfl
  · intro i op c hi ho hc
    rw [run_getElem?, hi, Option.map_some, Option.some_inj] at hc
    have hsilent := step_silent ho (run (start skipFirst) (ops.take i)).1
    rw [hc] at hsilent
    simpa [Option.filter] using hsilent
  · intro skipFirst' ops' h
    rw [hreports, h]
    exact (hreports skipFirst ops).symm
  · simp only [reports, answers, hreports, List.map_map, List.isChain_map]
    exact hchain.imp fun a b h => change_kind_ne h host
  · intro c hc
    simp only [reports, answers, hreports, List.head?_map, Option.mem_def, Option.map_eq_some_iff] at hc
    obtain ⟨o, ho, rfl⟩ := hc
    have hfailed := hfirst o ho
    cases o with
    | answered => cases hfailed
    | failed reason => rfl
  · intro i hi hnever
    rw [hsuccess i hi, isDown_of_never hnever]
    rfl

/-- two outages of one host, with a second reason in the first, calls for another host in between -/
def flappingCalls : List Op :=
  [.success "nas", .failure "nas" "refused", .failure "edge" "timeout", .failure "nas" "timeout",
    .observe "nas" "docker" ⟨"db", .running, ""⟩, .success "nas", .success "edge", .success "nas",
    .failure "nas" "closed"]

/-- the first reason of each outage is reported, and one recovery between them -/
theorem reachability_reports_flapping :
    let answers := (run (start true) flappingCalls).2
    flappingCalls[5]? = some (.success "nas") ∧ answers[5]? = some (some (.recovered "nas")) ∧
    reachReports "nas" answers =
      [.unreachable "nas" "refused", .recovered "nas", .unreachable "nas" "closed"] ∧
    flappingCalls[0]? = some (.success "nas") ∧ answers[0]? = some none := by
  obtain ⟨-, -, hsuccess, -, hreports, -, -, -, hnever⟩ := reachability_reports true flappingCalls "nas"
  refine ⟨rfl, ?_, ?_, rfl, hnever 0 rfl (by simp [outcomes])⟩
  · rw [hsuccess 5 rfl]; decide
  · rw [hreports]; decide

end ServiceMonitor.Tracker
