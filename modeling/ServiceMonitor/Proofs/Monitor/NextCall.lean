import ServiceMonitor.Proofs.Monitor.Apart
import ServiceMonitor.Proofs.Monitor.Delays

/-!
The next call of a task, and its time.

Between two attempts a task has nothing left to report and no answer to wait for: it waits for the time of its next
call. Nothing but a stop keeps it from making that call, and neither the other tasks nor the turns that are taken move
it.

- `Worker.nextCall?`: the call and its time, read off the worker.
- `next_call`: it is the first one that the worker makes, at that time, and it is made by then.
- `turn_taken`: a worker takes its turn when its time has come, and nothing else happens to it before.
- `report_told`: a report is recorded and published, and holds up what comes behind it.
- `polls_on`: a task that polls makes list calls only, for good.
- `ended_stays`: a task that has ended makes no call, and no attempt of it ends.
-/

namespace ServiceMonitor.Monitor

/-- the next call of a worker that waits for nothing but its time, and when it is made -/
def Worker.nextCall? (p : Policy) (now : ℕ) (w : Worker) : Option (ℕ × Call) :=
  match w.phase with
  | .ticking tick => some (max now tick.fires, .list w.lists)
  | .subscribing => some (now, .subscribe w.subscribes)
  | .pausing until_ => some (max now until_, .subscribe w.subscribes)
  | .reporting free [] (.tick next) => some (max (max now free) next.fires, .list w.lists)
  | .reporting free [] .reopen =>
    if p.backoff.exhausted w.failures then some (max now free, .list w.lists)
    else
      (p.backoff.next? (w.failures - 1)).map fun delay =>
        (max now free + p.clock.up delay.nanos, .subscribe w.subscribes)
  | _ => none

/-- the worker polls, or is about to because the subscription has failed too often -/
def Worker.polls (p : Policy) (w : Worker) : Bool :=
  match w.phase with
  | .ticking _ | .polling .. | .reporting _ _ (.tick _) | .done => true
  | .reporting _ [] .reopen => p.backoff.exhausted w.failures
  | _ => false

/-- why an attempt failed, if it did; that there are no subscriptions is no failure -/
def Attempt.failure? : Attempt → Option String
  | .listed (.error e) => some e.message
  | .opened (.error .unsupported) => none
  | .opened (.error e) => some e.message
  | .pushed (.fault e) => some e.message
  | .pushed .closed => some Worker.closedByProvider
  | .listed (.ok _) | .opened (.ok _) | .pushed (.observation _) | .abandoned => none

/-- however a run goes on, this is the first call that worker `i` makes, at its time; unless the monitor is stopped
the clock does not pass this time before -/
def CallsNext (c : Setup) (i : ℕ) (s : St) (x : ℕ × Call) : Prop :=
  ∀ more, (∃ rest, callsIn c i s more = x :: rest) ∨
    callsIn c i s more = [] ∧ ((run c s more).lifecycle = .stopped ∨ (run c s more).now ≤ x.1)

/-- a call is a list call -/
def Call.isList : Call → Bool
  | .list _ => true
  | .subscribe _ => false

section

variable {c : Setup} {i : ℕ} {t : Target} {s s' : St} {w : Worker} {x : ℕ × Call} {p : Policy}

/-! ## The clock -/

/-- before the start a worker is as it will be spawned; a worker that is anywhere else is there -/
theorem worker_present (h : (s.workerAt i).phase ≠ .fresh) : s.workers[i]? = some (s.workerAt i) := by
  rw [St.workerAt] at h ⊢
  cases hw : s.workers[i]? with
  | none => rw [hw] at h; exact absurd rfl h
  | some w => rfl

/-- the clock goes on, or it stands still -/
theorem step_now (c : Setup) (s : St) (a : Act) :
    (step c s a).now = s.now ∨
      ∃ time, a = .tick time ∧ s.canTick time = true ∧ step c s a = { s with now := time } := by
  cases step_workers c s a with
  | same _ now => exact Or.inl now
  | @ticks time can _ _ => exact Or.inr ⟨time, rfl, can, by simp [step, can]⟩
  | spawns _ _ now => exact Or.inl now
  | goes _ _ _ _ now => exact Or.inl now
  | quits _ _ _ now => exact Or.inl now

/-- the clock does not pass the time of a worker, and stands still when it has come -/
theorem tick_waits {time due : ℕ} (hcan : s.canTick time = true) (hdue : (s.workerAt i).phase.due? = some due)
    (hfresh : (s.workerAt i).phase ≠ .fresh) : s.now < due ∧ s.now ≤ time ∧ time ≤ due := by
  simp only [St.canTick, Bool.and_eq_true, decide_eq_true_eq, List.all_eq_true, Bool.not_eq_true'] at hcan
  obtain ⟨hle, hall⟩ := hcan
  obtain ⟨⟨hready, -⟩, htime⟩ := hall _ (List.mem_of_getElem? (worker_present hfresh))
  simp only [St.isReady, hdue, decide_eq_false_iff_not, not_le] at hready
  rw [hdue] at htime
  exact ⟨hready, hle, of_decide_eq_true htime⟩

/-! ## One act and the next call -/

/-- the next call is not in the past -/
theorem nextCall_ge {now : ℕ} (h : w.nextCall? p now = some x) : now ≤ x.1 := by
  simp only [Worker.nextCall?] at h
  split at h
  · cases h; exact le_max_left _ _
  · cases h; exact le_rfl
  · cases h; exact le_max_left _ _
  · cases h; exact (le_max_left _ _).trans (le_max_left _ _)
  · split_ifs at h
    · cases h; exact le_max_left _ _
    · obtain ⟨delay, -, rfl⟩ := Option.map_eq_some_iff.1 h
      exact (le_max_left _ _).trans (Nat.le_add_right _ _)
  · cases h

/-- a worker that has told everything is on its stream or has a next call, where delays are defined -/
theorem nextCall_of_told (delays : p.HasDelays) (now : ℕ) {free : ℕ} {next : Next}
    (hphase : w.phase = .reporting free [] next) :
    (∃ stream, next = .listen stream) ∨ ∃ x, w.nextCall? p now = some x := by
  simp only [Worker.nextCall?, hphase]
  cases next with
  | tick due => exact Or.inr ⟨_, rfl⟩
  | listen stream => exact Or.inl ⟨stream, rfl⟩
  | reopen =>
    refine Or.inr ?_
    dsimp only
    split_ifs with hex
    · exact ⟨_, rfl⟩
    · obtain ⟨delay, hdelay⟩ := delays.next hex
      exact ⟨_, by rw [hdelay]; rfl⟩

/-- a worker with a next call waits for a time, has told everything and has begun -/
theorem nextCall_waits {now : ℕ} (h : w.nextCall? p now = some x) :
    (∃ due, w.phase.due? = some due ∧ ∀ later, now < due → now ≤ later → later ≤ due → w.nextCall? p later = some x) ∧
      w.phase.pending = [] ∧ w.phase ≠ .fresh ∧ w.phase ≠ .done := by
  obtain ⟨phase, startup, failures, lists, subscribes⟩ := w
  simp only [Worker.nextCall?] at h
  cases phase with
  | ticking tick =>
    refine ⟨⟨tick.fires, rfl, fun later hlt _ hle => ?_⟩, rfl, by simp, by simp⟩
    rw [← h]
    simp [Worker.nextCall?, hlt.le, hle]
  | subscribing => exact ⟨⟨0, rfl, fun later hlt _ _ => absurd hlt (Nat.not_lt_zero _)⟩, rfl, by simp, by simp⟩
  | pausing until_ =>
    refine ⟨⟨until_, rfl, fun later hlt _ hle => ?_⟩, rfl, by simp, by simp⟩
    rw [← h]
    simp [Worker.nextCall?, hlt.le, hle]
  | reporting free reports next =>
    cases reports with
    | cons r rs => cases h
    | nil =>
      refine ⟨⟨free, rfl, fun later hlt _ hle => ?_⟩, rfl, by simp, by simp⟩
      rw [← h]
      cases next <;> simp [Worker.nextCall?, hlt.le, hle]
  | _ => cases h

/-- **One turn.** A worker whose time has come makes its next call, or comes closer to it. -/
theorem proceed_nextCall {now due : ℕ} (h : w.nextCall? p now = some x) (hdue : w.phase.due? = some due)
    (hready : due ≤ now) :
    (w.callsTo (w.proceed p t now) = [x.2] ∧ x.1 = now) ∨
      (w.callsTo (w.proceed p t now) = [] ∧ (w.proceed p t now).nextCall? p now = some x) := by
  obtain ⟨phase, startup, failures, lists, subscribes⟩ := w
  simp only [Worker.nextCall?] at h
  cases phase with
  | ticking d =>
    cases hdue
    cases h
    refine Or.inl ⟨by simp [Worker.callsTo, Worker.proceed, Worker.list], max_eq_left hready⟩
  | subscribing =>
    cases h
    exact Or.inl ⟨by simp [Worker.callsTo, Worker.proceed, Worker.subscribe], rfl⟩
  | pausing until_ =>
    cases hdue
    refine Or.inr ⟨by simp [Worker.callsTo, Worker.proceed], ?_⟩
    rw [← h]
    simp [Worker.nextCall?, Worker.proceed, hready]
  | reporting free reports next =>
    cases hdue
    cases reports with
    | cons r rs => cases h
    | nil =>
      refine Or.inr ?_
      cases next with
      | tick d =>
        refine ⟨by simp [Worker.callsTo, Worker.proceed], ?_⟩
        rw [← h]
        simp [Worker.nextCall?, Worker.proceed, hready]
      | listen stream => cases h
      | reopen =>
        dsimp only at h
        simp only [Worker.proceed, Worker.reopen]
        by_cases hex : p.backoff.exhausted failures = true
        · rw [if_pos hex] at h ⊢
          refine ⟨by simp [Worker.callsTo], ?_⟩
          rw [← h]
          simp [Worker.nextCall?, hready]
        · rw [if_neg hex] at h ⊢
          obtain ⟨delay, hdelay, rfl⟩ := Option.map_eq_some_iff.1 h
          rw [hdelay]
          refine ⟨by simp [Worker.callsTo], ?_⟩
          simp [Worker.nextCall?, hready]
  | _ => cases h

/-- **One act.** The next call stays the next one until it is made or a stop is noticed. -/
theorem step_nextCall (ht : c.targets[i]? = some t) (hsound : s.Sound)
    (h : (s.workerAt i).nextCall? c.policy s.now = some x) (a : Act) :
    ((s.workerAt i).callsTo ((step c s a).workerAt i) = [x.2] ∧ x.1 = s.now) ∨
      (s.workerAt i).callsTo ((step c s a).workerAt i) = [] ∧
        ((step c s a).lifecycle = .stopped ∧ ((step c s a).workerAt i).phase = .done ∨
          ((step c s a).workerAt i).nextCall? c.policy (step c s a).now = some x) := by
  obtain ⟨⟨due, hdue, hlater⟩, htold, hfresh, -⟩ := nextCall_waits h
  rcases step_now c s a with hnow | ⟨time, rfl, hcan, hstep⟩
  · have hworker := step_worker ht hsound a
    generalize endedBy i s a = ended at hworker
    cases hworker with
    | rests worker => rw [worker, hnow, callsTo_self]; exact Or.inr ⟨rfl, Or.inr h⟩
    | other _ _ _ worker => rw [worker, hnow, callsTo_self]; exact Or.inr ⟨rfl, Or.inr h⟩
    | tells _ phase => rw [phase] at htold; cases htold
    | proceeds ready _ worker =>
      simp only [St.isReady, hdue, decide_eq_true_eq] at ready
      rw [worker, hnow]
      rcases proceed_nextCall (t := t) h hdue ready with hmade | ⟨hnone, hnext⟩
      · exact Or.inl hmade
      · exact Or.inr ⟨hnone, Or.inr hnext⟩
    | quits must worker =>
      simp only [St.mustQuit, Bool.and_eq_true, decide_eq_true_eq] at must
      rw [worker]
      exact Or.inr ⟨by simp [Worker.callsTo, Worker.quit], Or.inl ⟨stopped_stays must.1 a, rfl⟩⟩
  · obtain ⟨hlt, hle, htime⟩ := tick_waits hcan hdue hfresh
    rw [hstep, show St.workerAt { s with now := time } i = s.workerAt i from rfl, callsTo_self]
    exact Or.inr ⟨rfl, Or.inr (hlater time hlt hle htime)⟩

/-! ## Stops -/

theorem run_stopped (h : s.lifecycle = .stopped) (more : List Act) : (run c s more).lifecycle = .stopped := by
  induction more using List.reverseRecOn with
  | nil => exact h
  | append_singleton more a ih => rw [run_snoc]; exact stopped_stays ih a

theorem run_unstopped (h : s.lifecycle ≠ .stopped) {more : List Act} (hmore : .stop ∉ more) :
    (run c s more).lifecycle ≠ .stopped := by
  induction more using List.reverseRecOn with
  | nil => exact h
  | append_singleton more a ih =>
    simp only [List.mem_append, List.mem_singleton, not_or] at hmore
    rw [run_snoc, step_lifecycle]
    cases a with
    | start => split_ifs <;> simp [ih hmore.1]
    | stop => exact absurd rfl hmore.2
    | _ => exact ih hmore.1

theorem attempts_append (acts more : List Act) :
    attempts c i s (acts ++ more) = attempts c i s acts ++ attempts c i (run c s acts) more := by
  induction acts generalizing s with
  | nil => rfl
  | cons a acts ih => rw [List.cons_append, attempts, attempts, ih, List.append_assoc]; rfl

/-! ## Turns -/

/-- **In time.** Unless the monitor is stopped, a worker takes its next turn when its time has come, and nothing else
happens to it before. -/
theorem turn_taken (ht : c.targets[i]? = some t) (hsound : s.Sound) (hrunning : s.lifecycle ≠ .stopped)
    (hw : s.workers[i]? = some w) {due : ℕ} (hdue : w.phase.due? = some due) {more : List Act} (hmore : .stop ∉ more)
    (hlate : max s.now due < (run c s more).now) :
    ∃ before after, more = before ++ .go i :: after ∧ (run c s before).workerAt i = w ∧
      (run c s before).now = max s.now due := by
  induction more generalizing s with
  | nil => exact absurd hlate (not_lt.2 (le_max_left _ _))
  | cons a more ih =>
    rw [List.mem_cons, not_or] at hmore
    by_cases hgo : a = .go i ∧ s.isReady w = true
    · obtain ⟨rfl, hready⟩ := hgo
      simp only [St.isReady, hdue, decide_eq_true_eq] at hready
      exact ⟨[], more, rfl, workerAt_eq hw, (max_eq_left hready).symm⟩
    · -- the worker stays where it is, and the clock does not pass its time
      have hnot : .stop ∉ [a] := by simpa using hmore.1
      have hlifecycle : (step c s a).lifecycle ≠ .stopped := run_unstopped hrunning hnot
      have hnext : (step c s a).workers[i]? = some w ∧ max (step c s a).now due = max s.now due := by
        cases step_workers c s a with
        | same workers now => rw [workers, now]; exact ⟨hw, rfl⟩
        | @ticks time can workers now =>
          simp only [St.canTick, Bool.and_eq_true, decide_eq_true_eq, List.all_eq_true] at can
          have hle := (can.2 w (List.mem_of_getElem? hw)).2
          rw [hdue, decide_eq_true_eq] at hle
          rw [workers, now, max_eq_right hle, max_eq_right (can.1.trans hle)]
          exact ⟨hw, rfl⟩
        | spawns idle workers => rw [hsound idle] at hw; cases hw
        | @goes j t' w' _ worker ready workers now =>
          have hne : j ≠ i := by
            rintro rfl
            rw [hw] at worker
            cases worker
            exact hgo ⟨rfl, ready⟩
          rw [workers, now, List.getElem?_set_ne hne]
          exact ⟨hw, rfl⟩
        | quits _ must =>
          simp only [St.mustQuit, Bool.and_eq_true, decide_eq_true_eq] at must
          exact absurd must.1 hrunning
      obtain ⟨before, after, rfl, hat, hnow⟩ :=
        ih (step_sound hsound a) hlifecycle hnext.1 hmore.2 (hnext.2 ▸ hlate)
      exact ⟨a :: before, after, rfl, hat, hnow.trans hnext.2⟩

/-! ## Failures -/

/-- a worker that goes on from a failure reports it at once, if it goes on at all -/
theorem proceed_failed {now : ℕ} {a : Attempt} {reason : String} (ha : w.phase.attempt? = some a)
    (hfailed : a.failure? = some reason) (hdone : (w.proceed p t now).phase ≠ .done) :
    ∃ next, (w.proceed p t now).phase = .reporting now [.failure reason] next := by
  obtain ⟨phase, startup, failures, lists, subscribes⟩ := w
  cases phase with
  | polling due ends answer =>
    cases ha
    cases answer with
    | ok os => cases hfailed
    | error e =>
      cases hfailed
      simp only [Worker.proceed] at hdone ⊢
      split_ifs at hdone ⊢
      · exact absurd rfl hdone
      · exact ⟨_, rfl⟩
  | resyncing stream ends answer =>
    cases ha
    cases answer with
    | ok os => cases hfailed
    | error e => cases hfailed; exact ⟨_, rfl⟩
  | opening ends answer =>
    cases ha
    cases answer with
    | ok stream => cases hfailed
    | error e =>
      have hu : e ≠ .unsupported := by rintro rfl; cases hfailed
      obtain rfl : e.message = reason := by cases e <;> cases hfailed <;> rfl
      rw [proceed_opening_error hu] at hdone ⊢
      split_ifs at hdone ⊢
      · exact absurd rfl hdone
      · exact ⟨_, rfl⟩
  | listening item rest =>
    cases item with
    | none => cases ha
    | some item =>
      obtain ⟨due, item⟩ := item
      cases ha
      cases item <;> cases hfailed <;> exact ⟨_, rfl⟩
  | _ => cases ha

/-- a turn that ends an attempt takes the worker to its next phase -/
theorem step_attempt (ht : c.targets[i]? = some t) {a : Attempt} (hended : endedBy i s (.go i) = [a]) :
    (s.workerAt i).phase.attempt? = some a ∧ (step c s (.go i)).now = s.now ∧
      (step c s (.go i)).workerAt i = (s.workerAt i).proceed c.policy t s.now := by
  simp only [endedBy] at hended
  cases hw : s.workers[i]? with
  | none => rw [hw] at hended; cases hended
  | some w =>
    rw [hw] at hended
    simp only [true_and] at hended
    split_ifs at hended with hready
    have ha : w.phase.attempt? = some a := by
      cases hattempt : w.phase.attempt? with
      | none => rw [hattempt] at hended; cases hended
      | some b => rw [hattempt] at hended; cases hended; rfl
    rw [workerAt_eq hw]
    rcases step_go_cases c s i with ⟨t', w', ht', hw', -, hstep⟩ | ⟨hnone, -⟩
    · obtain rfl := Option.some.inj (ht.symm.trans ht')
      obtain rfl := Option.some.inj (hw.symm.trans hw')
      rcases go_cases c.policy (c.hold s.log.length) t s.now s.tracker w with ⟨_, _, _, _, _, hphase, -⟩ | ⟨-, hgo⟩
      · rw [hphase] at ha
        cases ha
      · rw [hgo] at hstep
        exact ⟨ha, by rw [hstep], workerAt_set hw (by rw [hstep])⟩
    · rw [hnone t w ht hw] at hready
      cases hready

/-- how long the publishing of what a report has changed takes -/
def Setup.holds (c : Setup) (t : Target) (s : St) (r : Report) : ℕ :=
  ((Worker.tell t s.tracker r).2.map (c.hold s.log.length)).getD 0

/-- a report is made: it is recorded and published, and the next thing waits until that is over -/
theorem report_told (ht : c.targets[i]? = some t) {free : ℕ} {r : Report} {rs : List Report} {next : Next}
    (hphase : (s.workerAt i).phase = .reporting free (r :: rs) next) (hfree : free ≤ s.now) :
    (step c s (.go i)).tracker = (Worker.tell t s.tracker r).1 ∧ (step c s (.go i)).now = s.now ∧
      (step c s (.go i)).workerAt i = { s.workerAt i with phase := .reporting (s.now + c.holds t s r) rs next } := by
  have hw := worker_present (s := s) (i := i) (by simp [hphase])
  have hready : s.isReady (s.workerAt i) = true := by simp [St.isReady, hphase, Phase.due?, hfree]
  rcases step_go_cases c s i with ⟨t', w, ht', hw', -, hstep⟩ | ⟨hnone, -⟩
  · obtain rfl : t = t' := Option.some.inj (ht.symm.trans ht')
    obtain rfl := Option.some.inj (hw.symm.trans hw')
    have hgo : (s.workerAt i).go c.policy (c.hold s.log.length) t s.now s.tracker =
        ({ s.workerAt i with phase := .reporting (s.now + c.holds t s r) rs next }, Worker.tell t s.tracker r) := by
      simp only [Worker.go, hphase]
      rfl
    rw [hgo] at hstep
    exact ⟨by rw [hstep], by rw [hstep], workerAt_set hw (by rw [hstep])⟩
  · rw [hnone t _ ht hw] at hready
    cases hready

/-! ## Tasks that have ended -/

/-- a worker that has ended stays as it is -/
theorem step_ended (ht : c.targets[i]? = some t) (hsound : s.Sound) (hdone : (s.workerAt i).phase = .done) (a : Act) :
    (step c s a).workerAt i = s.workerAt i ∧ endedBy i s a = [] := by
  have hrests := done_rests (s := s) hdone
  have hstep := step_worker ht hsound a
  generalize endedBy i s a = ended at hstep
  cases hstep with
  | rests worker => exact ⟨worker, rfl⟩
  | other _ _ _ worker => exact ⟨worker, rfl⟩
  | tells ready => rw [hrests.1] at ready; cases ready
  | proceeds ready => rw [hrests.1] at ready; cases ready
  | quits must => rw [hrests.2] at must; cases must

/-- **Ended for good.** A task that has ended makes no call, and no attempt of it ends. -/
theorem ended_stays (ht : c.targets[i]? = some t) (hsound : s.Sound) (hdone : (s.workerAt i).phase = .done)
    (more : List Act) :
    (run c s more).workerAt i = s.workerAt i ∧ callsIn c i s more = [] ∧ attempts c i s more = [] := by
  induction more generalizing s with
  | nil => exact ⟨rfl, rfl, rfl⟩
  | cons a more ih =>
    obtain ⟨hworker, hended⟩ := step_ended ht hsound hdone a
    obtain ⟨hrun, hcalls, hattempts⟩ := ih (step_sound hsound a) (by rw [hworker]; exact hdone)
    refine ⟨hrun.trans hworker, ?_, ?_⟩
    · rw [callsIn, hworker, callsTo_self, hcalls]
      rfl
    · rw [attempts, hended, hattempts]
      rfl

/-! ## Runs -/

/-- **The next call** is the first that the worker makes, and it is made in time. -/
theorem next_call (ht : c.targets[i]? = some t) (hsound : s.Sound)
    (h : (s.workerAt i).nextCall? c.policy s.now = some x) : CallsNext c i s x := by
  intro more
  induction more generalizing s with
  | nil => exact Or.inr ⟨rfl, Or.inr (nextCall_ge h)⟩
  | cons a more ih =>
    rw [callsIn]
    rcases step_nextCall ht hsound h a with ⟨hmade, htime⟩ | ⟨hmade, ⟨hstopped, hdone⟩ | hnext⟩
    · refine Or.inl ⟨callsIn c i (step c s a) more, ?_⟩
      rw [hmade, ← htime]
      rfl
    · obtain ⟨-, hcalls, -⟩ := ended_stays ht (step_sound hsound a) hdone more
      rw [hmade, hcalls]
      exact Or.inr ⟨rfl, Or.inl (run_stopped hstopped more)⟩
    · rw [hmade]
      exact ih (step_sound hsound a) hnext

/-- a worker that polls goes on polling, and makes list calls -/
theorem proceed_polls (now : ℕ) (h : w.polls p = true) (htold : w.phase.pending = []) :
    (w.proceed p t now).polls p = true ∧ ∀ call ∈ w.callsTo (w.proceed p t now), call.isList = true := by
  obtain ⟨phase, startup, failures, lists, subscribes⟩ := w
  cases phase with
  | ticking due => exact ⟨rfl, by simp [Worker.callsTo, Worker.proceed, Worker.list, Call.isList]⟩
  | polling due ends answer =>
    simp only [Worker.proceed]
    split <;> exact ⟨rfl, by simp [Worker.callsTo]⟩
  | reporting free reports next =>
    simp only [Phase.pending] at htold
    subst htold
    cases next with
    | tick due => exact ⟨rfl, by simp [Worker.callsTo, Worker.proceed]⟩
    | listen stream => cases h
    | reopen =>
      have hex : p.backoff.exhausted failures = true := h
      simp only [Worker.proceed, Worker.reopen, hex, if_true]
      exact ⟨rfl, by simp [Worker.callsTo]⟩
  | done => exact ⟨rfl, by simp [Worker.callsTo, Worker.proceed]⟩
  | _ => cases h

theorem step_polls (ht : c.targets[i]? = some t) (hsound : s.Sound) (h : (s.workerAt i).polls c.policy = true)
    (a : Act) :
    ((step c s a).workerAt i).polls c.policy = true ∧
      ∀ call ∈ (s.workerAt i).callsTo ((step c s a).workerAt i), call.isList = true := by
  have hworker := step_worker ht hsound a
  generalize endedBy i s a = ended at hworker
  cases hworker with
  | rests worker => rw [worker]; exact ⟨h, by simp⟩
  | other _ _ _ worker => rw [worker]; exact ⟨h, by simp⟩
  | @tells free busy r rs next _ phase worker =>
    rw [worker]
    refine ⟨?_, by simp [Worker.callsTo]⟩
    simp only [Worker.polls, phase] at h ⊢
    cases next with
    | tick due => rfl
    | _ => cases h
  | proceeds _ told worker => rw [worker]; exact proceed_polls s.now h told
  | quits _ worker => rw [worker]; exact ⟨rfl, by simp [Worker.callsTo, Worker.quit]⟩

/-- **Polling for good.** A task that polls makes list calls only, for as long as it runs. -/
theorem polls_on (ht : c.targets[i]? = some t) (hsound : s.Sound) (h : (s.workerAt i).polls c.policy = true)
    (more : List Act) :
    ((run c s more).workerAt i).polls c.policy = true ∧ ∀ x ∈ callsIn c i s more, x.2.isList = true := by
  induction more generalizing s with
  | nil => exact ⟨h, by simp [callsIn]⟩
  | cons a more ih =>
    obtain ⟨hpolls, hcalls⟩ := step_polls ht hsound h a
    obtain ⟨hrun, hmore⟩ := ih (step_sound hsound a) hpolls
    refine ⟨hrun, fun x hx => ?_⟩
    rw [callsIn, List.mem_append, List.mem_map] at hx
    rcases hx with ⟨call, hcall, rfl⟩ | hx
    · exact hcalls call hcall
    · exact hmore x hx

end

end ServiceMonitor.Monitor
