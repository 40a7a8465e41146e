import ServiceMonitor.Proofs.Monitor.WorkerStep

/-!
Starts, stops, and what they leave behind.

A monitor is started once and not after a stop. A stop has returned when no task is left (`St.isOver`).

- `step_workers`: one inversion for what an act does to the workers as a whole.
- `run_lifecycle`: starts and stops so far decide what the next start is answered.
- `over_stays`, `quit_stays`: where a task has ended, nothing happens any more.
-/

namespace ServiceMonitor.Monitor

/-! ## One act and the workers -/

/-- what an act does to the workers and the clock -/
inductive WorkersStep (c : Setup) (s s' : St) : Act → Prop
  | same {a : Act} (workers : s'.workers = s.workers) (now : s'.now = s.now) : WorkersStep c s s' a
  | ticks {time : ℕ} (can : s.canTick time = true) (workers : s'.workers = s.workers) (now : s'.now = time) :
    WorkersStep c s s' (.tick time)
  | spawns (idle : s.lifecycle = .idle) (workers : s'.workers = c.targets.map fun _ => .spawned)
    (now : s'.now = s.now) : WorkersStep c s s' .start
  | goes {j : ℕ} {t : Target} {w : Worker} (target : c.targets[j]? = some t) (worker : s.workers[j]? = some w)
    (ready : s.isReady w = true)
    (workers : s'.workers = s.workers.set j (w.go c.policy (c.hold s.log.length) t s.now s.tracker).1)
    (now : s'.now = s.now) : WorkersStep c s s' (.go j)
  | quits {j : ℕ} {w : Worker} (worker : s.workers[j]? = some w) (must : s.mustQuit w = true)
    (workers : s'.workers = s.workers.set j w.quit) (now : s'.now = s.now) : WorkersStep c s s' (.quit j)

theorem step_workers (c : Setup) (s : St) (a : Act) : WorkersStep c s (step c s a) a := by
  cases a with
  | start =>
    cases hl : s.lifecycle with
    | idle => exact .spawns hl (by simp [step, hl]) (by simp [step, hl])
    | running => exact .same (by simp [step, hl]) (by simp [step, hl])
    | stopped => exact .same (by simp [step, hl]) (by simp [step, hl])
  | stop => exact .same rfl rfl
  | go j =>
    rcases step_go_cases c s j with ⟨t, w, ht, hw, hr, hstep⟩ | ⟨-, hstep⟩
    · exact .goes ht hw hr (by rw [hstep]) (by rw [hstep])
    · exact .same (by rw [hstep]) (by rw [hstep])
  | quit j =>
    cases hw : s.workers[j]? with
    | none => exact .same (by simp [step, hw]) (by simp [step, hw])
    | some w =>
      by_cases hq : s.mustQuit w = true
      · exact .quits hw hq (by simp [step, hw, hq]) (by simp [step, hw, hq])
      · exact .same (by simp [step, hw, hq]) (by simp [step, hw, hq])
  | tick time =>
    by_cases hcan : s.canTick time = true
    · exact .ticks hcan (by simp [step, hcan]) (by simp [step, hcan])
    · exact .same (by simp [step, hcan]) (by simp [step, hcan])

/-! ## Starts and stops -/

theorem step_lifecycle (c : Setup) (s : St) (a : Act) :
    (step c s a).lifecycle =
      match a with
      | .start => if s.lifecycle = .idle then .running else s.lifecycle
      | .stop => .stopped
      | .go _ | .quit _ | .tick _ => s.lifecycle := by
  cases a with
  | start => cases hl : s.lifecycle <;> simp [step, hl]
  | stop => rfl
  | go j => rcases step_go_cases c s j with ⟨_, _, -, -, -, hstep⟩ | ⟨-, hstep⟩ <;> rw [hstep]
  | quit j => simp only [step]; split; split_ifs <;> rfl; rfl
  | tick time => simp only [step]; split_ifs <;> rfl

/-- the lifecycle behind a run of acts -/
theorem run_lifecycle (c : Setup) (acts : List Act) :
    (run c (start c) acts).lifecycle =
      if .stop ∈ acts then .stopped else if .start ∈ acts then .running else .idle := by
  induction acts using List.reverseRecOn with
  | nil => rfl
  | append_singleton acts a ih =>
    rw [run_snoc, step_lifecycle, ih]
    cases a <;> by_cases hstop : Act.stop ∈ acts <;> by_cases hstart : Act.start ∈ acts <;> simp [hstop, hstart]

/-- what a start is answered behind these acts -/
def startAnswer (acts : List Act) : Except MonitorError Unit :=
  if .stop ∈ acts then .error .stopped else if .start ∈ acts then .error .alreadyStarted else .ok ()

theorem startable_eq (c : Setup) (acts : List Act) : (run c (start c) acts).startable = startAnswer acts := by
  rw [St.startable, run_lifecycle, startAnswer]
  by_cases hstop : Act.stop ∈ acts
  · simp [hstop]
  · by_cases hstart : Act.start ∈ acts <;> simp [hstop, hstart]

theorem stopped_stays {c : Setup} {s : St} (h : s.lifecycle = .stopped) (a : Act) :
    (step c s a).lifecycle = .stopped := by
  rw [step_lifecycle]
  cases a <;> simp [h]

theorem start_accepted {c : Setup} {s : St} (h : s.startable = .ok ()) :
    (step c s .start).workers = c.targets.map fun _ => .spawned := by
  cases hl : s.lifecycle <;> simp [St.startable, hl] at h
  simp [step, hl]

theorem start_rejected {c : Setup} {s : St} (h : s.startable ≠ .ok ()) : step c s .start = s := by
  cases hl : s.lifecycle <;> simp [St.startable, hl] at h
  all_goals simp [step, hl]

/-! ## What has ended -/

/-- a stop was called, and it has returned: no task is left -/
def St.isOver (s : St) : Bool := s.lifecycle = .stopped && s.runningTasks = 0

theorem isDone_iff {phase : Phase} : phase.isDone = true ↔ phase = .done := by
  cases phase <;> simp [Phase.isDone]

theorem runningTasks_eq_zero {s : St} : s.runningTasks = 0 ↔ ∀ w ∈ s.workers, w.phase = .done := by
  simp [St.runningTasks, List.filter_eq_nil_iff, isDone_iff]

theorem done_rests {s : St} {w : Worker} (h : w.phase = .done) : s.isReady w = false ∧ s.mustQuit w = false := by
  simp [St.isReady, St.mustQuit, h, Phase.due?, Phase.isWaiting]

/-- where every task has ended behind a stop, an act moves the clock and nothing else -/
theorem over_step {c : Setup} {s : St} (h : s.isOver = true) (a : Act) : ∃ time, step c s a = { s with now := time } := by
  simp only [St.isOver, Bool.and_eq_true, decide_eq_true_eq, runningTasks_eq_zero] at h
  obtain ⟨hstopped, hdone⟩ := h
  cases a with
  | start => exact ⟨s.now, start_rejected (by simp [St.startable, hstopped])⟩
  | stop => exact ⟨s.now, congrArg (fun l => { s with lifecycle := l }) hstopped.symm⟩
  | go j =>
    rcases step_go_cases c s j with ⟨t, w, -, hw, hr, -⟩ | ⟨-, hstep⟩
    · rw [(done_rests (hdone w (List.mem_of_getElem? hw))).1] at hr
      cases hr
    · exact ⟨s.now, hstep⟩
  | quit j =>
    cases hw : s.workers[j]? with
    | none => exact ⟨s.now, by simp [step, hw]⟩
    | some w =>
      have hq : s.mustQuit w = false := (done_rests (hdone w (List.mem_of_getElem? hw))).2
      exact ⟨s.now, by simp [step, hw, hq]⟩
  | tick time => simp only [step]; split_ifs; exacts [⟨time, rfl⟩, ⟨s.now, rfl⟩]

/-- **Over for good.** Once a stop has returned nothing but the clock goes on. -/
theorem over_stays {c : Setup} {s : St} (h : s.isOver = true) (acts : List Act) :
    ∃ time, run c s acts = { s with now := time } := by
  induction acts using List.reverseRecOn with
  | nil => exact ⟨s.now, rfl⟩
  | append_singleton acts a ih =>
    obtain ⟨time, hrun⟩ := ih
    rw [run_snoc, hrun]
    exact over_step (s := { s with now := time }) h a

/-- a worker that is done stays as it is -/
theorem done_stays {c : Setup} {s : St} {j : ℕ} {w : Worker} (hstopped : s.lifecycle = .stopped)
    (hw : s.workers[j]? = some w) (hdone : w.phase = .done) (acts : List Act) :
    (run c s acts).workers[j]? = some w := by
  suffices h : (run c s acts).lifecycle = .stopped ∧ (run c s acts).workers[j]? = some w from h.2
  induction acts using List.reverseRecOn with
  | nil => exact ⟨hstopped, hw⟩
  | append_singleton acts a ih =>
    obtain ⟨hl, hget⟩ := ih
    rw [run_snoc]
    refine ⟨stopped_stays hl a, ?_⟩
    have hrests := done_rests (s := run c s acts) hdone
    cases step_workers c (run c s acts) a with
    | same workers => rw [workers]; exact hget
    | ticks _ workers => rw [workers]; exact hget
    | spawns idle => rw [hl] at idle; cases idle
    | @goes k t' w' _ worker ready workers =>
      have hne : k ≠ j := by
        rintro rfl
        rw [hget] at worker
        cases worker
        rw [hrests.1] at ready
        cases ready
      rw [workers, List.getElem?_set_ne hne]
      exact hget
    | @quits k w' worker must workers =>
      have hne : k ≠ j := by
        rintro rfl
        rw [hget] at worker
        cases worker
        rw [hrests.2] at must
        cases must
      rw [workers, List.getElem?_set_ne hne]
      exact hget

/-- **Cut short for good.** A worker that notices the stop in a wait records and publishes nothing, and neither makes a
call nor anything else from then on. -/
theorem quit_stays {c : Setup} {s : St} {j : ℕ} {w : Worker} (hw : s.workers[j]? = some w) (hq : s.mustQuit w = true) :
    step c s (.quit j) = { s with workers := s.workers.set j w.quit } ∧
      ∀ acts, (run c (step c s (.quit j)) acts).workers[j]? = some w.quit := by
  have hstep : step c s (.quit j) = { s with workers := s.workers.set j w.quit } := by simp [step, hw, hq]
  refine ⟨hstep, fun acts => ?_⟩
  obtain ⟨hlt, -⟩ := List.getElem?_eq_some_iff.1 hw
  simp only [St.mustQuit, Bool.and_eq_true, decide_eq_true_eq] at hq
  rw [hstep]
  exact done_stays (s := { s with workers := s.workers.set j w.quit }) hq.1 (by simp [hlt]) rfl acts

end ServiceMonitor.Monitor
