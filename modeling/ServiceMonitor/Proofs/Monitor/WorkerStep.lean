import ServiceMonitor.Proofs.Monitor.Reports

/-!
What an act does to one worker.

The workers of all targets share one tracker and one log, and any of them may go on. For one worker there are five things
that an act can be, and `WorkerStep` lists them with all that they change: it rests, another worker makes a report, it makes
a report itself, it goes on to its next phase, or it notices a stop.

- `step_worker`: every act is one of them, and ends the attempts that `endedBy` says.
- `run_worker`: what the five keep of the attempts of a worker and a state holds behind every run.
-/

namespace ServiceMonitor.Monitor

/-- worker `i`; before the start it is as it will be spawned -/
def St.workerAt (s : St) (i : ℕ) : Worker := s.workers[i]?.getD .spawned

/-- before the start there are no workers -/
def St.Sound (s : St) : Prop := s.lifecycle = .idle → s.workers = []

/-- target `t` of worker `i` is the only one of its host -/
def Alone (c : Setup) (i : ℕ) (t : Target) : Prop :=
  ∀ j t', c.targets[j]? = some t' → j ≠ i → t'.host ≠ t.host

/-- no subscriber waits: publishing a change takes no time -/
def Setup.Prompt (c : Setup) : Prop := ∀ n ch, c.hold n ch = 0

section

variable {c : Setup} {i j : ℕ} {t t' : Target} {s s' : St} {w w' : Worker}

/-- targets apart have hosts apart -/
theorem host_ne (hosts : (c.targets.map (·.host)).Nodup) (ht : c.targets[i]? = some t) (ht' : c.targets[j]? = some t')
    (hne : j ≠ i) : t'.host ≠ t.host := by
  intro h
  obtain ⟨hi, -⟩ := List.getElem?_eq_some_iff.1 ht
  refine hne ((List.getElem?_inj (by simpa using hi) hosts).1 ?_).symm
  simp [ht, ht', h]

theorem alone_of_nodup (hosts : (c.targets.map (·.host)).Nodup) (ht : c.targets[i]? = some t) : Alone c i t :=
  fun _ _ ht' hne => host_ne hosts ht ht' hne

/-! ## Workers by their number -/

theorem workerAt_eq (h : s.workers[i]? = some w) : s.workerAt i = w := by
  rw [St.workerAt, h]; rfl

theorem workerAt_set (h : s.workers[i]? = some w) (h' : s'.workers = s.workers.set i w') : s'.workerAt i = w' := by
  obtain ⟨hlt, -⟩ := List.getElem?_eq_some_iff.1 h
  refine workerAt_eq ?_
  rw [h', List.getElem?_set_self hlt]

theorem workerAt_set_ne (hne : j ≠ i) (h' : s'.workers = s.workers.set j w') : s'.workerAt i = s.workerAt i := by
  rw [St.workerAt, St.workerAt, h', List.getElem?_set_ne hne]

/-- a worker goes on if there is one that is ready -/
theorem step_go_cases (c : Setup) (s : St) (j : ℕ) :
    (∃ t w, c.targets[j]? = some t ∧ s.workers[j]? = some w ∧ s.isReady w = true ∧
      step c s (.go j) =
        { s with
          tracker := (w.go c.policy (c.hold s.log.length) t s.now s.tracker).2.1
          workers := s.workers.set j (w.go c.policy (c.hold s.log.length) t s.now s.tracker).1
          log := s.log ++
            ((w.go c.policy (c.hold s.log.length) t s.now s.tracker).2.2.map fun ch => (s.now, ch)).toList }) ∨
    ((∀ t w, c.targets[j]? = some t → s.workers[j]? = some w → s.isReady w = false) ∧ step c s (.go j) = s) := by
  cases ht : c.targets[j]? with
  | none => exact Or.inr ⟨by simp, by simp [step, ht]⟩
  | some t =>
    cases hw : s.workers[j]? with
    | none => exact Or.inr ⟨by simp, by simp [step, hw]⟩
    | some w =>
      cases hr : s.isReady w with
      | true => exact Or.inl ⟨t, w, rfl, rfl, hr, by simp [step, ht, hw, hr]⟩
      | false =>
        refine Or.inr ⟨?_, by simp [step, ht, hw, hr]⟩
        rintro t' w' ht' hw'
        cases hw'
        exact hr

theorem step_sound (h : s.Sound) (a : Act) : (step c s a).Sound := by
  cases a with
  | start =>
    simp only [step]
    split
    · rintro ⟨⟩
    · exact h
  | stop => rintro ⟨⟩
  | go j =>
    rcases step_go_cases c s j with ⟨t, w, -, -, -, hstep⟩ | ⟨-, hstep⟩
    · rw [hstep]
      intro hl
      simp [h hl]
    · rw [hstep]; exact h
  | quit j =>
    simp only [step]
    split
    · split_ifs
      · intro hl
        simp [h hl]
      · exact h
    · exact h
  | tick time => simp only [step]; split_ifs <;> exact h

/-! ## One act -/

/-- what an act, from one state to the next, is to worker `i` of target `t`, with the attempts of the worker that it
ends -/
inductive WorkerStep (c : Setup) (i : ℕ) (t : Target) (s s' : St) : List Attempt → Prop
  /-- nobody makes a report, and the worker stays where it is -/
  | rests (worker : s'.workerAt i = s.workerAt i) (tracker : s'.tracker = s.tracker) (log : s'.log = s.log) :
    WorkerStep c i t s s' []
  /-- the worker of another target makes a report -/
  | other {j : ℕ} {t' : Target} (ne : j ≠ i) (target : c.targets[j]? = some t') (r : Report)
    (worker : s'.workerAt i = s.workerAt i) (tracker : s'.tracker = (Worker.tell t' s.tracker r).1)
    (log : s'.log = s.log ++ ((Worker.tell t' s.tracker r).2.map fun ch => (s.now, ch)).toList) :
    WorkerStep c i t s s' []
  /-- the worker makes the first of its reports -/
  | tells {free busy : ℕ} {r : Report} {rs : List Report} {next : Next} (ready : s.isReady (s.workerAt i) = true)
    (phase : (s.workerAt i).phase = .reporting free (r :: rs) next)
    (worker : s'.workerAt i = { s.workerAt i with phase := .reporting busy rs next })
    (tracker : s'.tracker = (Worker.tell t s.tracker r).1)
    (log : s'.log = s.log ++ ((Worker.tell t s.tracker r).2.map fun ch => (s.now, ch)).toList) :
    WorkerStep c i t s s' []
  /-- the worker goes on to its next phase -/
  | proceeds (ready : s.isReady (s.workerAt i) = true) (told : (s.workerAt i).phase.pending = [])
    (worker : s'.workerAt i = (s.workerAt i).proceed c.policy t s.now) (tracker : s'.tracker = s.tracker)
    (log : s'.log = s.log) :
    WorkerStep c i t s s' (s.workerAt i).phase.attempt?.toList
  /-- the worker notices the stop -/
  | quits (must : s.mustQuit (s.workerAt i) = true) (worker : s'.workerAt i = (s.workerAt i).quit)
    (tracker : s'.tracker = s.tracker) (log : s'.log = s.log) :
    WorkerStep c i t s s' [.abandoned]

/-- a worker that must quit waits -/
theorem waits_of_mustQuit (h : s.mustQuit w = true) : w.phase.isWaiting = true := by
  simp only [St.mustQuit, Bool.and_eq_true] at h
  exact h.2

/-- the worker itself goes on -/
theorem step_go_self (ht : c.targets[i]? = some t) : WorkerStep c i t s (step c s (.go i)) (endedBy i s (.go i)) := by
  rcases step_go_cases c s i with ⟨t', w, ht', hw, hr, hstep⟩ | ⟨hnone, hstep⟩
  · obtain rfl : t = t' := Option.some.inj (ht.symm.trans ht')
    have hat := workerAt_eq hw
    have hworker : (step c s (.go i)).workerAt i = (w.go c.policy (c.hold s.log.length) t s.now s.tracker).1 :=
      workerAt_set hw (by rw [hstep])
    simp only [endedBy, hw, hr, and_self, if_true]
    rcases go_cases c.policy (c.hold s.log.length) t s.now s.tracker w with
      ⟨free, r, rs, next, busy, hphase, hgo⟩ | ⟨htold, hgo⟩
    · have hnone : w.phase.attempt? = none := by rw [hphase]; rfl
      rw [hgo] at hworker
      rw [hnone]
      exact .tells (hat ▸ hr) (hat ▸ hphase) (hat ▸ hworker) (by rw [hstep, hgo]) (by rw [hstep, hgo])
    · rw [hgo] at hworker
      rw [← hat] at htold hworker hr ⊢
      exact .proceeds hr htold hworker (by rw [hstep, hgo]) (by rw [hstep, hgo]; simp)
  · have hended : endedBy i s (.go i) = [] := by
      simp only [endedBy]
      split
      · rename_i w hw
        simp [hnone t w ht hw]
      · rfl
    rw [hended, hstep]
    exact .rests rfl rfl rfl

/-- a worker of another target goes on -/
theorem step_go_other (hne : j ≠ i) : WorkerStep c i t s (step c s (.go j)) (endedBy i s (.go j)) := by
  have hended : endedBy i s (.go j) = [] := by
    simp only [endedBy]
    split <;> simp [hne]
  rw [hended]
  rcases step_go_cases c s j with ⟨t', w, ht', hw, -, hstep⟩ | ⟨-, hstep⟩
  · have hworker : (step c s (.go j)).workerAt i = s.workerAt i := by rw [hstep]; exact workerAt_set_ne hne rfl
    rcases go_cases c.policy (c.hold s.log.length) t' s.now s.tracker w with ⟨_, r, _, _, _, -, hgo⟩ | ⟨-, hgo⟩
    · exact .other hne ht' r hworker (by rw [hstep, hgo]) (by rw [hstep, hgo])
    · exact .rests hworker (by rw [hstep, hgo]) (by rw [hstep, hgo]; simp)
  · rw [hstep]
    exact .rests rfl rfl rfl

theorem step_quit : WorkerStep c i t s (step c s (.quit j)) (endedBy i s (.quit j)) := by
  by_cases hne : j = i
  · subst hne
    simp only [endedBy, step]
    cases hw : s.workers[j]? with
    | none => exact .rests rfl rfl rfl
    | some w =>
      by_cases hq : s.mustQuit w = true
      · simp only [hq, and_self, if_true]
        have hat := workerAt_eq hw
        refine .quits (hat ▸ hq) ?_ rfl rfl
        rw [hat]
        exact workerAt_set hw rfl
      · simp only [hq]
        exact .rests rfl rfl rfl
  · have hended : endedBy i s (.quit j) = [] := by
      simp only [endedBy]
      split <;> simp [hne]
    rw [hended]
    simp only [step]
    split
    · split_ifs
      · exact .rests (workerAt_set_ne hne rfl) rfl rfl
      · exact .rests rfl rfl rfl
    · exact .rests rfl rfl rfl

/-- **One act** is one of the five things to a worker, and ends the attempts that go with it. -/
theorem step_worker (ht : c.targets[i]? = some t) (h : s.Sound) (a : Act) :
    WorkerStep c i t s (step c s a) (endedBy i s a) := by
  cases a with
  | start =>
    cases hl : s.lifecycle with
    | idle =>
      -- a worker that is spawned is what `workerAt` took it for
      refine .rests ?_ (by simp [step, hl]) (by simp [step, hl])
      simp only [step, hl, St.workerAt, h hl, List.getElem?_map, List.getElem?_nil, Option.getD_none]
      cases c.targets[i]? <;> rfl
    | running => exact .rests (by simp [step, hl]) (by simp [step, hl]) (by simp [step, hl])
    | stopped => exact .rests (by simp [step, hl]) (by simp [step, hl]) (by simp [step, hl])
  | stop => exact .rests rfl rfl rfl
  | go j =>
    by_cases hne : j = i
    · subst hne; exact step_go_self ht
    · exact step_go_other hne
  | quit j => exact step_quit
  | tick time =>
    simp only [step]
    split_ifs <;> exact .rests rfl rfl rfl

/-! ## Runs -/

theorem run_snoc (c : Setup) (s : St) (acts : List Act) (a : Act) :
    run c s (acts ++ [a]) = step c (run c s acts) a := by
  simp [run]

theorem start_sound (c : Setup) : (start c).Sound := fun _ => rfl

theorem attempts_snoc (acts : List Act) (a : Act) :
    attempts c i s (acts ++ [a]) = attempts c i s acts ++ endedBy i (run c s acts) a := by
  induction acts generalizing s with
  | nil => simp [attempts, run]
  | cons b acts ih => rw [List.cons_append, attempts, attempts, ih, List.append_assoc]; rfl

theorem run_sound (c : Setup) (acts : List Act) : (run c (start c) acts).Sound := by
  induction acts using List.reverseRecOn with
  | nil => exact start_sound c
  | append_singleton acts a ih =>
    rw [run_snoc]
    exact step_sound ih a

/-- **A run from the start.** What every act keeps of the attempts of a worker and the state holds behind all of them. -/
theorem run_worker {P : List Attempt → St → Prop} (ht : c.targets[i]? = some t) (hstart : P [] (start c))
    (hstep : ∀ {as s s' ended}, s'.Sound → WorkerStep c i t s s' ended → P as s → P (as ++ ended) s')
    (acts : List Act) : P (attempts c i (start c) acts) (run c (start c) acts) := by
  induction acts using List.reverseRecOn with
  | nil => exact hstart
  | append_singleton acts a ih =>
    have hsound := run_sound c acts
    rw [attempts_snoc, run_snoc]
    exact hstep (step_sound hsound a) (step_worker ht hsound a) ih

end

end ServiceMonitor.Monitor
