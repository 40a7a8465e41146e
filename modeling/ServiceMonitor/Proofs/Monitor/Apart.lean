import ServiceMonitor.Proofs.Monitor.Stopping

/-!
Targets that leave each other alone.

The workers of a monitor share its tracker, its log and its clock. A monitor that has only one of the targets runs beside it
(`Setup.only`), with those acts that concern the target (`onlyActs`): `Mirrors` says what the two have in common.

- `tell_sameOn`, `tell_sameOn_other`: trackers that know the same of a host answer reports on it alike, and reports on
  another host do not change that.
- `step_mirrors`, `run_mirrors`: whatever the other workers do, the two stay alike, and the calls made are the same.
- `Turned`, `runs_unique`: a monitor of one target that is not stopped has one way to go.
- `targets_apart`: so what happens to a target is what would happen to it alone.
-/

namespace ServiceMonitor.Monitor

/-! ## Calls -/

/-- a call to a provider: the n-th list call or the n-th subscription attempt -/
inductive Call where
  | list (n : ℕ)
  | subscribe (n : ℕ)
  deriving DecidableEq, Repr

/-- the calls that a worker has made between two states -/
def Worker.callsTo (w w' : Worker) : List Call :=
  (List.range' w.lists (w'.lists - w.lists)).map .list ++
    (List.range' w.subscribes (w'.subscribes - w.subscribes)).map .subscribe

/-- the calls of worker `i` in a run, with the time of each -/
def callsIn (c : Setup) (i : ℕ) : St → List Act → List (ℕ × Call)
  | _, [] => []
  | s, a :: acts =>
    ((s.workerAt i).callsTo ((step c s a).workerAt i)).map (fun call => (s.now, call)) ++ callsIn c i (step c s a) acts

/-- the part of a log that is about one host -/
def logOf (host : String) (log : List (ℕ × Change)) : List (ℕ × Change) := log.filter (·.2.host = host)

@[simp] theorem callsTo_self (w : Worker) : w.callsTo w = [] := by simp [Worker.callsTo]

theorem run_append (c : Setup) (s : St) (acts acts' : List Act) :
    run c s (acts ++ acts') = run c (run c s acts) acts' := List.foldl_append

theorem callsIn_append (c : Setup) (i : ℕ) (s : St) (acts acts' : List Act) :
    callsIn c i s (acts ++ acts') = callsIn c i s acts ++ callsIn c i (run c s acts) acts' := by
  induction acts generalizing s with
  | nil => rfl
  | cons a acts ih => rw [List.cons_append, callsIn, callsIn, ih, List.append_assoc]; rfl

@[simp] theorem logOf_append (host : String) (log log' : List (ℕ × Change)) :
    logOf host (log ++ log') = logOf host log ++ logOf host log' := List.filter_append _ _

/-! ## Trackers that know the same of a host -/

/-- two trackers know the same of a host and its services -/
structure SameOn (host : String) (a b : Tracker) : Prop where
  skipFirst : a.skipFirst = b.skipFirst
  reachability : a.reachability host = b.reachability host
  lifecycle : ∀ k : ServiceKey, k.host = host → a.lifecycle k = b.lifecycle k

theorem SameOn.refl (host : String) (a : Tracker) : SameOn host a a := ⟨rfl, rfl, fun _ _ => rfl⟩

theorem SameOn.trans {host : String} {a b d : Tracker} (h : SameOn host a b) (h' : SameOn host b d) : SameOn host a d :=
  ⟨h.skipFirst.trans h'.skipFirst, h.reachability.trans h'.reachability,
    fun k hk => (h.lifecycle k hk).trans (h'.lifecycle k hk)⟩

/-- **One report.** Trackers that know the same of a host answer a report on it alike, and know the same behind it. -/
theorem tell_sameOn {t : Target} {a b : Tracker} (h : SameOn t.host a b) (r : Report) :
    (Worker.tell t a r).2 = (Worker.tell t b r).2 ∧ SameOn t.host (Worker.tell t a r).1 (Worker.tell t b r).1 := by
  cases r with
  | success =>
    refine ⟨by simp only [Worker.tell, Tracker.success_snd, h.reachability], ?_, ?_, fun k hk => ?_⟩
    · simpa [Worker.tell] using h.skipFirst
    · simp only [Worker.tell, Tracker.success_reachability, if_true]
    · simpa [Worker.tell] using h.lifecycle k hk
  | failure reason =>
    refine ⟨by simp only [Worker.tell, Tracker.failure_snd, h.reachability], ?_, ?_, fun k hk => ?_⟩
    · simpa [Worker.tell] using h.skipFirst
    · simp only [Worker.tell, Tracker.failure_reachability, if_true]
    · simpa [Worker.tell] using h.lifecycle k hk
  | observe o =>
    have hkey := h.lifecycle (Tracker.keyOf t.host t.provider.source o) rfl
    refine ⟨by simp only [Worker.tell, Tracker.observe_snd, hkey, h.skipFirst], ?_, ?_, fun k hk => ?_⟩
    · simpa [Worker.tell] using h.skipFirst
    · simpa [Worker.tell] using h.reachability
    · simp only [Worker.tell, Tracker.observe_lifecycle, h.lifecycle k hk]

/-- a report on another host does not matter -/
theorem tell_sameOn_other {t : Target} {host : String} {a b : Tracker} (h : SameOn host a b) (hne : t.host ≠ host)
    (r : Report) : SameOn host (Worker.tell t a r).1 b := by
  refine ⟨(tell_skipFirst t a r).trans h.skipFirst, ?_, fun k hk => ?_⟩
  · rw [← h.reachability]
    cases r <;> simp [Worker.tell, Tracker.success_reachability, Tracker.failure_reachability, hne]
  · rw [← h.lifecycle k hk]
    have hkey (o : Observation) : Tracker.keyOf t.host t.provider.source o ≠ k := by
      rintro rfl
      exact hne hk
    cases r <;> simp [Worker.tell, Tracker.observe_lifecycle, hkey]

/-- a worker goes on alike beside either of them, where subscribers do not wait -/
theorem go_sameOn (p : Policy) {hold hold' : Change → ℕ} (prompt : ∀ ch, hold ch = 0) (prompt' : ∀ ch, hold' ch = 0)
    {t : Target} {a b : Tracker} (h : SameOn t.host a b) (now : ℕ) (w : Worker) :
    (w.go p hold t now a).1 = (w.go p hold' t now b).1 ∧ (w.go p hold t now a).2.2 = (w.go p hold' t now b).2.2 ∧
      SameOn t.host (w.go p hold t now a).2.1 (w.go p hold' t now b).2.1 := by
  rcases go_prompt p prompt t now a w with ⟨free, r, rs, next, hphase, hgo⟩ | ⟨htold, hgo⟩ <;>
    rcases go_prompt p prompt' t now b w with ⟨free', r', rs', next', hphase', hgo'⟩ | ⟨htold', hgo'⟩
  · rw [hphase] at hphase'
    cases hphase'
    rw [hgo, hgo']
    exact ⟨rfl, tell_sameOn h r⟩
  · rw [hphase] at htold'
    cases htold'
  · rw [hphase'] at htold
    cases htold
  · rw [hgo, hgo']
    exact ⟨rfl, rfl, h⟩

/-- what a worker publishes is about its own host -/
theorem go_host {p : Policy} {hold : Change → ℕ} {t : Target} {now : ℕ} {tracker : Tracker} {w : Worker} {ch : Change}
    (h : (w.go p hold t now tracker).2.2 = some ch) : ch.host = t.host := by
  rcases go_cases p hold t now tracker w with ⟨_, r, _, _, _, -, hgo⟩ | ⟨-, hgo⟩
  · rw [hgo] at h
    exact tell_host h
  · rw [hgo] at h
    cases h

/-! ## A monitor of one target -/

/-- a monitor that has only this target -/
def Setup.only (c : Setup) (t : Target) : Setup := { c with targets := [t] }

/-- what an act of the whole monitor is to the monitor of target `i` alone; a clock that stands still is nothing -/
def Act.only? (i : ℕ) (s : St) : Act → Option Act
  | .start => some .start
  | .stop => some .stop
  | .go j => if j = i then some (.go 0) else none
  | .quit j => if j = i then some (.quit 0) else none
  | .tick time => if s.canTick time then some (.tick time) else none

/-- the acts of a run that concern target `i` -/
def onlyActs (c : Setup) (i : ℕ) : St → List Act → List Act
  | _, [] => []
  | s, a :: acts => (a.only? i s).toList ++ onlyActs c i (step c s a) acts

/-- a state of the monitor of target `t` alone is what a state of the whole monitor is to it -/
structure Mirrors (i : ℕ) (t : Target) (s s' : St) : Prop where
  now : s'.now = s.now
  lifecycle : s'.lifecycle = s.lifecycle
  workers : s'.workers = (s.workers[i]?).toList
  tracker : SameOn t.host s.tracker s'.tracker
  log : s'.log = logOf t.host s.log

section

variable {c : Setup} {i : ℕ} {t : Target} {s s' : St}

theorem Mirrors.workerAt (h : Mirrors i t s s') : s'.workerAt 0 = s.workerAt i := by
  rw [St.workerAt, St.workerAt, h.workers]
  cases s.workers[i]? <;> rfl

theorem Mirrors.get (h : Mirrors i t s s') : s'.workers[0]? = s.workers[i]? := by
  rw [h.workers]
  cases s.workers[i]? <;> rfl

theorem Mirrors.isReady (h : Mirrors i t s s') (w : Worker) : s'.isReady w = s.isReady w := by
  simp only [St.isReady, h.now]

theorem Mirrors.mustQuit (h : Mirrors i t s s') (w : Worker) : s'.mustQuit w = s.mustQuit w := by
  simp only [St.mustQuit, h.lifecycle]

/-- the clock of the one goes on where that of the other does -/
theorem Mirrors.canTick (h : Mirrors i t s s') {time : ℕ} (hcan : s.canTick time = true) : s'.canTick time = true := by
  simp only [St.canTick, Bool.and_eq_true, decide_eq_true_eq, List.all_eq_true] at hcan ⊢
  refine ⟨by rw [h.now]; exact hcan.1, fun w hw => ?_⟩
  rw [h.workers, Option.mem_toList] at hw
  simp only [h.isReady, h.mustQuit]
  exact hcan.2 w (List.mem_of_getElem? hw)

theorem start_mirrors (c : Setup) (i : ℕ) (t : Target) : Mirrors i t (start c) (start (c.only t)) :=
  ⟨rfl, rfl, rfl, SameOn.refl _ _, rfl⟩

/-- the worker itself goes on -/
theorem Mirrors.go (h : Mirrors i t s s') (prompt : c.Prompt) (ht : c.targets[i]? = some t) :
    Mirrors i t (step c s (.go i)) (step (c.only t) s' (.go 0)) := by
  rcases step_go_cases c s i with ⟨t', w, ht', hw, hr, hstep⟩ | ⟨hnone, hstep⟩ <;>
    rcases step_go_cases (c.only t) s' 0 with ⟨t'', w', ht'', hw', hr', hstep'⟩ | ⟨hnone', hstep'⟩
  · obtain rfl : t = t' := Option.some.inj (ht.symm.trans ht')
    cases ht''
    obtain rfl : w = w' := Option.some.inj (hw.symm.trans (h.get.symm.trans hw'))
    obtain ⟨hworker, hchange, htracker⟩ :=
      go_sameOn c.policy (prompt s.log.length) (prompt s'.log.length) h.tracker s.now w
    obtain ⟨hlt, -⟩ := List.getElem?_eq_some_iff.1 hw
    rw [hstep, hstep']
    simp only [Setup.only, h.now]
    refine ⟨rfl, h.lifecycle, ?_, htracker, ?_⟩
    · rw [h.workers, hw, hworker, List.getElem?_set_self hlt]
      rfl
    · rw [h.log, logOf_append, ← h.log, ← hchange]
      cases hch : (w.go c.policy (c.hold s.log.length) t s.now s.tracker).2.2 with
      | none => rfl
      | some ch => simp [logOf, go_host hch]
  · rw [← h.isReady, hnone' t w rfl (h.get.trans hw)] at hr
    cases hr
  · cases ht''
    rw [h.isReady, hnone t w' ht (h.get.symm.trans hw')] at hr'
    cases hr'
  · rw [hstep, hstep']
    exact h

/-- the worker of another target goes on -/
theorem Mirrors.go_other (h : Mirrors i t s s') (hosts : (c.targets.map (·.host)).Nodup) (ht : c.targets[i]? = some t)
    {j : ℕ} (hne : j ≠ i) : Mirrors i t (step c s (.go j)) s' := by
  rcases step_go_cases c s j with ⟨t', w, ht', -, -, hstep⟩ | ⟨-, hstep⟩
  · have hhost := host_ne hosts ht ht' hne
    rw [hstep]
    refine ⟨h.now, h.lifecycle, by rw [List.getElem?_set_ne hne]; exact h.workers, ?_, ?_⟩
    · rcases go_cases c.policy (c.hold s.log.length) t' s.now s.tracker w with ⟨_, r, _, _, _, -, hgo⟩ | ⟨-, hgo⟩
      · rw [hgo]; exact tell_sameOn_other h.tracker hhost r
      · rw [hgo]; exact h.tracker
    · rw [logOf_append, ← h.log]
      cases hch : (w.go c.policy (c.hold s.log.length) t' s.now s.tracker).2.2 with
      | none => simp [logOf]
      | some ch => simp [logOf, go_host hch, hhost]
  · rw [hstep]
    exact h

theorem Mirrors.quit (h : Mirrors i t s s') : Mirrors i t (step c s (.quit i)) (step (c.only t) s' (.quit 0)) := by
  cases hw : s.workers[i]? with
  | none =>
    have hw' : s'.workers[0]? = none := h.get.trans hw
    simpa only [step, hw, hw'] using h
  | some w =>
    have hw' : s'.workers[0]? = some w := h.get.trans hw
    obtain ⟨hlt, -⟩ := List.getElem?_eq_some_iff.1 hw
    by_cases hq : s.mustQuit w = true
    · have hq' : s'.mustQuit w = true := (h.mustQuit w).trans hq
      simp only [step, hw, hw', hq, hq', if_true]
      refine ⟨h.now, h.lifecycle, ?_, h.tracker, h.log⟩
      rw [h.workers, hw, List.getElem?_set_self hlt]
      rfl
    · have hq' : ¬s'.mustQuit w = true := by rwa [h.mustQuit]
      simp only [step, hw, hw', if_neg hq, if_neg hq']
      exact h

theorem Mirrors.quit_other (h : Mirrors i t s s') {j : ℕ} (hne : j ≠ i) : Mirrors i t (step c s (.quit j)) s' := by
  simp only [step]
  split
  · split_ifs
    · exact ⟨h.now, h.lifecycle, by rw [List.getElem?_set_ne hne]; exact h.workers, h.tracker, h.log⟩
    · exact h
  · exact h

/-- **One act** of the whole monitor is one act or none of the monitor of the target alone. -/
theorem step_mirrors (h : Mirrors i t s s') (prompt : c.Prompt) (hosts : (c.targets.map (·.host)).Nodup)
    (ht : c.targets[i]? = some t) (a : Act) : Mirrors i t (step c s a) (run (c.only t) s' (a.only? i s).toList) := by
  cases a with
  | start =>
    simp only [Act.only?, Option.toList_some, run, List.foldl_cons, List.foldl_nil, step, h.lifecycle]
    cases s.lifecycle with
    | idle =>
      refine ⟨h.now, rfl, ?_, h.tracker, h.log⟩
      rw [List.getElem?_map, ht]
      rfl
    | running => exact h
    | stopped => exact h
  | stop => exact ⟨h.now, rfl, h.workers, h.tracker, h.log⟩
  | go j =>
    by_cases hne : j = i
    · subst hne
      simp only [Act.only?, if_true]
      exact h.go prompt ht
    · simp only [Act.only?, if_neg hne]
      exact h.go_other hosts ht hne
  | quit j =>
    by_cases hne : j = i
    · subst hne
      simp only [Act.only?, if_true]
      exact h.quit
    · simp only [Act.only?, if_neg hne]
      exact h.quit_other hne
  | tick time =>
    by_cases hcan : s.canTick time = true
    · simp only [Act.only?, hcan, if_true, Option.toList_some, run, List.foldl_cons, List.foldl_nil, step,
        h.canTick hcan]
      exact ⟨rfl, h.lifecycle, h.workers, h.tracker, h.log⟩
    · simp only [Act.only?, hcan, step]
      exact h

/-- the act makes the same calls in both -/
theorem step_calls (h : Mirrors i t s s') (prompt : c.Prompt) (hosts : (c.targets.map (·.host)).Nodup)
    (ht : c.targets[i]? = some t) (a : Act) :
    callsIn (c.only t) 0 s' (a.only? i s).toList =
      ((s.workerAt i).callsTo ((step c s a).workerAt i)).map fun call => (s.now, call) := by
  have hnext := (step_mirrors h prompt hosts ht a).workerAt
  cases ha : a.only? i s with
  | none =>
    rw [ha] at hnext
    rw [← hnext, ← h.workerAt]
    simp [callsIn, run]
  | some a' =>
    rw [ha] at hnext
    rw [← hnext, ← h.workerAt, ← h.now]
    simp [callsIn, run]

/-- **A run** of the whole monitor is one of the monitor of the target alone, with the same calls. -/
theorem run_mirrors (h : Mirrors i t s s') (prompt : c.Prompt) (hosts : (c.targets.map (·.host)).Nodup)
    (ht : c.targets[i]? = some t) (acts : List Act) :
    Mirrors i t (run c s acts) (run (c.only t) s' (onlyActs c i s acts)) ∧
      callsIn (c.only t) 0 s' (onlyActs c i s acts) = callsIn c i s acts := by
  induction acts generalizing s s' with
  | nil => exact ⟨h, rfl⟩
  | cons a acts ih =>
    obtain ⟨hrun, hcalls⟩ := ih (step_mirrors h prompt hosts ht a)
    refine ⟨?_, ?_⟩
    · rw [onlyActs, run_append]
      exact hrun
    · rw [onlyActs, callsIn_append, hcalls, callsIn, step_calls h prompt hosts ht a]

end

/-! ## One way to go -/

/-- when the monitor was first started -/
def startTime (c : Setup) : St → List Act → Option ℕ
  | _, [] => none
  | s, a :: acts => if a = .start then some s.now else startTime c (step c s a) acts

/-- the monitor, just started -/
def started (c : Setup) (time : ℕ) : St := step c { start c with now := time } .start

/-- the first worker goes on as soon as it can, and what it has called by then -/
def turn (c : Setup) (x : St × List (ℕ × Call)) : St × List (ℕ × Call) :=
  match (x.1.workerAt 0).phase.due? with
  | some due =>
    let s := { x.1 with now := max x.1.now due }
    (step c s (.go 0), x.2 ++ callsIn c 0 s [.go 0])
  | none => x

/-- a monitor and its calls some turns after its start -/
def turns (c : Setup) (time n : ℕ) : St × List (ℕ × Call) := (turn c)^[n] (started c time, [])

/-- a state of a monitor of one target that is not stopped, and the calls made by then: so many turns are taken, and the
clock has gone on but not past the time of the next -/
structure Turned (c : Setup) (time n : ℕ) (s : St) (calls : List (ℕ × Call)) : Prop where
  state : s = { (turns c time n).1 with now := s.now }
  calls : calls = (turns c time n).2
  since : (turns c time n).1.now ≤ s.now
  due : ∀ due, (s.workerAt 0).phase.due? = some due → s.now ≤ max (turns c time n).1.now due
  running : s.lifecycle = .running
  staffed : s.workers ≠ []

section

variable {c : Setup} {time n m : ℕ} {s s' : St} {calls calls' : List (ℕ × Call)}

theorem workerAt_mem (h : s.workers ≠ []) : s.workers[0]? = some (s.workerAt 0) := by
  obtain ⟨w, ws, hws⟩ := List.exists_cons_of_ne_nil h
  simp [St.workerAt, hws]

/-- a turn is taken at its time -/
theorem turn_now (c : Setup) (x : St × List (ℕ × Call)) :
    (turn c x).1.now = max x.1.now ((x.1.workerAt 0).phase.due?.getD 0) := by
  rw [turn]
  cases (x.1.workerAt 0).phase.due? with
  | none => simp
  | some due =>
    rcases step_go_cases c { x.1 with now := max x.1.now due } 0 with ⟨_, _, -, -, -, hstep⟩ | ⟨-, hstep⟩ <;>
      simp only [hstep, Option.getD_some]

theorem turns_succ (c : Setup) (time n : ℕ) : turns c time (n + 1) = turn c (turns c time n) :=
  Function.iterate_succ_apply' _ _ _

theorem turns_mono (c : Setup) (time : ℕ) : Monotone fun n => (turns c time n).1.now := by
  refine monotone_nat_of_le_succ fun n => ?_
  rw [turns_succ, turn_now]
  exact Nat.le_max_left _ _

/-- where a turn changes nothing, none of those behind it does -/
theorem turns_fixed (h : turn c (turns c time n) = turns c time n) (k : ℕ) : turns c time (n + k) = turns c time n := by
  induction k with
  | zero => rfl
  | succ k ih => rw [← Nat.add_assoc, turns_succ, ih, h]

theorem Turned.zero (targets : c.targets ≠ []) : Turned c time 0 (started c time) [] where
  state := rfl
  calls := rfl
  since := le_rfl
  due _ _ := Nat.le_max_left _ _
  running := rfl
  staffed := by simpa [started, step, start] using targets

/-- the worker goes on: one more turn is taken -/
theorem Turned.go (h : Turned c time n s calls) (hready : s.isReady (s.workerAt 0) = true) :
    Turned c time (n + 1) (step c s (.go 0)) (calls ++ callsIn c 0 s [.go 0]) := by
  have hat : (s.workerAt 0).phase = ((turns c time n).1.workerAt 0).phase := by rw [h.state]; rfl
  cases hdue : (s.workerAt 0).phase.due? with
  | none => simp [St.isReady, hdue] at hready
  | some due =>
    have hnow : s.now = max (turns c time n).1.now due := by
      simp only [St.isReady, hdue, decide_eq_true_eq] at hready
      exact (h.due due hdue).antisymm (max_le h.since hready)
    have hturn : turns c time (n + 1) = (step c s (.go 0), calls ++ callsIn c 0 s [.go 0]) := by
      rw [turns_succ, turn, ← hat, hdue]
      simp only [← hnow, ← h.state, ← h.calls]
    refine ⟨by rw [hturn], by rw [hturn], by rw [hturn], fun d _ => ?_, ?_, ?_⟩
    · rw [hturn]
      exact Nat.le_max_left _ _
    · rw [step_lifecycle]
      exact h.running
    · cases step_workers c s (.go 0) with
      | same workers => rw [workers]; exact h.staffed
      | goes _ _ _ workers => rw [workers]; simpa using h.staffed

/-- the clock goes on, to the time of the next turn at most -/
theorem Turned.tick (h : Turned c time n s calls) {later : ℕ} (hcan : s.canTick later = true) :
    Turned c time n { s with now := later } calls := by
  simp only [St.canTick, Bool.and_eq_true, decide_eq_true_eq, List.all_eq_true] at hcan
  obtain ⟨hle, hall⟩ := hcan
  refine ⟨?_, h.calls, h.since.trans hle, fun due hdue => ?_, h.running, h.staffed⟩
  · exact congrArg (fun s : St => { s with now := later }) h.state
  · have hmem := hall _ (List.mem_of_getElem? (workerAt_mem h.staffed))
    change (s.workerAt 0).phase.due? = some due at hdue
    rw [hdue] at hmem
    simp only [decide_eq_true_eq] at hmem
    exact hmem.2.trans (Nat.le_max_right _ _)

/-- **One act** takes a turn, moves the clock or changes nothing. -/
theorem Turned.step (h : Turned c time n s calls) (one : c.targets.length = 1) {a : Act} (ha : a ≠ .stop) :
    ∃ n', Turned c time n' (step c s a) (calls ++ callsIn c 0 s [a]) := by
  have same {a : Act} (hstep : Monitor.step c s a = s) :
      ∃ n', Turned c time n' (Monitor.step c s a) (calls ++ callsIn c 0 s [a]) :=
    ⟨n, by simpa [callsIn, hstep] using h⟩
  cases a with
  | start => exact same (by simp [Monitor.step, h.running])
  | stop => exact absurd rfl ha
  | go j =>
    rcases step_go_cases c s j with ⟨t, w, ht, hw, hr, -⟩ | ⟨-, hstep⟩
    · obtain rfl : j = 0 := by
        obtain ⟨hlt, -⟩ := List.getElem?_eq_some_iff.1 ht
        omega
      rw [← workerAt_eq hw] at hr
      exact ⟨n + 1, h.go hr⟩
    · exact same hstep
  | quit j =>
    have hq (w : Worker) : s.mustQuit w = false := by simp [St.mustQuit, h.running]
    refine same ?_
    simp only [Monitor.step, hq]
    split <;> rfl
  | tick later =>
    by_cases hcan : s.canTick later = true
    · refine ⟨n, ?_⟩
      have hstep : Monitor.step c s (.tick later) = { s with now := later } := by simp [Monitor.step, hcan]
      have hcalls : callsIn c 0 s [.tick later] = [] := by
        rw [callsIn, hstep, show St.workerAt { s with now := later } 0 = s.workerAt 0 from rfl, callsTo_self]
        rfl
      rw [hstep, hcalls, List.append_nil]
      exact h.tick hcan
    · exact same (by simp [Monitor.step, hcan])

theorem Turned.run (h : Turned c time n s calls) (one : c.targets.length = 1) {acts : List Act} (hacts : .stop ∉ acts) :
    ∃ n', Turned c time n' (run c s acts) (calls ++ callsIn c 0 s acts) := by
  induction acts generalizing n s calls with
  | nil => exact ⟨n, by rw [callsIn, List.append_nil]; exact h⟩
  | cons a acts ih =>
    rw [List.mem_cons, not_or] at hacts
    obtain ⟨n', h'⟩ := h.step one (Ne.symm hacts.1)
    obtain ⟨m, hm⟩ := ih h' hacts.2
    refine ⟨m, ?_⟩
    have hcalls : callsIn c 0 s (a :: acts) = callsIn c 0 s [a] ++ callsIn c 0 (Monitor.step c s a) acts :=
      callsIn_append c 0 s [a] acts
    rw [hcalls, ← List.append_assoc]
    exact hm

/-- at the same time and with nothing left to be done, the same turns are taken -/
theorem Turned.unique (h : Turned c time n s calls) (h' : Turned c time m s' calls') (hnow : s.now = s'.now)
    (hrest : s.isReady (s.workerAt 0) = false) (hrest' : s'.isReady (s'.workerAt 0) = false) :
    s = s' ∧ calls = calls' := by
  wlog hle : n ≤ m generalizing n m s s' calls calls'
  · obtain ⟨hs, hcalls⟩ := this h' h hnow.symm hrest' hrest (Nat.le_of_not_le hle)
    exact ⟨hs.symm, hcalls.symm⟩
  obtain ⟨k, rfl⟩ := Nat.exists_eq_add_of_le hle
  have hat : (s.workerAt 0).phase = ((turns c time n).1.workerAt 0).phase := by rw [h.state]; rfl
  have hturns : turns c time (n + k) = turns c time n := by
    cases hdue : (s.workerAt 0).phase.due? with
    | none => exact turns_fixed (by rw [turn, ← hat, hdue]) k
    | some due =>
      simp only [St.isReady, hdue, decide_eq_false_iff_not, not_le] at hrest
      cases k with
      | zero => rfl
      | succ k =>
        -- the next turn would come too late
        have hnext : due ≤ (turns c time (n + 1)).1.now := by
          rw [turns_succ, turn_now, ← hat, hdue]
          exact Nat.le_max_right _ _
        have hlater : (turns c time (n + 1)).1.now ≤ (turns c time (n + (k + 1))).1.now :=
          turns_mono c time (by omega)
        have hsince := h'.since
        omega
  refine ⟨?_, by rw [h.calls, h'.calls, hturns]⟩
  rw [h.state, h'.state, hturns, hnow]

/-- before the start only the clock goes on -/
theorem idle_step (c : Setup) (time : ℕ) {a : Act} (hstart : a ≠ .start) (hstop : a ≠ .stop) :
    ∃ later, step c { start c with now := time } a = { start c with now := later } := by
  cases a with
  | start => exact absurd rfl hstart
  | stop => exact absurd rfl hstop
  | go j => exact ⟨time, by simp [step, start]⟩
  | quit j => exact ⟨time, by simp [step, start]⟩
  | tick later => simp only [step]; split_ifs; exacts [⟨later, rfl⟩, ⟨time, rfl⟩]

/-- a run without a stop: from its start on it takes turns -/
theorem unstopped_run (c : Setup) (one : c.targets.length = 1) {acts : List Act} (hacts : .stop ∉ acts) (time : ℕ) :
    let s₀ := { start c with now := time }
    match startTime c s₀ acts with
    | none => run c s₀ acts = { start c with now := (run c s₀ acts).now } ∧ callsIn c 0 s₀ acts = []
    | some time' => ∃ n, Turned c time' n (run c s₀ acts) (callsIn c 0 s₀ acts) := by
  induction acts generalizing time with
  | nil => exact ⟨rfl, rfl⟩
  | cons a acts ih =>
    rw [List.mem_cons, not_or] at hacts
    by_cases ha : a = .start
    · subst ha
      have h : Turned c time 0 (started c time) [] := .zero (by rintro h; simp [h] at one)
      obtain ⟨n, hn⟩ := h.run one hacts.2
      have hat : (started c time).workerAt 0 = St.workerAt { start c with now := time } 0 := by
        simp only [started, step, start, St.workerAt, List.getElem?_map]
        cases c.targets[0]? <;> rfl
      refine ⟨n, ?_⟩
      rw [callsIn, ← started, hat, callsTo_self]
      exact hn
    · obtain ⟨later, hstep⟩ := idle_step c time ha (Ne.symm hacts.1)
      have := ih hacts.2 later
      simp only [startTime, if_neg ha, run, List.foldl_cons, hstep, callsIn]
      exact this

/-- **One way to go.** Two runs of a monitor of one target, neither stopped and both started at the same time, are the same
by any time at which nothing is left to be done. -/
theorem runs_unique (c : Setup) (one : c.targets.length = 1) {acts acts' : List Act} (hacts : .stop ∉ acts)
    (hacts' : .stop ∉ acts') (hstart : startTime c (start c) acts = startTime c (start c) acts')
    (hnow : (run c (start c) acts).now = (run c (start c) acts').now)
    (hrest : (run c (start c) acts).isAtRest = true) (hrest' : (run c (start c) acts').isAtRest = true) :
    run c (start c) acts = run c (start c) acts' ∧ callsIn c 0 (start c) acts = callsIn c 0 (start c) acts' := by
  have h := unstopped_run c one hacts 0
  have h' := unstopped_run c one hacts' 0
  change match startTime c (start c) acts with | none => _ | some time' => _ at h
  change match startTime c (start c) acts' with | none => _ | some time' => _ at h'
  rw [← hstart] at h'
  have rests {s : St} (hs : s.workers ≠ []) (hrest : s.isAtRest = true) : s.isReady (s.workerAt 0) = false := by
    simp only [St.isAtRest, St.canTick, Bool.and_eq_true, List.all_eq_true, Bool.not_eq_true'] at hrest
    exact (hrest.2 _ (List.mem_of_getElem? (workerAt_mem hs))).1.1
  cases htime : startTime c (start c) acts with
  | none =>
    rw [htime] at h h'
    refine ⟨?_, h.2.trans h'.2.symm⟩
    change run c (start c) acts = _ ∧ _ at h
    change run c (start c) acts' = _ ∧ _ at h'
    rw [h.1, h'.1]
    exact congrArg (fun now : ℕ => { start c with now := now }) hnow
  | some time =>
    rw [htime] at h h'
    obtain ⟨n, hn⟩ := h
    obtain ⟨m, hm⟩ := h'
    exact hn.unique hm hnow (rests hn.staffed hrest) (rests hm.staffed hrest')

end

/-! ## Alone or not -/

/-- starts and stops are the same to both -/
theorem only?_order {i : ℕ} {s : St} {a b : Act} (hb : b = .start ∨ b = .stop) : a.only? i s = some b ↔ a = b := by
  rcases hb with rfl | rfl <;> cases a <;> simp [Act.only?]

theorem stop_mem_onlyActs (c : Setup) (i : ℕ) (s : St) (acts : List Act) :
    .stop ∈ onlyActs c i s acts ↔ .stop ∈ acts := by
  induction acts generalizing s with
  | nil => rfl
  | cons a acts ih =>
    rw [onlyActs, List.mem_append, List.mem_cons, ih, Option.mem_toList, only?_order (Or.inr rfl), eq_comm]

section

variable {c : Setup} {i : ℕ} {t : Target} {s s' : St}

theorem Mirrors.startTime (h : Mirrors i t s s') (prompt : c.Prompt) (hosts : (c.targets.map (·.host)).Nodup)
    (ht : c.targets[i]? = some t) (acts : List Act) :
    startTime (c.only t) s' (onlyActs c i s acts) = startTime c s acts := by
  induction acts generalizing s s' with
  | nil => rfl
  | cons a acts ih =>
    have hnext := ih (step_mirrors h prompt hosts ht a)
    rw [onlyActs, Monitor.startTime]
    by_cases ha : a = .start
    · subst ha
      simp [Act.only?, Monitor.startTime, h.now]
    · rw [if_neg ha, ← hnext]
      cases ha' : a.only? i s with
      | none => rfl
      | some a' =>
        have hne : a' ≠ .start := by
          rintro rfl
          exact ha ((only?_order (Or.inl rfl)).1 ha')
        simp [Monitor.startTime, hne, run]

theorem Mirrors.isAtRest (h : Mirrors i t s s') (hrest : s.isAtRest = true) : s'.isAtRest = true := by
  rw [St.isAtRest, h.now]
  exact h.canTick hrest

end

/-- **Targets leave each other alone.** Let the hosts differ and no subscriber wait. Whatever the other targets are and however
they answer, what a run of the monitor is to one target is a run of a monitor that has only this one, with starts and stops
where they were: the target's worker is where it would be, it has made the same calls at the same times, and the same has
been published about its host at the same times. And that monitor has no choice: unless it is stopped, however it runs, by
any time at which there is nothing left to be done it has made these calls and published these changes. -/
theorem targets_apart (c : Setup) (hosts : (c.targets.map (·.host)).Nodup) (prompt : c.Prompt) {i : ℕ} {t : Target}
    (ht : c.targets[i]? = some t) (acts : List Act) :
    let s := run c (start c) acts
    let alone := onlyActs c i (start c) acts
    let s' := run (c.only t) (start (c.only t)) alone
    (s'.now = s.now ∧ s'.lifecycle = s.lifecycle ∧ s'.workers = (s.workers[i]?).toList ∧
      callsIn (c.only t) 0 (start (c.only t)) alone = callsIn c i (start c) acts ∧ s'.log = logOf t.host s.log) ∧
    (.stop ∉ acts → s.isAtRest = true → ∀ acts', .stop ∉ acts' →
      let s'' := run (c.only t) (start (c.only t)) acts'
      startTime (c.only t) (start (c.only t)) acts' = startTime c (start c) acts → s''.now = s.now →
        s''.isAtRest = true →
      callsIn (c.only t) 0 (start (c.only t)) acts' = callsIn c i (start c) acts ∧ s''.log = logOf t.host s.log) := by
  intro s alone s'
  obtain ⟨hmirrors, hcalls⟩ := run_mirrors (start_mirrors c i t) prompt hosts ht acts
  refine ⟨⟨hmirrors.now, hmirrors.lifecycle, hmirrors.workers, hcalls, hmirrors.log⟩, ?_⟩
  intro hacts hrest acts' hacts' s'' hstart hnow hrest'
  have halone : .stop ∉ alone := fun h => hacts ((stop_mem_onlyActs c i _ acts).1 h)
  obtain ⟨hs, hcalls'⟩ := runs_unique (c.only t) rfl hacts' halone
    (hstart.trans ((start_mirrors c i t).startTime prompt hosts ht acts).symm) (hnow.trans hmirrors.now.symm) hrest'
    (hmirrors.isAtRest hrest)
  exact ⟨hcalls'.trans hcalls, (congrArg St.log hs).trans hmirrors.log⟩

/-! ## A target among others -/

/-- a target whose list call answers, fails, and answers again -/
def flickering : Target where
  host := "nas"
  provider :=
    { source := "agent"
      pushes := false
      list := fun n => ⟨300, if n = 1 then .error (.connection "refused") else .ok [⟨"db", .running, ""⟩]⟩
      subscribe := fun _ => ⟨0, .error .unsupported⟩ }
  strategy := .poll

/-- a target that is gone for good -/
def gone : Target where
  host := "attic"
  provider :=
    { source := "agent"
      pushes := true
      list := fun _ => ⟨0, .ok []⟩
      subscribe := fun _ => ⟨100, .error (.opening (.unavailable "no such agent"))⟩ }
  strategy := .push

/-- one that is gone, one that times out and one that flickers -/
def mixed : Setup :=
  ⟨[gone, listed "cellar" 9000, flickering], ⟨.ofSecs 1, true, .ofMillis 500, .standard⟩, fun _ _ => 0⟩

/-- two seconds of all three, in turns -/
def twoSeconds : List Act :=
  [.tick 50, .start, .go 0, .go 1, .go 2, .go 1, .go 0, .go 0, .go 2, .tick 150, .go 0, .tick 350, .go 2, .go 2, .go 2,
    .go 2, .tick 550, .go 1, .go 1, .go 1, .tick 1050, .go 1, .go 2, .tick 1350, .go 2, .go 2, .go 2, .tick 1550, .go 1,
    .go 1, .go 1, .tick 2050, .go 1, .go 2, .tick 2350, .go 2, .go 2, .go 2, .go 2]

/-- two seconds of the last one, alone -/
def alone : List Act :=
  [.tick 20, .tick 50, .start, .go 0, .go 0, .tick 100, .tick 350, .go 0, .go 0, .go 0, .go 0, .tick 1050, .start, .go 0,
    .tick 1350, .go 0, .go 0, .go 0, .tick 2000, .tick 2050, .go 0, .tick 2350, .go 0, .go 0, .go 0, .go 0]

/-- the flickering target among the others, and alone: the same calls, the same changes -/
theorem targets_apart_mixed :
    let s := run mixed (start mixed) twoSeconds
    let s'' := run (mixed.only flickering) (start (mixed.only flickering)) alone
    (mixed.targets.map (·.host)).Nodup ∧ mixed.Prompt ∧ mixed.targets[2]? = some flickering ∧ .stop ∉ twoSeconds ∧
      s.isAtRest = true ∧ .stop ∉ alone ∧ s''.isAtRest = true ∧ s''.now = s.now ∧
      startTime (mixed.only flickering) (start (mixed.only flickering)) alone = some 50 ∧
      s.log.length = 3 ∧
      callsIn mixed 2 (start mixed) twoSeconds = [(50, .list 0), (1050, .list 1), (2050, .list 2)] ∧
      callsIn (mixed.only flickering) 0 (start (mixed.only flickering)) alone =
        callsIn mixed 2 (start mixed) twoSeconds ∧
      s''.log = logOf "nas" s.log := by
  intro s s''
  have hosts : (mixed.targets.map (·.host)).Nodup := by decide +kernel
  have prompt : mixed.Prompt := fun _ _ => rfl
  have htwo : .stop ∉ twoSeconds := by decide +kernel
  have halone : .stop ∉ alone := by decide +kernel
  obtain ⟨hrest, hrest', hnow, hlog, hcalls⟩ : s.isAtRest = true ∧ s''.isAtRest = true ∧ s''.now = s.now ∧
      s.log.length = 3 ∧
      callsIn mixed 2 (start mixed) twoSeconds = [(50, .list 0), (1050, .list 1), (2050, .list 2)] := by decide +kernel
  have hstart : startTime (mixed.only flickering) (start (mixed.only flickering)) alone = some 50 := by decide +kernel
  have hstart' : startTime mixed (start mixed) twoSeconds = some 50 := by decide +kernel
  have ht : mixed.targets[2]? = some flickering := rfl
  obtain ⟨-, hunique⟩ := targets_apart mixed hosts prompt ht twoSeconds
  obtain ⟨hsame, hsame'⟩ := hunique htwo hrest alone halone (hstart.trans hstart'.symm) hnow hrest'
  exact ⟨hosts, prompt, ht, htwo, hrest, halone, hrest', hnow, hstart, hlog, hcalls, hsame, hsame'⟩

end ServiceMonitor.Monitor
