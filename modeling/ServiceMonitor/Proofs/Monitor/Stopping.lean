import ServiceMonitor.Proofs.Monitor.OpenStream
import ServiceMonitor.Proofs.Monitor.Stopped

/-!
How long a stop takes.

A stop cuts every wait short and sees list calls and reports through; it returns when no task is left (`St.isOver`).

- `go_timely`, `go_closer`: a list call lasts no longer than the timeout, and a worker that is at no select comes closer to
  its end.
- `WindingDown`: behind a stop whose selects take no other branch, the clock goes as far as the last list call in flight and
  no further, and every worker that goes on comes closer to its end (`Phase.rank`).
- `stop_ends_monitor`: all of it, and when exactly the stop returns.
- `stop_outlasts_call`: where a task comes out of its call to a tick that is due, the stop may last longer.
-/

namespace ServiceMonitor.Monitor

/-! ## Phases -/

/-- the worker is at a select that may have another branch ready beside the stop: a tick, the outcome of a subscription
attempt, an item, the end of a pause -/
def Phase.isAtSelect : Phase → Bool
  | .ticking _ | .opening .. | .listening .. | .pausing _ => true
  | _ => false

/-- the end of the list call that the worker is in -/
def Phase.callEnds? : Phase → Option ℕ
  | .polling _ ends _ | .resyncing _ ends _ => some ends
  | _ => none

/-- how many steps a worker that is to stop can still take -/
def Phase.rank : Phase → ℕ
  | .done => 0
  | .ticking _ | .opening .. | .listening .. | .pausing _ => 1
  | .subscribing => 2
  | .fresh => 3
  | .reporting _ reports _ => reports.length + 2
  | .polling _ _ answer | .resyncing _ _ answer => (Worker.reportsOf answer).length + 3

/-- a list call is over when the timeout is, and no report is held up -/
def Phase.Timely (limit now : ℕ) : Phase → Prop
  | .polling _ ends _ | .resyncing _ ends _ => ends ≤ now + limit
  | .reporting free _ _ => free ≤ now
  | _ => True

theorem Phase.Timely.later {limit now now' : ℕ} {phase : Phase} (h : phase.Timely limit now) (hle : now ≤ now') :
    phase.Timely limit now' := by
  cases phase <;> simp only [Phase.Timely] at h ⊢ <;> omega

theorem Phase.Timely.callEnds_le {limit now e : ℕ} {phase : Phase} (h : phase.Timely limit now)
    (he : phase.callEnds? = some e) : e ≤ now + limit := by
  cases phase <;> simp only [Phase.callEnds?, Option.some.injEq, reduceCtorEq] at he <;> subst he <;> exact h

theorem limited_le {ε α : Type} (p : Policy) (late : ε) (now : ℕ) (r : Reply (Except ε α)) :
    (p.limited late now r).1 ≤ now + p.limit := by
  simp only [Policy.limited]
  split_ifs with h
  · exact Nat.add_le_add_left h now
  · exact le_rfl

theorem proceed_timely (p : Policy) (t : Target) (now : ℕ) (w : Worker) :
    (w.proceed p t now).phase.Timely p.limit now := by
  obtain ⟨phase, startup, failures, lists, subscribes⟩ := w
  cases phase with
  | fresh => simp only [Worker.proceed]; split <;> trivial
  | ticking due => exact limited_le p _ now _
  | polling due ends answer => simp only [Worker.proceed]; split <;> first | trivial | exact le_rfl
  | subscribing => trivial
  | opening ends answer =>
    cases answer with
    | ok stream => exact limited_le p _ now _
    | error e =>
      by_cases hu : e = .unsupported
      · subst hu; trivial
      · rw [proceed_opening_error hu]
        split <;> first | trivial | exact le_rfl
  | resyncing stream ends answer => exact le_rfl (a := now)
  | listening item rest =>
    cases item with
    | none => trivial
    | some item =>
      obtain ⟨due, item⟩ := item
      cases item <;> exact le_rfl (a := now)
  | reporting free reports next =>
    cases reports with
    | cons r rs => exact le_rfl (a := now)
    | nil =>
      cases next with
      | tick due => trivial
      | listen stream => cases stream <;> trivial
      | reopen =>
        obtain ⟨phase, hw, hphase⟩ :=
          reopen_cases p now ⟨.reporting free [] .reopen, startup, failures, lists, subscribes⟩
        simp only [Worker.proceed, hw]
        rcases hphase with rfl | rfl | ⟨_, rfl⟩ <;> trivial
  | pausing until_ => trivial
  | done => trivial

/-- where subscribers do not wait, a worker that goes on is in time -/
theorem go_timely (p : Policy) {hold : Change → ℕ} (prompt : ∀ ch, hold ch = 0) (t : Target) (now : ℕ)
    (tracker : Tracker) (w : Worker) : (w.go p hold t now tracker).1.phase.Timely p.limit now := by
  rcases go_prompt p prompt t now tracker w with ⟨free, r, rs, next, -, hgo⟩ | ⟨-, hgo⟩
  · rw [hgo]; exact le_rfl (a := now)
  · rw [hgo]; exact proceed_timely p t now w

/-- a worker that is at no select comes closer to its end when it goes on, and begins no list call -/
theorem proceed_closer (p : Policy) (t : Target) (now : ℕ) {w : Worker} (hselect : w.phase.isAtSelect = false)
    (hdone : w.phase ≠ .done) (htold : w.phase.pending = []) :
    (w.proceed p t now).phase.rank < w.phase.rank ∧ (w.proceed p t now).phase.callEnds? = none := by
  obtain ⟨phase, startup, failures, lists, subscribes⟩ := w
  cases phase with
  | fresh => simp only [Worker.proceed]; split <;> exact ⟨by simp [Phase.rank], rfl⟩
  | polling due ends answer =>
    simp only [Worker.proceed]
    split
    · exact ⟨Nat.succ_pos _, rfl⟩
    · exact ⟨Nat.lt_succ_self _, rfl⟩
  | subscribing => exact ⟨Nat.lt_succ_self 1, rfl⟩
  | resyncing stream ends answer => exact ⟨Nat.lt_succ_self _, rfl⟩
  | reporting free reports next =>
    simp only [Phase.pending] at htold
    subst htold
    cases next with
    | tick due => exact ⟨Nat.lt_succ_self 1, rfl⟩
    | listen stream => cases stream <;> exact ⟨Nat.lt_succ_self 1, rfl⟩
    | reopen =>
      obtain ⟨phase, hw, hphase⟩ :=
        reopen_cases p now ⟨.reporting free [] .reopen, startup, failures, lists, subscribes⟩
      simp only [Worker.proceed, hw]
      rcases hphase with rfl | rfl | ⟨_, rfl⟩ <;> exact ⟨by simp [Phase.rank], rfl⟩
  | done => exact absurd rfl hdone
  | _ => cases hselect

theorem go_closer (p : Policy) {hold : Change → ℕ} (prompt : ∀ ch, hold ch = 0) (t : Target) (now : ℕ)
    (tracker : Tracker) {w : Worker} (hselect : w.phase.isAtSelect = false) (hdone : w.phase ≠ .done) :
    (w.go p hold t now tracker).1.phase.rank < w.phase.rank ∧
      (w.go p hold t now tracker).1.phase.callEnds? = none := by
  rcases go_prompt p prompt t now tracker w with ⟨free, r, rs, next, hphase, hgo⟩ | ⟨htold, hgo⟩
  · rw [hgo, hphase]
    exact ⟨Nat.lt_succ_self _, rfl⟩
  · rw [hgo]
    exact proceed_closer p t now hselect hdone htold

/-! ## The time of a stop -/

/-- when the last list call in flight is over; now if there is none -/
def St.callsOver (s : St) : ℕ := (s.workers.filterMap (·.phase.callEnds?)).foldl max s.now

theorem callsOver_spec (s : St) :
    (s.callsOver = s.now ∨ ∃ w ∈ s.workers, w.phase.callEnds? = some s.callsOver) ∧ s.now ≤ s.callsOver ∧
      ∀ w ∈ s.workers, ∀ e, w.phase.callEnds? = some e → e ≤ s.callsOver := by
  have hlast : (s.now :: s.workers.filterMap (·.phase.callEnds?)).max? = some s.callsOver := List.max?_cons'
  obtain ⟨hmem, hmax⟩ := List.max?_eq_some_iff.1 hlast
  refine ⟨?_, hmax _ List.mem_cons_self, fun w hw e he => ?_⟩
  · rcases List.mem_cons.1 hmem with hnow | hcall
    · exact Or.inl hnow
    · exact Or.inr (List.mem_filterMap.1 hcall)
  · exact hmax e (List.mem_cons_of_mem _ (List.mem_filterMap.2 ⟨w, hw, he⟩))

/-- a select takes a branch of its own although it could notice the stop -/
def otherBranch (s : St) : Act → Bool
  | .go j => (s.workers[j]?).any fun w => w.phase.isAtSelect && s.isReady w
  | _ => false

/-- no select takes another branch than the stop, be it that none is ready or that the stop is noticed first -/
def StopFirst (c : Setup) : St → List Act → Prop
  | _, [] => True
  | s, a :: acts => otherBranch s a = false ∧ StopFirst c (step c s a) acts

instance decidableStopFirst (c : Setup) : ∀ (s : St) (acts : List Act), Decidable (StopFirst c s acts)
  | _, [] => inferInstanceAs (Decidable True)
  | s, a :: acts =>
    haveI := decidableStopFirst c (step c s a) acts
    inferInstanceAs (Decidable (_ ∧ _))

/-- nothing is left to be done at this time -/
def St.isAtRest (s : St) : Bool := s.canTick s.now

/-- behind a stop: list calls in flight last until `E`, and nobody waits for anything else -/
structure WindingDown (c : Setup) (E : ℕ) (s : St) : Prop where
  stopped : s.lifecycle = .stopped
  staffed : s.workers.length ≤ c.targets.length
  timely : ∀ w ∈ s.workers, w.phase.Timely c.policy.limit s.now
  calls : ∀ w ∈ s.workers, ∀ e, w.phase.callEnds? = some e → e ≤ E
  clock : s.runningTasks ≠ 0 → s.now ≤ E
  last : s.now < E → ∃ w ∈ s.workers, w.phase.callEnds? = some E

/-- the steps that the workers can still take -/
def St.rank (s : St) : ℕ := (s.workers.map (·.phase.rank)).sum

theorem sum_set_lt {l : List ℕ} {j a b : ℕ} (h : l[j]? = some a) (hlt : b < a) : (l.set j b).sum < l.sum := by
  induction l generalizing j with
  | nil => simp at h
  | cons x l ih =>
    cases j with
    | zero =>
      simp only [List.getElem?_cons_zero, Option.some.injEq] at h
      simp [h, hlt]
    | succ j =>
      simp only [List.getElem?_cons_succ] at h
      simpa using ih h

section

variable {c : Setup} {E : ℕ} {s s' : St}

/-- behind a stop a worker that has nothing to do has ended or is in a list call -/
theorem resting_phase {w : Worker} (hstopped : s.lifecycle = .stopped) (htimely : w.phase.Timely c.policy.limit s.now)
    (hready : s.isReady w = false) (hquit : s.mustQuit w = false) (hdone : w.phase ≠ .done) :
    ∃ e, w.phase.callEnds? = some e ∧ w.phase.due? = some e ∧ s.now < e := by
  have hwaits : w.phase.isWaiting = false := by simpa [St.mustQuit, hstopped] using hquit
  cases hphase : w.phase with
  | fresh => simp [St.isReady, hphase, Phase.due?] at hready
  | polling due ends answer =>
    simp only [St.isReady, hphase, Phase.due?, decide_eq_false_iff_not, not_le] at hready
    exact ⟨ends, rfl, rfl, hready⟩
  | resyncing stream ends answer =>
    simp only [St.isReady, hphase, Phase.due?, decide_eq_false_iff_not, not_le] at hready
    exact ⟨ends, rfl, rfl, hready⟩
  | reporting free reports next =>
    rw [hphase] at htimely
    simp only [St.isReady, hphase, Phase.due?, decide_eq_false_iff_not] at hready
    exact absurd htimely hready
  | done => exact absurd hphase hdone
  | _ => rw [hphase] at hwaits; cases hwaits

/-- a worker that goes on or quits, put in the place where it was -/
theorem WindingDown.replace (h : WindingDown c E s) {j : ℕ} {w w' : Worker} (hw : s.workers[j]? = some w)
    (hdone : w.phase ≠ .done) (hover : ∀ e, w.phase.callEnds? = some e → e ≤ s.now)
    (hcall : w'.phase.callEnds? = none) (htimely : w'.phase.Timely c.policy.limit s.now)
    (hstopped : s'.lifecycle = .stopped) (hworkers : s'.workers = s.workers.set j w') (hnow : s'.now = s.now) :
    WindingDown c E s' where
  stopped := hstopped
  staffed := by rw [hworkers, List.length_set]; exact h.staffed
  timely := by
    rw [hworkers, hnow]
    intro v hv
    rcases List.mem_or_eq_of_mem_set hv with hv | rfl
    · exact h.timely v hv
    · exact htimely
  calls := by
    rw [hworkers]
    intro v hv e he
    rcases List.mem_or_eq_of_mem_set hv with hv | rfl
    · exact h.calls v hv e he
    · rw [hcall] at he; cases he
  clock _ := by
    rw [hnow]
    refine h.clock fun hzero => hdone ?_
    exact runningTasks_eq_zero.1 hzero w (List.mem_of_getElem? hw)
  last hlt := by
    rw [hnow] at hlt
    obtain ⟨v, hv, he⟩ := h.last hlt
    obtain ⟨k, hk⟩ := List.mem_iff_getElem?.1 hv
    -- the worker in the last call is another one
    have hne : j ≠ k := by
      rintro rfl
      rw [hw] at hk
      cases hk
      exact absurd (hover E he) (not_le.2 hlt)
    refine ⟨v, List.mem_of_getElem? (i := k) ?_, he⟩
    rw [hworkers, List.getElem?_set_ne hne]
    exact hk

/-- a worker that can be cut short has not ended, and is in no list call -/
theorem waiting_phase {phase : Phase} (h : phase.isWaiting = true) :
    phase ≠ .done ∧ phase.callEnds? = none ∧ 0 < phase.rank := by
  cases phase with
  | fresh | polling | resyncing | reporting | done => cases h
  | _ => exact ⟨by simp, rfl, by simp [Phase.rank]⟩

/-- a worker that is ready has not ended, and a list call of it is over -/
theorem ready_over {w : Worker} (hready : s.isReady w = true) :
    w.phase ≠ .done ∧ ∀ e, w.phase.callEnds? = some e → e ≤ s.now := by
  refine ⟨fun hd => ?_, fun e he => ?_⟩
  · rw [(done_rests hd).1] at hready
    cases hready
  · cases hphase : w.phase <;> rw [hphase] at he <;> cases he <;> simpa [St.isReady, hphase, Phase.due?] using hready

/-- **One act** behind a stop that takes no other branch. -/
theorem WindingDown.step (h : WindingDown c E s) (prompt : c.Prompt) {a : Act} (hfirst : otherBranch s a = false) :
    WindingDown c E (step c s a) := by
  have hstopped := stopped_stays (c := c) h.stopped a
  cases step_workers c s a with
  | same workers now =>
    exact
      { stopped := hstopped
        staffed := by rw [workers]; exact h.staffed
        timely := by rw [workers, now]; exact h.timely
        calls := by rw [workers]; exact h.calls
        clock := by rw [St.runningTasks, workers, now]; exact h.clock
        last := by rw [workers, now]; exact h.last }
  | @ticks time can workers now =>
    simp only [St.canTick, Bool.and_eq_true, decide_eq_true_eq, List.all_eq_true, Bool.not_eq_true'] at can
    obtain ⟨hle, hall⟩ := can
    refine
      { stopped := hstopped, staffed := by rw [workers]; exact h.staffed, timely := ?_,
        calls := by rw [workers]; exact h.calls, clock := ?_, last := ?_ }
    · rw [workers, now]
      exact fun w hw => (h.timely w hw).later hle
    · -- somebody is in a list call, which the clock does not pass
      intro hrunning
      rw [St.runningTasks, workers, ← St.runningTasks] at hrunning
      obtain ⟨w, hw, hdone⟩ : ∃ w ∈ s.workers, w.phase ≠ .done := by
        by_contra hnone
        push Not at hnone
        exact hrunning (runningTasks_eq_zero.2 hnone)
      obtain ⟨⟨hready, hquit⟩, hdue⟩ := hall w hw
      obtain ⟨e, hcall, he, -⟩ := resting_phase h.stopped (h.timely w hw) hready hquit hdone
      simp only [he, decide_eq_true_eq] at hdue
      rw [now]
      exact hdue.trans (h.calls w hw e hcall)
    · rw [workers, now]
      exact fun hlt => h.last (hle.trans_lt hlt)
  | spawns idle => rw [h.stopped] at idle; cases idle
  | @goes j t w _ worker ready workers now =>
    obtain ⟨hdone, hover⟩ := ready_over ready
    have hselect : w.phase.isAtSelect = false := by
      simpa [otherBranch, worker, ready] using hfirst
    have hhold := prompt s.log.length
    obtain ⟨-, hcall⟩ := go_closer c.policy hhold t s.now s.tracker hselect hdone
    exact h.replace worker hdone hover hcall (go_timely _ hhold _ _ _ _) hstopped workers now
  | @quits j w worker must workers now =>
    obtain ⟨hdone, hcall, -⟩ := waiting_phase (waits_of_mustQuit must)
    refine h.replace worker hdone (by simp [hcall]) ?_ ?_ hstopped workers now
    exacts [rfl, trivial]

theorem WindingDown.run (h : WindingDown c E s) (prompt : c.Prompt) {acts : List Act} (hfirst : StopFirst c s acts) :
    WindingDown c E (run c s acts) := by
  induction acts generalizing s with
  | nil => exact h
  | cons a acts ih => exact ih (h.step prompt hfirst.1) hfirst.2

/-- at rest at the end of the last call or later, everybody has ended -/
theorem WindingDown.over (h : WindingDown c E s) (hE : E ≤ s.now) (hrest : s.isAtRest = true) : s.runningTasks = 0 := by
  simp only [St.isAtRest, St.canTick, Bool.and_eq_true, List.all_eq_true, Bool.not_eq_true'] at hrest
  refine runningTasks_eq_zero.2 fun w hw => ?_
  by_contra hdone
  obtain ⟨⟨hready, hquit⟩, -⟩ := hrest.2 w hw
  obtain ⟨e, hcall, -, hlt⟩ := resting_phase h.stopped (h.timely w hw) hready hquit hdone
  exact absurd (h.calls w hw e hcall) (not_le.2 (hE.trans_lt hlt))

/-! ## The end of a stop -/

/-- a worker that has something to do comes closer to its end, and takes no other branch than the stop -/
theorem WindingDown.closer (h : WindingDown c E s) (prompt : c.Prompt) {j : ℕ} {w : Worker} (hw : s.workers[j]? = some w)
    (hbusy : s.isReady w = true ∨ s.mustQuit w = true) :
    ∃ a, otherBranch s a = false ∧ (Monitor.step c s a).rank < s.rank ∧ (Monitor.step c s a).now = s.now := by
  have hrank (w' : Worker) (s' : St) (hlt : w'.phase.rank < w.phase.rank) (hs' : s'.workers = s.workers.set j w') :
      s'.rank < s.rank := by
    rw [St.rank, St.rank, hs', List.map_set]
    exact sum_set_lt (by rw [List.getElem?_map, hw, Option.map_some]) hlt
  by_cases hq : s.mustQuit w = true
  · obtain ⟨hstep, -⟩ := quit_stays (c := c) hw hq
    have hlt := (waiting_phase (waits_of_mustQuit hq)).2.2
    exact ⟨.quit j, rfl, hrank w.quit _ hlt (by rw [hstep]), by rw [hstep]⟩
  · have hready := hbusy.resolve_right hq
    -- at a select it would have to notice the stop
    have hselect : w.phase.isAtSelect = false := by
      simp only [St.mustQuit, h.stopped, decide_true, Bool.true_and] at hq
      cases hphase : w.phase <;> rw [hphase] at hq <;> simp_all [Phase.isWaiting, Phase.isAtSelect]
    obtain ⟨hlt, -⟩ := List.getElem?_eq_some_iff.1 hw
    have ht := List.getElem?_eq_getElem (hlt.trans_le h.staffed)
    refine ⟨.go j, by simp [otherBranch, hw, hselect], ?_⟩
    rcases step_go_cases c s j with ⟨t, w', -, hw', -, hstep⟩ | ⟨hnone, -⟩
    · rw [hw] at hw'
      cases hw'
      refine ⟨hrank _ _ (go_closer c.policy (prompt s.log.length) t s.now s.tracker hselect (ready_over hready).1).1 ?_,
        by rw [hstep]⟩
      rw [hstep]
    · rw [hnone _ w ht hw] at hready
      cases hready

/-- behind a stop and at rest, the clock can go on to the end of a list call -/
theorem WindingDown.ticks (h : WindingDown c E s) (hrunning : s.runningTasks ≠ 0)
    (hidle : ∀ w ∈ s.workers, s.isReady w = false ∧ s.mustQuit w = false) :
    ∃ time w, s.canTick time = true ∧ time ≤ E ∧ w ∈ s.workers ∧ w.phase.due? = some time := by
  have hphase (w : Worker) (hw : w ∈ s.workers) (hdone : w.phase ≠ .done) :=
    resting_phase h.stopped (h.timely w hw) (hidle w hw).1 (hidle w hw).2 hdone
  obtain ⟨w₀, hw₀, hdone₀⟩ : ∃ w ∈ s.workers, w.phase ≠ .done := by
    by_contra hnone
    push Not at hnone
    exact hrunning (runningTasks_eq_zero.2 hnone)
  obtain ⟨e₀, -, hdue₀, -⟩ := hphase w₀ hw₀ hdone₀
  -- the first of the times that somebody waits for
  obtain ⟨time, htime⟩ : ∃ time, s.nextDue = some time := by
    refine Option.ne_none_iff_exists'.1 fun hnone => ?_
    rw [St.nextDue, List.min?_eq_none_iff] at hnone
    exact List.not_mem_nil (hnone ▸ List.mem_filterMap.2 ⟨w₀, hw₀, hdue₀⟩)
  obtain ⟨hmem, hmin⟩ := List.min?_eq_some_iff.1 htime
  obtain ⟨w, hw, hdue⟩ := List.mem_filterMap.1 hmem
  have hdone : w.phase ≠ .done := fun hd => by rw [hd] at hdue; cases hdue
  obtain ⟨e, hcall, he, hlt⟩ := hphase w hw hdone
  obtain rfl : e = time := Option.some.inj (he.symm.trans hdue)
  refine ⟨e, w, ?_, h.calls w hw e hcall, hw, hdue⟩
  simp only [St.canTick, Bool.and_eq_true, decide_eq_true_eq, List.all_eq_true, Bool.not_eq_true']
  refine ⟨hlt.le, fun v hv => ⟨hidle v hv, ?_⟩⟩
  cases hv' : v.phase.due? with
  | none => rfl
  | some d => exact decide_eq_true (hmin d (List.mem_filterMap.2 ⟨v, hv, hv'⟩))

/-- **A stop returns**: from any state behind it, the workers can be brought to their end at the end of the last call. -/
theorem WindingDown.returns (h : WindingDown c E s) (prompt : c.Prompt) (hE : s.now ≤ E) :
    ∃ more, StopFirst c s more ∧ (Monitor.run c s more).runningTasks = 0 ∧ (Monitor.run c s more).now = E := by
  induction hn : s.rank using Nat.strongRecOn generalizing s with
  | _ n ih =>
    -- somebody goes on: from there it is the induction
    have hgoes {s : St} (h : WindingDown c E s) (hE : s.now ≤ E) (hrank : s.rank ≤ n)
        (hbusy : ∃ w ∈ s.workers, s.isReady w = true ∨ s.mustQuit w = true) :
        ∃ more, StopFirst c s more ∧ (Monitor.run c s more).runningTasks = 0 ∧ (Monitor.run c s more).now = E := by
      obtain ⟨w, hw, hbusy⟩ := hbusy
      obtain ⟨j, hj⟩ := List.mem_iff_getElem?.1 hw
      obtain ⟨a, hfirst, hlt, hnow⟩ := h.closer prompt hj hbusy
      obtain ⟨more, hmore, hover, hend⟩ := ih _ (hlt.trans_le hrank) (h.step prompt hfirst) (hnow ▸ hE) rfl
      exact ⟨a :: more, ⟨hfirst, hmore⟩, hover, hend⟩
    by_cases hrunning : s.runningTasks = 0
    · refine ⟨[], trivial, hrunning, hE.antisymm (not_lt.1 fun hlt => ?_)⟩
      obtain ⟨w, hw, hcall⟩ := h.last hlt
      rw [runningTasks_eq_zero.1 hrunning w hw] at hcall
      cases hcall
    by_cases hbusy : ∃ w ∈ s.workers, s.isReady w = true ∨ s.mustQuit w = true
    · exact hgoes h hE hn.le hbusy
    · push Not at hbusy
      simp only [Bool.not_eq_true] at hbusy
      obtain ⟨time, w, hcan, htime, hw, hdue⟩ := h.ticks hrunning hbusy
      have hstep : Monitor.step c s (.tick time) = { s with now := time } := by simp [Monitor.step, hcan]
      obtain ⟨more, hmore, hover, hend⟩ := hgoes (s := { s with now := time }) (hstep ▸ h.step prompt rfl) htime hn.le
        ⟨w, hw, Or.inl (by simp [St.isReady, hdue])⟩
      refine ⟨.tick time :: more, ⟨rfl, by rw [hstep]; exact hmore⟩, ?_⟩
      rw [Monitor.run, List.foldl_cons, hstep]
      exact ⟨hover, hend⟩

end

/-! ## Reachable states -/

section

variable {c : Setup}

theorem step_staffed {s : St} (h : s.workers.length ≤ c.targets.length) (a : Act) :
    (step c s a).workers.length ≤ c.targets.length := by
  cases step_workers c s a with
  | same workers => rw [workers]; exact h
  | ticks _ workers => rw [workers]; exact h
  | spawns _ workers => rw [workers, List.length_map]
  | goes _ _ _ workers => rw [workers, List.length_set]; exact h
  | quits _ _ workers => rw [workers, List.length_set]; exact h

theorem step_timely (prompt : c.Prompt) {s : St} (h : ∀ w ∈ s.workers, w.phase.Timely c.policy.limit s.now) (a : Act) :
    ∀ w ∈ (step c s a).workers, w.phase.Timely c.policy.limit (step c s a).now := by
  intro v hv
  cases step_workers c s a with
  | same workers now => rw [workers] at hv; rw [now]; exact h v hv
  | ticks can workers now =>
    simp only [St.canTick, Bool.and_eq_true, decide_eq_true_eq] at can
    rw [workers] at hv
    rw [now]
    exact (h v hv).later can.1
  | spawns _ workers =>
    rw [workers] at hv
    obtain ⟨_, -, rfl⟩ := List.mem_map.1 hv
    trivial
  | goes _ _ _ workers now =>
    rw [workers] at hv
    rw [now]
    rcases List.mem_or_eq_of_mem_set hv with hv | rfl
    · exact h v hv
    · exact go_timely _ (prompt s.log.length) _ _ _ _
  | quits _ _ workers now =>
    rw [workers] at hv
    rw [now]
    rcases List.mem_or_eq_of_mem_set hv with hv | rfl
    · exact h v hv
    · trivial

theorem run_timely (prompt : c.Prompt) (acts : List Act) :
    (run c (start c) acts).workers.length ≤ c.targets.length ∧
      ∀ w ∈ (run c (start c) acts).workers, w.phase.Timely c.policy.limit (run c (start c) acts).now := by
  induction acts using List.reverseRecOn with
  | nil => exact ⟨Nat.zero_le _, by simp [run, start]⟩
  | append_singleton acts a ih =>
    rw [run_snoc]
    exact ⟨step_staffed ih.1 a, step_timely prompt ih.2 a⟩

/-- a stop is called -/
theorem stop_windingDown (prompt : c.Prompt) (before : List Act) :
    let s := run c (start c) before
    WindingDown c s.callsOver (step c s .stop) ∧ s.now ≤ s.callsOver ∧ s.callsOver ≤ s.now + c.policy.limit := by
  intro s
  obtain ⟨hstaffed, htimely⟩ := run_timely prompt before
  obtain ⟨hwhich, hle, hall⟩ := callsOver_spec s
  refine ⟨⟨rfl, hstaffed, htimely, hall, fun _ => hle, fun hlt => ?_⟩, hle, ?_⟩
  · exact hwhich.resolve_left (ne_of_gt hlt)
  · rcases hwhich with hnow | ⟨w, hw, hcall⟩
    · rw [hnow]; exact Nat.le_add_right _ _
    · exact (htimely w hw).callEnds_le hcall

end

/-- **A stop ends the monitor.** Let any calls of start and stop, and anything else, have happened before.
- The first start succeeds, if there was no stop before it, and spawns a task for each target. Every other start is rejected
  and changes nothing.
- Where a stop is noticed in a wait, for a tick, the outcome of a subscription attempt, an item or the end of a pause, nothing
  is recorded or published, and the task neither makes a call nor does anything else from then on.
- Once a stop has returned there is no task, and nothing is called, recorded or published ever after.
- Let subscribers not wait. However the tasks take turns behind a stop, as long as no select takes another branch than the
  stop, tasks are left before the last list call in flight has finished or timed out, and none are left behind it, nor as
  soon as everything is done that can be done at this time. This is no later than the timeout, and from wherever the
  monitor is the stop can return, then. -/
theorem stop_ends_monitor (c : Setup) (before : List Act) :
    let s := run c (start c) before
    (s.startable = startAnswer before ∧
      (s.startable = .ok () → (step c s .start).workers = c.targets.map fun _ => .spawned) ∧
      (s.startable ≠ .ok () → step c s .start = s)) ∧
    (∀ j w, s.workers[j]? = some w → s.mustQuit w = true →
      let s' := step c s (.quit j)
      s'.tracker = s.tracker ∧ s'.log = s.log ∧ ∀ after, (run c s' after).workers[j]? = some w.quit) ∧
    (s.isOver = true → ∀ after,
      let s' := run c s after
      s'.isOver = true ∧ s'.workers = s.workers ∧ s'.tracker = s.tracker ∧ s'.log = s.log) ∧
    (c.Prompt → ∀ after, StopFirst c (step c s .stop) after →
      let s' := run c (step c s .stop) after
      s.callsOver ≤ s.now + c.policy.limit ∧
      (s'.now < s.callsOver → s'.runningTasks ≠ 0) ∧
      (s.callsOver < s'.now → s'.isOver = true) ∧
      (s'.now = s.callsOver → s'.isAtRest = true → s'.isOver = true) ∧
      ∃ more, StopFirst c s' more ∧ (run c s' more).isOver = true ∧
        (s'.now ≤ s.callsOver → (run c s' more).now = s.callsOver)) := by
  intro s
  refine ⟨⟨startable_eq c before, start_accepted, start_rejected⟩, fun j w hw hq => ?_, fun hover after => ?_,
    fun prompt after hfirst => ?_⟩
  · obtain ⟨hstep, hstays⟩ := quit_stays (c := c) hw hq
    exact ⟨by rw [hstep], by rw [hstep], hstays⟩
  · intro s'
    obtain ⟨time, hrun⟩ : ∃ time, s' = { s with now := time } := over_stays hover after
    rw [hrun]
    exact ⟨hover, rfl, rfl, rfl⟩
  · intro s'
    obtain ⟨hstop, -, hlimit⟩ := stop_windingDown prompt before
    have hdown : WindingDown c s.callsOver s' := hstop.run prompt hfirst
    have hisOver {s : St} {E : ℕ} (h : WindingDown c E s) (hzero : s.runningTasks = 0) : s.isOver = true := by
      simp [St.isOver, h.stopped, hzero]
    refine ⟨hlimit, fun hlt hzero => ?_, fun hlt => hisOver hdown ?_, fun hnow hrest => ?_, ?_⟩
    · obtain ⟨w, hw, hcall⟩ := hdown.last hlt
      rw [runningTasks_eq_zero.1 hzero w hw] at hcall
      cases hcall
    · by_contra hrunning
      exact absurd (hdown.clock hrunning) (not_le.2 hlt)
    · exact hisOver hdown (hdown.over hnow.ge hrest)
    · by_cases hle : s'.now ≤ s.callsOver
      · obtain ⟨more, hmore, hzero, hend⟩ := hdown.returns prompt hle
        exact ⟨more, hmore, hisOver (hdown.run prompt hmore) hzero, fun _ => hend⟩
      · refine ⟨[], trivial, hisOver hdown ?_, fun h => absurd h hle⟩
        by_contra hrunning
        exact hle (hdown.clock hrunning)

/-! ## A stop in the middle of everything -/

/-- a target that is asked for its list, and answers too late or not -/
def listed (host : String) (delay : ℕ) : Target where
  host := host
  provider :=
    { source := "agent"
      pushes := false
      list := fun _ => ⟨delay, .ok [⟨"db", .running, ""⟩]⟩
      subscribe := fun _ => ⟨0, .error .unsupported⟩ }
  strategy := .poll

/-- a target that takes a while to open a stream on which nothing comes -/
def streaming (host : String) (delay : ℕ) : Target where
  host := host
  provider :=
    { source := "agent"
      pushes := true
      list := fun _ => ⟨0, .ok []⟩
      subscribe := fun _ => ⟨delay, .ok []⟩ }
  strategy := .push

/-- a list call that takes a while and one that times out, an open stream and one that is being opened -/
def busy : Setup :=
  ⟨[listed "nas" 300, listed "cellar" 9000, streaming "edge" 0, streaming "attic" 400],
    { Policy.standard with timeout := .ofMillis 500 }, fun _ _ => 0⟩

/-- all four are under way -/
def underWay : List Act :=
  [(1, .start), (2, .go 0), (2, .go 1), (7, .go 2), (2, .go 3), (1, .tick 100)].flatMap fun (n, a) => List.replicate n a

/-- both waits are cut short, and the list calls are seen through -/
def wound : List Act :=
  [(1, .quit 2), (1, .quit 3), (1, .tick 300), (4, .go 0), (1, .quit 0), (1, .tick 500), (3, .go 1),
    (1, .quit 1)].flatMap fun (n, a) => List.replicate n a

example : (run busy (start busy) underWay).workers.map (·.phase.isWaiting) = [false, false, true, true] := by
  decide +kernel

/-- the stop returns with the list call that times out, and not before; the open stream is cut short at once -/
theorem stop_ends_monitor_busy :
    let s := run busy (start busy) underWay
    let s' := run busy (step busy s .stop) wound
    (busy.Prompt ∧ StopFirst busy (step busy s .stop) wound ∧ s.now = 100 ∧ s.callsOver = 500 ∧
      s'.now = 500 ∧ s'.isAtRest = true ∧ s'.isOver = true ∧ (∀ after, (run busy s' after).log = s'.log)) ∧
    (StopFirst busy (step busy s .stop) (wound.take 7) ∧ (run busy (step busy s .stop) (wound.take 7)).now = 300 ∧
      (run busy (step busy s .stop) (wound.take 7)).runningTasks ≠ 0) ∧
    let told := run busy (start busy) (underWay ++ [.stop])
    ∃ w, told.workers[2]? = some w ∧ told.mustQuit w = true ∧ w.phase.isListening = true ∧
      (step busy told (.quit 2)).tracker = told.tracker ∧
      ∀ after, (run busy (step busy told (.quit 2)) after).workers[2]? = some w.quit := by
  intro s s'
  have prompt : busy.Prompt := fun _ _ => rfl
  have hfirst : StopFirst busy (step busy s .stop) wound := by decide +kernel
  have hearly : StopFirst busy (step busy s .stop) (wound.take 7) := by decide +kernel
  obtain ⟨hnow, hcalls, hend, hrest⟩ :
      s.now = 100 ∧ s.callsOver = 500 ∧ s'.now = 500 ∧ s'.isAtRest = true := by decide +kernel
  obtain ⟨-, -, -, htime⟩ := stop_ends_monitor busy underWay
  have hover : s'.isOver = true := (htime prompt wound hfirst).2.2.2.1 (hend.trans hcalls.symm) hrest
  refine ⟨⟨prompt, hfirst, hnow, hcalls, hend, hrest, hover, fun after => ?_⟩, ?_, ?_⟩
  · obtain ⟨-, -, hstays, -⟩ := stop_ends_monitor busy (underWay ++ .stop :: wound)
    have hs' : run busy (start busy) (underWay ++ .stop :: wound) = s' := by
      simp only [s', s, run, List.foldl_append, List.foldl_cons]
    rw [hs'] at hstays
    exact (hstays hover after).2.2.2
  · have htimes : (run busy (step busy s .stop) (wound.take 7)).now = 300 := by decide +kernel
    refine ⟨hearly, htimes, (htime prompt _ hearly).2.1 ?_⟩
    rw [htimes, hcalls]
    decide
  · obtain ⟨-, hcut, -⟩ := stop_ends_monitor busy (underWay ++ [.stop])
    obtain ⟨w, hw⟩ : ∃ w, (run busy (start busy) (underWay ++ [.stop])).workers[2]? = some w :=
      Option.isSome_iff_exists.1 (by decide +kernel)
    have hphase : ((run busy (start busy) (underWay ++ [.stop])).workers[2]?).all (fun w =>
        (run busy (start busy) (underWay ++ [.stop])).mustQuit w && w.phase.isListening) = true := by decide +kernel
    rw [hw, Option.all_some, Bool.and_eq_true] at hphase
    obtain ⟨htracker, -, hstays⟩ := hcut 2 w hw hphase.1
    exact ⟨w, hw, hphase.1, hphase.2, htracker, hstays⟩

/-- a target that is polled every 100 ms, and takes 300 ms to answer -/
def overdue : Setup :=
  ⟨[listed "nas" 300], { Policy.standard with pollInterval := .ofMillis 100, timeout := .ofMillis 400 }, fun _ _ => 0⟩

/-- the first call is under way -/
def calling : List Act := [.start, .go 0, .go 0, .tick 50]

/-- behind the first call the tick that has become due is taken, and the second call is seen through -/
def calledAgain : List Act := .tick 300 :: List.replicate 5 (.go 0) ++ [.tick 600]

/-- **A stop can outlast the call in flight.** Subscribers do not wait, and no select has a branch ready when the stop is
called. The one call in flight is over at 300, and there the task comes back to its select with the next tick due. Where the
tick is taken and not the stop, another call is made, and the stop returns with that one, behind the timeout. -/
theorem stop_outlasts_call :
    let s := run overdue (start overdue) calling
    let s' := run overdue (step overdue s .stop) calledAgain
    (overdue.Prompt ∧ (∀ w ∈ s.workers, (w.phase.isAtSelect && s.isReady w) = false) ∧ s.now = 50 ∧ s.callsOver = 300 ∧
      s.workers.map (fun w => (w.lists, w.phase.callEnds?)) = [(1, some 300)]) ∧
    ¬StopFirst overdue (step overdue s .stop) calledAgain ∧
    (s.now + overdue.policy.limit = 450 ∧ s'.now = 600 ∧ s'.runningTasks = 1 ∧
      s'.workers.map (fun w => (w.lists, w.phase.callEnds?)) = [(2, some 600)]) ∧
    (run overdue s' (List.replicate 4 (.go 0) ++ [.quit 0])).isOver = true := by
  intro s s'
  refine ⟨⟨fun _ _ => rfl, ?_, ?_⟩, ?_⟩
  all_goals decide +kernel

end ServiceMonitor.Monitor
