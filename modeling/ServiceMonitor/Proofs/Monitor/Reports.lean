import ServiceMonitor.Proofs.Monitor.Attempts

/-!
One report and one phase of a worker, beside the reference watch.

A worker tells the tracker its reports one by one, and the watch can be told the same (`Watch.tell`). `Agrees` says that both
know the same of the target's host and services.

- `Agrees.tell`: the tracker answers a report as the watch expects; `Agrees.tell_other`: a report on another host does not
  matter.
- `proceed_expected`: a worker that goes on takes up the reports that the watch expects of the phase that is over.
-/

namespace ServiceMonitor.Monitor

/-! ## Reports told to the watch -/

namespace Watch

def tell (skipFirst : Bool) (t : Target) : Report → Watch → Watch × List Change
  | .success => reach t
  | .failure reason => miss t reason
  | .observe o => see skipFirst t o

def tellAll (skipFirst : Bool) (t : Target) : List Report → Watch → Watch × List Change
  | [], w => (w, [])
  | r :: rs, w => andThen (w.tell skipFirst t r) (tellAll skipFirst t rs)

theorem tellAll_observe (skipFirst : Bool) (t : Target) (os : List Observation) :
    tellAll skipFirst t (os.map .observe) = seeAll skipFirst t os := by
  induction os with
  | nil => rfl
  | cons o os ih => funext w; simp only [List.map_cons, tellAll, seeAll, ih, tell]

theorem tellAll_single (skipFirst : Bool) (t : Target) (r : Report) (w : Watch) :
    tellAll skipFirst t [r] w = w.tell skipFirst t r := by
  simp [tellAll, andThen]

theorem see_startup (skipFirst : Bool) (t : Target) (o : Observation) (w : Watch) :
    (w.see skipFirst t o).1.startup = w.startup := by
  simp only [see]; split_ifs <;> rfl

theorem tell_startup (skipFirst : Bool) (t : Target) (r : Report) (w : Watch) :
    (w.tell skipFirst t r).1.startup = w.startup := by
  cases r with
  | success => rfl
  | failure reason => rfl
  | observe o => exact see_startup skipFirst t o w

end Watch

/-! ## The tracker and the watch -/

/-- the tracker has recorded for a target's host and services what the watch knows -/
structure Agrees (t : Target) (w : Watch) (tracker : Tracker) : Prop where
  down : w.down = true ↔ tracker.reachability t.host = .unreachable
  known : ∀ name, w.known name = tracker.lifecycle ⟨t.host, name, t.provider.source⟩

theorem agrees_start (t : Target) (skipFirst : Bool) : Agrees t .start (.start skipFirst) := by
  have h : (Tracker.start skipFirst).reachability t.host = .unknown := rfl
  refine ⟨?_, fun _ => rfl⟩
  rw [h]
  simp [Watch.start]

theorem tell_skipFirst (t : Target) (tracker : Tracker) (r : Report) :
    (Worker.tell t tracker r).1.skipFirst = tracker.skipFirst := by
  cases r <;> simp [Worker.tell]

/-- **One report.** The tracker answers the worker as the watch expects, and both know the same behind it. -/
theorem Agrees.tell {t : Target} {w : Watch} {tracker : Tracker} (h : Agrees t w tracker) (r : Report) :
    Agrees t (w.tell tracker.skipFirst t r).1 (Worker.tell t tracker r).1 ∧
      (Worker.tell t tracker r).2.toList = (w.tell tracker.skipFirst t r).2 := by
  cases r with
  | success =>
    refine ⟨⟨?_, fun name => ?_⟩, ?_⟩
    · simp [Watch.tell, Watch.reach, Worker.tell, Tracker.success_reachability]
    · simpa [Watch.tell, Watch.reach, Worker.tell] using h.known name
    · simp only [Watch.tell, Watch.reach, Worker.tell, Tracker.success_snd, h.down]
      split_ifs <;> rfl
  | failure reason =>
    refine ⟨⟨?_, fun name => ?_⟩, ?_⟩
    · simp [Watch.tell, Watch.miss, Worker.tell, Tracker.failure_reachability]
    · simpa [Watch.tell, Watch.miss, Worker.tell] using h.known name
    · simp only [Watch.tell, Watch.miss, Worker.tell, Tracker.failure_snd, h.down]
      split_ifs <;> rfl
  | observe o =>
    have hk := h.known o.name
    have key : Tracker.keyOf t.host t.provider.source o = ⟨t.host, o.name, t.provider.source⟩ := rfl
    simp only [Watch.tell, Worker.tell, Watch.see, Tracker.observe_snd, key, ← hk]
    by_cases hsame : o.state = .unknown ∨ o.state = w.known o.name
    · rw [if_pos hsame, if_pos (by tauto)]
      refine ⟨⟨by simpa using h.down, fun name => ?_⟩, rfl⟩
      rw [Tracker.observe_lifecycle, key, h.known name]
      split_ifs with hn
      · obtain ⟨hn, hu⟩ := hn
        simp only [ServiceKey.mk.injEq, true_and, and_true] at hn
        subst hn
        rcases hsame with hs | hs
        · exact absurd hs hu
        · rw [hs, hk]
      · rfl
    · rw [if_neg hsame]
      rw [not_or] at hsame
      refine ⟨⟨by simpa using h.down, fun name => ?_⟩, ?_⟩
      · simp only [Tracker.observe_lifecycle, key, Function.update_apply, ServiceKey.mk.injEq, true_and, and_true,
          hsame.1, ne_eq, not_false_eq_true, h.known name, eq_comm]
      · simp only [hsame.1, hsame.2, false_or]
        split_ifs <;> rfl

/-- a report on another host does not matter -/
theorem Agrees.tell_other {t t' : Target} {w : Watch} {tracker : Tracker} (h : Agrees t w tracker)
    (hne : t'.host ≠ t.host) (r : Report) : Agrees t w (Worker.tell t' tracker r).1 := by
  cases r with
  | success =>
    refine ⟨?_, by simpa [Worker.tell] using h.known⟩
    rw [h.down]
    simp [Worker.tell, Tracker.success_reachability, hne]
  | failure reason =>
    refine ⟨?_, by simpa [Worker.tell] using h.known⟩
    rw [h.down]
    simp [Worker.tell, Tracker.failure_reachability, hne]
  | observe o =>
    refine ⟨by simpa [Worker.tell] using h.down, fun name => ?_⟩
    simp [Worker.tell, Tracker.observe_lifecycle, Tracker.keyOf, hne, h.known name]

/-- what a report makes the tracker say is about the target's host -/
theorem tell_host {t : Target} {tracker : Tracker} {r : Report} {ch : Change}
    (h : (Worker.tell t tracker r).2 = some ch) : ch.host = t.host := by
  cases r with
  | success =>
    simp only [Worker.tell, Tracker.success_snd] at h
    split_ifs at h; cases h; rfl
  | failure reason =>
    simp only [Worker.tell, Tracker.failure_snd] at h
    split_ifs at h; cases h; rfl
  | observe o =>
    simp only [Worker.tell, Tracker.observe_snd] at h
    split_ifs at h; cases h; rfl

/-! ## One worker -/

/-- the reports that a phase has still to make -/
def Phase.pending : Phase → List Report
  | .reporting _ reports _ => reports
  | _ => []

def Phase.isReporting : Phase → Bool
  | .reporting .. => true
  | _ => false

theorem pending_of_not_reporting {phase : Phase} (h : phase.isReporting = false) : phase.pending = [] := by
  cases phase with
  | reporting free reports next => cases h
  | _ => rfl

theorem waiting_not_reporting {phase : Phase} (h : phase.isWaiting = true) : phase.isReporting = false := by
  cases phase with
  | reporting free reports next => cases h
  | _ => rfl

/-- a worker that goes on makes the first of its reports, or it has none to make and proceeds -/
theorem go_cases (p : Policy) (hold : Change → Nat) (t : Target) (now : ℕ) (tracker : Tracker) (w : Worker) :
    (∃ free r rs next busy, w.phase = .reporting free (r :: rs) next ∧
      w.go p hold t now tracker = ({ w with phase := .reporting busy rs next }, Worker.tell t tracker r)) ∨
    (w.phase.pending = [] ∧ w.go p hold t now tracker = (w.proceed p t now, tracker, none)) := by
  obtain ⟨phase, startup, failures, lists, subscribes⟩ := w
  cases phase with
  | reporting free reports next =>
    cases reports with
    | nil => exact Or.inr ⟨rfl, rfl⟩
    | cons r rs =>
      exact Or.inl ⟨free, r, rs, next, now + ((Worker.tell t tracker r).2.map hold).getD 0, rfl, rfl⟩
  | _ => exact Or.inr ⟨rfl, rfl⟩

/-- where subscribers do not wait, the report behind the first can be made at once -/
theorem go_prompt (p : Policy) {hold : Change → Nat} (prompt : ∀ ch, hold ch = 0) (t : Target) (now : ℕ)
    (tracker : Tracker) (w : Worker) :
    (∃ free r rs next, w.phase = .reporting free (r :: rs) next ∧
      w.go p hold t now tracker = ({ w with phase := .reporting now rs next }, Worker.tell t tracker r)) ∨
    (w.phase.pending = [] ∧ w.go p hold t now tracker = (w.proceed p t now, tracker, none)) := by
  rcases go_cases p hold t now tracker w with ⟨free, r, rs, next, -, hphase, -⟩ | hproceeds
  · refine Or.inl ⟨free, r, rs, next, hphase, ?_⟩
    have hbusy : ((Worker.tell t tracker r).2.map hold).getD 0 = 0 := by
      cases (Worker.tell t tracker r).2 <;> simp [prompt]
    simp only [Worker.go, hphase, hbusy, Nat.add_zero]
  · exact Or.inr hproceeds

/-- what a watch expects of a phase that is over: the outcome of its attempt, if it is one -/
def Watch.afterPhase (skipFirst : Bool) (t : Target) (m : Watch) (phase : Phase) : Watch × List Change :=
  match phase.attempt? with
  | some a => m.after skipFirst t a
  | none => (m, [])

/-- what a list call has to tell is what the watch makes of its answer -/
theorem tellAll_reportsOf (skipFirst : Bool) (t : Target) (m : Watch) (answer : ListAnswer)
    (h : (m.startup && Worker.isPermanent answer) = false) :
    m.begun.tellAll skipFirst t (Worker.reportsOf answer) = m.after skipFirst t (.listed answer) := by
  cases answer with
  | ok os =>
    simp only [Worker.reportsOf, Watch.tellAll, Watch.tellAll_observe, Watch.tell, Watch.after]
  | error e =>
    have : ¬(m.startup = true ∧ e.isPermanent = true) := by
      simpa [Worker.isPermanent] using h
    rw [Worker.reportsOf, Watch.tellAll_single, Watch.after, if_neg this, Watch.tell]

theorem after_opened_error {skipFirst : Bool} {t : Target} {m : Watch} {e : SubscriptionError}
    (h : e ≠ .unsupported) :
    m.after skipFirst t (.opened (.error e)) =
      if m.startup ∧ e.isPermanent then (m, []) else m.begun.miss t e.message := by
  cases e with
  | unsupported => exact absurd rfl h
  | opening cause => rfl
  | closed reason => rfl

theorem proceed_opening_error {p : Policy} {t : Target} {now ends : ℕ} {e : SubscriptionError} (h : e ≠ .unsupported)
    (startup : Bool) (failures lists subscribes : ℕ) :
    Worker.proceed p t now ⟨.opening ends (.error e), startup, failures, lists, subscribes⟩ =
      if startup && e.isPermanent then ⟨.done, startup, failures, lists, subscribes⟩
      else ⟨.reporting now [.failure e.message] .reopen, false, failures + 1, lists, subscribes⟩ := by
  cases e with
  | unsupported => exact absurd rfl h
  | opening cause => rfl
  | closed reason => rfl

/-- behind a failure the task tries again, polls or breaks off; it has told everything -/
theorem reopen_cases (p : Policy) (now : ℕ) (w : Worker) :
    ∃ phase, w.reopen p now = { w with phase := phase } ∧
      (phase = .ticking (p.firstTick now) ∨ phase = .done ∨ ∃ t, phase = .pausing t) := by
  simp only [Worker.reopen]
  split_ifs with h
  · exact ⟨_, rfl, Or.inl rfl⟩
  · split
    · exact ⟨_, rfl, Or.inr (Or.inr ⟨_, rfl⟩)⟩
    · exact ⟨_, rfl, Or.inr (Or.inl rfl)⟩

/-- **One phase.** A worker that has told everything and goes on takes up the reports that the watch expects of the
phase. -/
theorem proceed_expected (p : Policy) (t : Target) (now : ℕ) (skipFirst : Bool) (m : Watch) (w : Worker)
    (hm : m.startup = w.startup) (hp : w.phase.pending = [])
    (hresync : ∀ stream ends answer, w.phase = .resyncing stream ends answer → w.startup = false) :
    m.afterPhase skipFirst t w.phase =
      Watch.tellAll skipFirst t (w.proceed p t now).phase.pending
        { m with startup := (w.proceed p t now).startup } := by
  obtain ⟨phase, startup, failures, lists, subscribes⟩ := w
  simp only at hm hp hresync
  subst hm
  have same : (m, []) = Watch.tellAll skipFirst t [] m := rfl
  cases phase with
  | fresh =>
    simp only [Worker.proceed, Watch.afterPhase, Phase.attempt?]
    split <;> exact same
  | ticking due => exact same
  | polling due ends answer =>
    simp only [Worker.proceed, Watch.afterPhase, Phase.attempt?]
    by_cases h : (m.startup && Worker.isPermanent answer) = true
    · rw [if_pos h]
      cases answer with
      | ok os => simp [Worker.isPermanent] at h
      | error e =>
        have : m.startup = true ∧ e.isPermanent = true := by simpa [Worker.isPermanent] using h
        rw [Watch.after, if_pos this]
        exact same
    · rw [if_neg h]
      exact (tellAll_reportsOf skipFirst t m answer (by simpa using h)).symm
  | subscribing => exact same
  | opening ends answer =>
    simp only [Watch.afterPhase, Phase.attempt?]
    cases answer with
    | ok stream => rfl
    | error e =>
      by_cases hu : e = .unsupported
      · subst hu; rfl
      · rw [after_opened_error hu, proceed_opening_error hu]
        by_cases h : (m.startup && e.isPermanent) = true
        · rw [if_pos h, if_pos (by simpa using h)]
          exact same
        · rw [if_neg h, if_neg (by simpa using h)]
          exact (Watch.tellAll_single skipFirst t (.failure e.message) m.begun).symm
  | resyncing stream ends answer =>
    -- a subscription was opened before, so a permanent failure does not end the task any more
    have hs : m.startup = false := hresync stream ends answer rfl
    have hbegun : m.begun = m := by rw [Watch.begun, ← hs]
    simp only [Worker.proceed, Watch.afterPhase, Phase.attempt?]
    rw [← tellAll_reportsOf skipFirst t m answer (by rw [hs]; rfl), hbegun]
    rfl
  | listening item rest =>
    cases item with
    | none => exact same
    | some item =>
      obtain ⟨due, item⟩ := item
      simp only [Worker.proceed, Watch.afterPhase, Phase.attempt?]
      cases item with
      | observation o =>
        simp only [Watch.after, Phase.pending, Watch.tellAll, Watch.andThen, Watch.tell, List.append_nil]
      | fault e => exact (Watch.tellAll_single skipFirst t (.failure e.message) m).symm
      | closed => exact (Watch.tellAll_single skipFirst t (.failure Worker.closedByProvider) m).symm
  | reporting free reports next =>
    simp only [Phase.pending] at hp
    subst hp
    cases next with
    | tick due => exact same
    | listen stream =>
      cases stream with
      | nil => exact same
      | cons item rest => exact same
    | reopen =>
      obtain ⟨phase, hw, hphase⟩ :=
        reopen_cases p now ⟨.reporting free [] .reopen, m.startup, failures, lists, subscribes⟩
      simp only [Worker.proceed, hw]
      rcases hphase with rfl | rfl | ⟨_, rfl⟩ <;> exact same
  | pausing until_ => exact same
  | done => exact same

end ServiceMonitor.Monitor
