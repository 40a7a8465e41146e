import ServiceMonitor.Proofs.Monitor.OpenStream

/-!
What is tracked of services that a provider pushes.

A `World` runs beside a monitor. It knows the state that each service of one target really has, which changes at any moment
between two acts, and the transitions that the provider has emitted on the open stream and the worker has not taken yet. The
provider is well behaved (`WellBehaved`):
- an item that the worker takes is the next transition since the provider accepted the subscription;
- a list call that succeeds returns each service in a state that it had since the call began;
- services are never in an unknown state.
Nothing is said of what happens while there is no stream, of calls that fail, or of when a stream is lost. A list may well be
newer than transitions that are still queued, so what is tracked can go back behind it for a while.

- `Ahead`: what is tracked of a service, with the queued transitions carried out on it, is the state it has; before that,
  the same of every state that the list call may return.
- `step_tracks`, `run_tracks`: everything that may happen keeps this from the list call behind an opened subscription on.
- `push_converges`: so once the queue is empty the tracked state is the real one.
-/

namespace ServiceMonitor.Monitor

/-! ## Services and their provider -/

/-- a service goes over to a state -/
structure Transition where
  name : String
  state : ServiceMonitor.Lifecycle
  deriving DecidableEq

/-- what transitions, one after the other, make of a state of a service -/
def carried (queue : List Transition) (name : String) (state : ServiceMonitor.Lifecycle) : ServiceMonitor.Lifecycle :=
  queue.foldl (fun state x => if x.name = name then x.state else state) state

theorem carried_cons (x : Transition) (queue : List Transition) (name : String) (state : ServiceMonitor.Lifecycle) :
    carried (x :: queue) name state = carried queue name (if x.name = name then x.state else state) := rfl

theorem carried_snoc (queue : List Transition) (x : Transition) (name : String) (state : ServiceMonitor.Lifecycle) :
    carried (queue ++ [x]) name state = if x.name = name then x.state else carried queue name state := by
  simp [carried]

/-- the acts of a monitor, and what is really the case with the services of one target -/
structure World where
  acts : List Act
  /-- the state that a service has -/
  actual : String → ServiceMonitor.Lifecycle
  /-- the transitions since the subscription was accepted that the worker has not taken yet -/
  queue : List Transition
  /-- the states that a service had since the last list call began -/
  seen : String → List ServiceMonitor.Lifecycle
  /-- the provider has accepted the subscription attempt under way -/
  accepted : Bool

/-- one thing that happens -/
inductive Happening where
  | act (a : Act)
  | turn (x : Transition)
  /-- the provider accepts the subscription attempt under way, and emits transitions from now on -/
  | accept

/-- the attempt is an observation that a stream yielded -/
def Attempt.isItem : Attempt → Bool
  | .pushed (.observation _) => true
  | _ => false

def Attempt.isOpening : Attempt → Bool
  | .opened _ => true
  | _ => false

def Phase.isOpening : Phase → Bool
  | .opening .. => true
  | _ => false

def Phase.isResyncing : Phase → Bool
  | .resyncing .. => true
  | _ => false

namespace World

def start (actual : String → ServiceMonitor.Lifecycle) : World := ⟨[], actual, [], fun _ => [], false⟩

def monitor (c : Setup) (w : World) : St := Monitor.run c (Monitor.start c) w.acts

/-- worker `i` begins a list call with an act -/
def asks (c : Setup) (i : ℕ) (s : St) (a : Act) : Bool := (s.workerAt i).lists < ((Monitor.step c s a).workerAt i).lists

def step (c : Setup) (i : ℕ) (w : World) : Happening → World
  | .act a =>
    let ended := endedBy i (w.monitor c) a
    { acts := w.acts ++ [a]
      actual := w.actual
      queue := w.queue.drop (ended.countP Attempt.isItem)
      seen := if asks c i (w.monitor c) a then fun name => [w.actual name] else w.seen
      accepted := w.accepted && !ended.any Attempt.isOpening }
  | .turn x =>
    { w with
      actual := Function.update w.actual x.name x.state
      queue := w.queue ++ [x]
      seen := Function.update w.seen x.name (w.seen x.name ++ [x.state]) }
  | .accept => { w with queue := [], accepted := true }

def run (c : Setup) (i : ℕ) (w : World) (hs : List Happening) : World := hs.foldl (step c i) w

/-- the outcome of an attempt is one that a well-behaved provider has for it -/
def Truthful (names : List String) (w : World) : Attempt → Prop
  | .listed (.ok os) =>
    (∀ name ∈ names, ∃ o ∈ os, o.name = name) ∧ ∀ o ∈ os, o.name ∈ names → o.state ∈ w.seen o.name
  | .opened (.ok _) => w.accepted = true
  | .pushed (.observation o) => w.queue.head? = some ⟨o.name, o.state⟩
  | _ => True

/-- what may happen if worker `i` observes services `names` through a well-behaved provider -/
def Allows (c : Setup) (i : ℕ) (names : List String) (w : World) : Happening → Prop
  | .act a => ∀ x ∈ endedBy i (w.monitor c) a, w.Truthful names x
  | .turn x => x.state ≠ .unknown
  | .accept => ((w.monitor c).workerAt i).phase.isOpening = true

/-- the provider is well behaved all along -/
def WellBehaved (c : Setup) (i : ℕ) (names : List String) : World → List Happening → Prop
  | _, [] => True
  | w, h :: hs => w.Allows c i names h ∧ WellBehaved c i names (w.step c i h) hs

instance (names : List String) (w : World) : DecidablePred (w.Truthful names)
  | .listed (.ok _) => inferInstanceAs (Decidable (_ ∧ _))
  | .listed (.error _) => inferInstanceAs (Decidable True)
  | .opened (.ok _) => inferInstanceAs (Decidable (_ = _))
  | .opened (.error _) => inferInstanceAs (Decidable True)
  | .pushed (.observation _) => inferInstanceAs (Decidable (_ = _))
  | .pushed (.fault _) => inferInstanceAs (Decidable True)
  | .pushed .closed => inferInstanceAs (Decidable True)
  | .abandoned => inferInstanceAs (Decidable True)

instance (c : Setup) (i : ℕ) (names : List String) (w : World) : DecidablePred (w.Allows c i names)
  | .act a => inferInstanceAs (Decidable (∀ x ∈ endedBy i (w.monitor c) a, w.Truthful names x))
  | .turn _ => inferInstanceAs (Decidable (_ ≠ _))
  | .accept => inferInstanceAs (Decidable (_ = _))

instance decidableWellBehaved (c : Setup) (i : ℕ) (names : List String) :
    ∀ (w : World) (hs : List Happening), Decidable (WellBehaved c i names w hs)
  | _, [] => inferInstanceAs (Decidable True)
  | w, h :: hs =>
    haveI := decidableWellBehaved c i names (w.step c i h) hs
    inferInstanceAs (Decidable (_ ∧ _))

end World

/-! ## A queue of transitions -/

/-- a queue leaves a service alone, or says what becomes of it whatever it was -/
theorem carried_cases (queue : List Transition) (name : String) :
    (∀ state, carried queue name state = state) ∨ ∃ last, ∀ state, carried queue name state = last := by
  induction queue using List.reverseRecOn with
  | nil => exact Or.inl fun _ => rfl
  | append_singleton queue x ih =>
    by_cases hx : x.name = name
    · exact Or.inr ⟨x.state, fun state => by rw [carried_snoc, if_pos hx]⟩
    · simpa only [carried_snoc, if_neg hx] using ih

/-- a state that a queue comes back to is kept by the rest of it -/
theorem carried_drop {queue : List Transition} {name : String} {state : ServiceMonitor.Lifecycle}
    (h : carried queue name state = state) (n : ℕ) : carried (queue.drop n) name state = state := by
  induction n generalizing queue with
  | zero => exact h
  | succ n ih =>
    cases queue with
    | nil => rfl
    | cons x queue =>
      rw [carried_cons] at h
      refine ih ?_
      rcases carried_cases queue name with hsame | ⟨last, hlast⟩
      · exact hsame state
      · rw [hlast] at h ⊢; exact h

/-! ## What the watch knows of a service -/

namespace Watch

variable {skipFirst : Bool} {t : Target} {w : Watch} {name : String}

theorem see_known (o : Observation) : (w.see skipFirst t o).1.known name =
    if o.name = name ∧ o.state ≠ .unknown then o.state else w.known name := by
  by_cases hsame : o.state = .unknown ∨ o.state = w.known o.name
  · have hsee : (w.see skipFirst t o).1 = w := by simp only [see, if_pos hsame]
    rw [hsee]
    split_ifs with h
    · obtain ⟨rfl, hu⟩ := h
      exact (hsame.resolve_left hu).symm
    · rfl
  · have hsee : (w.see skipFirst t o).1.known = Function.update w.known o.name o.state := by
      simp only [see, if_neg hsame]
    rw [not_or] at hsame
    rw [hsee, Function.update_apply]
    by_cases hn : o.name = name
    · rw [if_pos hn.symm, if_pos ⟨hn, hsame.1⟩]
    · rw [if_neg (Ne.symm hn), if_neg fun hcond => hn hcond.1]

/-- behind a list that tells of a service, it is known in one of the states that the list tells -/
theorem seeAll_known {states : List ServiceMonitor.Lifecycle} {os : List Observation}
    (hstates : ∀ o ∈ os, o.name = name → o.state ∈ states ∧ o.state ≠ .unknown)
    (h : w.known name ∈ states ∨ ∃ o ∈ os, o.name = name) :
    (w.seeAll skipFirst t os).1.known name ∈ states := by
  induction os generalizing w with
  | nil => exact h.resolve_right (by simp)
  | cons o os ih =>
    rw [seeAll, andThen]
    refine ih (fun o' ho' => hstates o' (List.mem_cons_of_mem o ho')) ?_
    rw [see_known]
    by_cases hn : o.name = name
    · obtain ⟨hmem, hu⟩ := hstates o List.mem_cons_self hn
      rw [if_pos ⟨hn, hu⟩]
      exact Or.inl hmem
    · rw [if_neg fun hcond => hn hcond.1]
      rcases h with hw | ⟨o', ho', hn'⟩
      · exact Or.inl hw
      · rcases List.mem_cons.1 ho' with rfl | ho'
        · exact absurd hn' hn
        · exact Or.inr ⟨o', ho', hn'⟩

end Watch

/-! ## What is tracked -/

/-- the state that the watch of a target knows of a service behind attempts -/
def knownOf (c : Setup) (t : Target) (as : List Attempt) (name : String) : ServiceMonitor.Lifecycle :=
  (Watch.run c.policy.skipFirst t as .start).1.known name

/-- the queued transitions lead from what a list may return, or from what the watch knows of a service once a list has, to
the state that the service has -/
def Ahead (c : Setup) (t : Target) (names : List String) (w : World) (as : List Attempt) (phase : Phase) : Prop :=
  match phase with
  | .resyncing .. => ∀ name ∈ names, ∀ state ∈ w.seen name, carried w.queue name state = w.actual name
  | .reporting _ _ (.listen _) | .listening .. =>
    resynced as = true → ∀ name ∈ names, carried w.queue name (knownOf c t as name) = w.actual name
  | _ => True

/-- a world and what is tracked of its services -/
structure Tracks (c : Setup) (i : ℕ) (t : Target) (names : List String) (w : World) : Prop where
  known : ∀ name ∈ names, w.actual name ≠ .unknown
  seen : ∀ name ∈ names, .unknown ∉ w.seen name
  queue : ∀ x ∈ w.queue, x.state ≠ .unknown
  actual : ∀ name, carried w.queue name (w.actual name) = w.actual name
  ahead : Ahead c t names w (attempts c i (start c) w.acts) ((w.monitor c).workerAt i).phase

section

variable {c : Setup} {i : ℕ} {t : Target} {names : List String} {w w' : World} {as : List Attempt}

theorem knownOf_listed {os : List Observation} {name : String}
    (hseen : .unknown ∉ w.seen name) (hname : name ∈ names) (h : w.Truthful names (.listed (.ok os))) :
    knownOf c t (as ++ [.listed (.ok os)]) name ∈ w.seen name := by
  obtain ⟨hall, hstates⟩ := h
  rw [knownOf, Watch.run_snoc]
  refine Watch.seeAll_known (fun o ho hn => ?_) (Or.inr (hall name hname))
  have hmem := hstates o ho (hn.symm ▸ hname)
  rw [hn] at hmem
  exact ⟨hmem, fun hu => hseen (hu ▸ hmem)⟩

theorem knownOf_item (o : Observation) (hu : o.state ≠ .unknown) (name : String) :
    knownOf c t (as ++ [.pushed (.observation o)]) name = if o.name = name then o.state else knownOf c t as name := by
  rw [knownOf, Watch.run_snoc]
  simp only [Watch.andThen, Watch.after, Watch.see_known, ne_eq, hu, not_false_eq_true, and_true]
  rfl

/-- what is tracked stays ahead where nothing is asked, taken or changed -/
theorem ahead_of_eq {phase : Phase} (h : Ahead c t names w as phase) (hactual : w'.actual = w.actual)
    (hqueue : w'.queue = w.queue) (hseen : phase.isResyncing = true → w'.seen = w.seen) :
    Ahead c t names w' as phase := by
  cases phase with
  | resyncing stream ends answer => simpa only [Ahead, hactual, hqueue, hseen rfl] using h
  | reporting free reports next =>
    cases next with
    | listen rest => simpa only [Ahead, hactual, hqueue] using h
    | tick due => trivial
    | reopen => trivial
  | listening item rest => simpa only [Ahead, hactual, hqueue] using h
  | _ => trivial

theorem Ahead.of_left {phase : Phase} (h : phase.isOnStream = false) : Ahead c t names w as phase := by
  unfold Ahead
  split <;> trivial

/-- a worker that goes on to its next phase keeps what is tracked ahead -/
theorem proceed_ahead {wk : Worker} (now : ℕ) (htold : wk.phase.pending = []) (hw : Tracks c i t names w)
    (h : Ahead c t names w as wk.phase) (hstream : OnStream c.policy.skipFirst t as wk.phase)
    (htruth : ∀ x ∈ wk.phase.attempt?.toList, w.Truthful names x) (hactual : w'.actual = w.actual)
    (hqueue : w'.queue = w.queue.drop (wk.phase.attempt?.toList.countP Attempt.isItem))
    (hseen : w'.seen = if wk.lists < (wk.proceed c.policy t now).lists then fun name => [w.actual name] else w.seen) :
    Ahead c t names w' (as ++ wk.phase.attempt?.toList) (wk.proceed c.policy t now).phase := by
  cases proceed_stream c.policy t now htold with
  | opens _ _ next lists =>
    -- the list call begins here: whatever changes from now on is queued as well
    rw [next]
    intro name hname state hstate
    rw [hseen, if_pos lists, List.mem_singleton] at hstate
    rw [hqueue, hactual, hstate]
    exact carried_drop (hw.actual name) _
  | lists answer phase ended next =>
    rw [phase] at h hstream
    rw [ended] at htruth hqueue
    rw [next, ended]
    intro hresynced name hname
    cases answer with
    | error e =>
      have hfailed : sinceOpened (as ++ [.listed (.error e)]) = some (.listed (.error e) :: yields []) := by
        rw [sinceOpened_snoc, hstream.1]
        rfl
      rw [resynced_eq hfailed] at hresynced
      cases hresynced
    | ok os =>
      have hlisted := htruth _ List.mem_cons_self
      rw [hqueue, hactual]
      exact h name hname _ (knownOf_listed (hw.seen name hname) hname hlisted)
  | yields o phase ended next =>
    rw [phase] at h hstream
    rw [ended] at htruth hqueue
    rw [next, ended]
    intro hresynced name hname
    obtain ⟨answer, os, hsince, -⟩ := hstream
    have hresynced' : resynced as = true := by
      rw [resynced_eq hsince]
      rw [resynced_eq (sinceOpened_yields hsince o)] at hresynced
      exact hresynced
    have hnext : w.queue.head? = some ⟨o.name, o.state⟩ := htruth _ List.mem_cons_self
    obtain ⟨queue, hcons⟩ := List.head?_eq_some_iff.1 hnext
    have hstate : o.state ≠ .unknown := hw.queue ⟨o.name, o.state⟩ (hcons ▸ List.mem_cons_self)
    have hahead := h hresynced' name hname
    rw [hcons, carried_cons] at hahead
    rw [hqueue, hactual, hcons, knownOf_item o hstate]
    exact hahead
  | @waits _ _ rest item phase ended next =>
    rw [phase] at h
    rw [ended] at hqueue
    rw [next, ended, List.append_nil]
    have hwaits : Ahead c t names w as (.listening item rest) := h
    exact ahead_of_eq hwaits hactual hqueue (by rintro ⟨⟩)
  | silent phase ended next =>
    rw [ended] at hqueue
    rw [next, ended, List.append_nil]
    exact ahead_of_eq h hactual hqueue (by rw [phase]; rintro ⟨⟩)
  | leaves next => exact Ahead.of_left next

/-- an act keeps it ahead -/
theorem step_ahead {s s' : St} {ended : List Attempt} (hstep : WorkerStep c i t s s' ended) (hw : Tracks c i t names w)
    (h : Ahead c t names w as (s.workerAt i).phase) (hstream : OnStream c.policy.skipFirst t as (s.workerAt i).phase)
    (htruth : ∀ x ∈ ended, w.Truthful names x) (hactual : w'.actual = w.actual)
    (hqueue : w'.queue = w.queue.drop (ended.countP Attempt.isItem))
    (hseen : w'.seen = if (s.workerAt i).lists < (s'.workerAt i).lists then fun name => [w.actual name] else w.seen) :
    Ahead c t names w' (as ++ ended) (s'.workerAt i).phase := by
  cases hstep with
  | rests worker =>
    rw [worker, if_neg (lt_irrefl _)] at hseen
    rw [worker, List.append_nil]
    exact ahead_of_eq h hactual hqueue fun _ => hseen
  | other _ _ _ worker =>
    rw [worker, if_neg (lt_irrefl _)] at hseen
    rw [worker, List.append_nil]
    exact ahead_of_eq h hactual hqueue fun _ => hseen
  | @tells _ _ _ _ next _ phase worker =>
    rw [phase] at h
    rw [worker, List.append_nil]
    cases next <;> exact ahead_of_eq h hactual hqueue (by rintro ⟨⟩)
  | proceeds _ told worker =>
    rw [worker] at hseen ⊢
    exact proceed_ahead s.now told hw h hstream htruth hactual hqueue hseen
  | quits _ worker => rw [worker]; trivial

/-- a transition keeps it ahead: it is queued, and a list under way may tell of it -/
theorem turn_ahead {phase : Phase} (h : Ahead c t names w as phase) (x : Transition) :
    Ahead c t names (w.step c i (.turn x)) as phase := by
  have hcarried : ∀ name state, carried w.queue name state = w.actual name →
      carried (w.queue ++ [x]) name state = Function.update w.actual x.name x.state name := by
    intro name state hsame
    rw [carried_snoc, Function.update_apply, hsame]
    exact if_congr eq_comm rfl rfl
  cases phase with
  | resyncing stream ends answer =>
    intro name hname state hstate
    simp only [World.step, Function.update_apply w.seen] at hstate
    split_ifs at hstate with hn
    · subst hn
      rcases List.mem_append.1 hstate with hstate | hstate
      · exact hcarried x.name state (h x.name hname state hstate)
      · rw [List.mem_singleton] at hstate
        simp only [World.step, carried_snoc, Function.update_self, if_true]
    · exact hcarried name state (h name hname state hstate)
  | reporting free reports next =>
    cases next with
    | listen rest => exact fun hresynced name hname => hcarried name _ (h hresynced name hname)
    | tick due => trivial
    | reopen => trivial
  | listening item rest => exact fun hresynced name hname => hcarried name _ (h hresynced name hname)
  | _ => trivial

/-! ## Runs -/

theorem start_tracks {actual : String → ServiceMonitor.Lifecycle} (hknown : ∀ name ∈ names, actual name ≠ .unknown) :
    Tracks c i t names (.start actual) where
  known := hknown
  seen _ _ := List.not_mem_nil
  queue _ hx := absurd hx List.not_mem_nil
  actual _ := rfl
  ahead := trivial

/-- **One happening.** What the provider is allowed keeps what is tracked ahead. -/
theorem step_tracks (ht : c.targets[i]? = some t) (h : Tracks c i t names w) {x : Happening}
    (hallows : w.Allows c i names x) : Tracks c i t names (w.step c i x) := by
  cases x with
  | act a =>
    refine ⟨h.known, ?_, fun x hx => h.queue x (List.mem_of_mem_drop hx), fun name => carried_drop (h.actual name) _, ?_⟩
    · intro name hname
      simp only [World.step]
      split_ifs
      · rw [List.mem_singleton]
        exact (h.known name hname).symm
      · exact h.seen name hname
    · have hstep := step_worker ht (run_sound c w.acts) a
      have hseen : (w.step c i (.act a)).seen =
          if ((w.monitor c).workerAt i).lists < ((Monitor.step c (w.monitor c) a).workerAt i).lists
            then fun name => [w.actual name] else w.seen := by
        simp only [World.step, World.asks, decide_eq_true_eq]
      have hqueue : (w.step c i (.act a)).queue =
          w.queue.drop ((endedBy i (w.monitor c) a).countP Attempt.isItem) := rfl
      have hactual : (w.step c i (.act a)).actual = w.actual := rfl
      have hnext := step_ahead hstep h h.ahead (run_onStream ht w.acts) hallows hactual hqueue hseen
      rw [← attempts_snoc] at hnext
      change Ahead c t names _ _ ((run c (start c) (w.acts ++ [a])).workerAt i).phase
      rw [run_snoc]
      exact hnext
  | turn x =>
    refine ⟨fun name hname => ?_, fun name hname => ?_, fun y hy => ?_, fun name => ?_, turn_ahead h.ahead x⟩
    · simp only [World.step, Function.update_apply]
      split_ifs
      · exact hallows
      · exact h.known name hname
    · simp only [World.step, Function.update_apply]
      split_ifs with hn
      · rw [List.mem_append, List.mem_singleton, not_or]
        exact ⟨hn ▸ h.seen name hname, Ne.symm hallows⟩
      · exact h.seen name hname
    · rcases List.mem_append.1 hy with hy | hy
      · exact h.queue y hy
      · rw [List.mem_singleton.1 hy]
        exact hallows
    · simp only [World.step, carried_snoc, Function.update_apply]
      by_cases hn : x.name = name
      · rw [if_pos hn, if_pos hn.symm]
      · rw [if_neg hn, if_neg (Ne.symm hn), h.actual name]
  | accept =>
    refine ⟨h.known, h.seen, fun _ hx => absurd hx List.not_mem_nil, fun _ => rfl, ?_⟩
    have hopening : ((w.monitor c).workerAt i).phase.isOpening = true := hallows
    change Ahead c t names _ _ ((w.monitor c).workerAt i).phase
    cases hphase : ((w.monitor c).workerAt i).phase with
    | opening ends answer => trivial
    | _ => rw [hphase] at hopening; cases hopening

theorem run_tracks (ht : c.targets[i]? = some t) (hs : List Happening) (h : Tracks c i t names w)
    (hwell : World.WellBehaved c i names w hs) : Tracks c i t names (w.run c i hs) := by
  induction hs generalizing w with
  | nil => exact h
  | cons x hs ih =>
    obtain ⟨hallows, hwell⟩ := hwell
    exact ih (step_tracks ht h hallows) hwell

/-- **Tracked states converge.** Let a target be the only one of its host, its services never in an unknown state and its
provider well behaved. Whenever its worker waits on an open stream, in any run, and the list call behind it has succeeded, the
tracked state of each service, with the transitions carried out on it that the worker has not taken yet, is the state that
the service has. Once all of them are taken, it is the tracked state itself. -/
theorem push_converges (ht : c.targets[i]? = some t) (alone : Alone c i t) {actual : String → ServiceMonitor.Lifecycle}
    (hknown : ∀ name ∈ names, actual name ≠ .unknown) {hs : List Happening}
    (hwell : World.WellBehaved c i names (.start actual) hs) :
    let w := World.run c i (.start actual) hs
    let s := w.monitor c
    (s.workerAt i).phase.isListening = true → resynced (attempts c i (start c) w.acts) = true → ∀ name ∈ names,
      let tracked := s.tracker.lifecycle ⟨t.host, name, t.provider.source⟩
      carried w.queue name tracked = w.actual name ∧ (w.queue = [] → tracked = w.actual name) := by
  intro w s hlistening hresynced name hname tracked
  have hahead := (run_tracks ht hs (start_tracks hknown) hwell).ahead
  obtain ⟨item, rest, hphase⟩ := listening_of_isListening hlistening
  have htold : (s.workerAt i).phase.pending = [] := by rw [hphase]; rfl
  have hagree := ((run_follows_alone alone ht w.acts).settled htold).known name
  have hcarried : carried w.queue name tracked = w.actual name := by
    rw [hphase] at hahead
    rw [← hahead hresynced name hname]
    exact congrArg (carried w.queue name) hagree.symm
  refine ⟨hcarried, fun hqueue => ?_⟩
  rw [hqueue] at hcarried
  exact hcarried

end

/-! ## A list call that overtakes the stream -/

/-- its stream closes, and the list call behind the next one tells of more than the first items that it yields -/
def overtaking : Target where
  host := "nas"
  provider :=
    { source := "agent"
      pushes := true
      list := fun n => ⟨0, .ok [⟨"db", .running, ""⟩, ⟨"web", if n = 0 then .running else .stopped, ""⟩]⟩
      subscribe := fun n =>
        ⟨0, .ok (if n = 0 then [(10, .closed)]
          else [(10, .observation ⟨"db", .stopped, ""⟩), (10, .observation ⟨"db", .running, ""⟩)])⟩ }
  strategy := .push

def overtake : Setup := ⟨[overtaking], Policy.standard, fun _ _ => 0⟩

/-- the first stream is opened and lost, and one service stops while there is none; the next stream is opened, and the other
service stops and starts again before the list call has its answer -/
def reopening : List Happening :=
  [(1, .act .start), (2, .act (.go 0)), (1, .accept), (6, .act (.go 0)), (1, .act (.tick 10)), (3, .act (.go 0)),
    (1, .turn ⟨"web", .stopped⟩), (1, .act (.tick 1010)), (2, .act (.go 0)), (1, .accept), (1, .turn ⟨"db", .stopped⟩),
    (1, .act (.go 0)), (1, .turn ⟨"db", .running⟩), (5, .act (.go 0))].flatMap fun (n, x) => List.replicate n x

/-- the first of its two items is taken, then the second -/
def itemsTaken (n : ℕ) : List Happening :=
  ([1020, 1030].take n).flatMap fun time => .act (.tick time) :: List.replicate 4 (.act (.go 0))

/-- this happens until `n` items of the second stream are taken -/
def overtakenBy (n : ℕ) : List Happening := reopening ++ itemsTaken n

def allRun : String → ServiceMonitor.Lifecycle := fun _ => .running

theorem overtake_alone : Alone overtake 0 overtaking := by
  intro j t' h hne
  cases j with
  | zero => exact absurd rfl hne
  | succ j => simp [overtake] at h

/-- the first item is older than the list: with it what is tracked goes back behind the list, until the second is taken -/
example : [0, 1, 2].map (fun n =>
    ((World.run overtake 0 (.start allRun) (overtakenBy n)).monitor overtake).tracker.lifecycle ⟨"nas", "db", "agent"⟩) =
      [.running, .stopped, .running] := by
  decide +kernel

theorem push_converges_overtaken :
    overtake.targets[0]? = some overtaking ∧ Alone overtake 0 overtaking ∧
    (∀ name ∈ ["db", "web"], allRun name ≠ .unknown) ∧
    World.WellBehaved overtake 0 ["db", "web"] (.start allRun) (overtakenBy 2) ∧
    let w := World.run overtake 0 (.start allRun) (overtakenBy 2)
    let s := w.monitor overtake
    (s.workerAt 0).phase.isListening = true ∧ resynced (attempts overtake 0 (start overtake) w.acts) = true ∧
      w.queue = [] ∧ ∀ name ∈ ["db", "web"],
        s.tracker.lifecycle ⟨overtaking.host, name, overtaking.provider.source⟩ = w.actual name := by
  have ht : overtake.targets[0]? = some overtaking := rfl
  have hknown : ∀ name ∈ ["db", "web"], allRun name ≠ .unknown := by decide
  have hwell : World.WellBehaved overtake 0 ["db", "web"] (.start allRun) (overtakenBy 2) := by decide +kernel
  have hconverges := push_converges ht overtake_alone hknown hwell
  refine ⟨ht, overtake_alone, hknown, hwell, ?_⟩
  intro w s
  have hpoint : (s.workerAt 0).phase.isListening = true ∧
      resynced (attempts overtake 0 (start overtake) w.acts) = true ∧ w.queue = [] := by decide +kernel
  obtain ⟨hlistening, hresynced, hqueue⟩ := hpoint
  refine ⟨hlistening, hresynced, hqueue, fun name hname => ?_⟩
  exact (hconverges hlistening hresynced name hname).2 hqueue

end ServiceMonitor.Monitor
