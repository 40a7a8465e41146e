import ServiceMonitor.Proofs.Monitor.PollLoop

/-!
The cadence of the polls in a run of the monitor.

Whatever the other workers do, whatever the provider answers and however long the subscribers take, the polls of a worker keep to
the recurrence.

- `Looped.turn`, `Looped.other`, `run_looped`: what one act keeps of a worker's calls and its loop, and so every run.
- `poll_cadence`: every poll starts, is answered and ends at its time, and the polls are all the calls of the loop.
-/

namespace ServiceMonitor.Monitor

section

variable {c : Setup} {i : ℕ} {t : Target} {s s' : St} {x : Loop} {w : Worker}

/-! ## Runs -/

/-- a worker that is not in its loop begins it, or does not -/
theorem proceed_outside (p : Policy) (t : Target) (now : ℕ) (hout : w.phase.isPolling = false) :
    (w.proceed p t now).phase = .ticking (p.firstTick now) ∨ (w.proceed p t now).phase.isPolling = false := by
  obtain ⟨phase, startup, failures, lists, subscribes⟩ := w
  cases phase with
  | fresh =>
    simp only [Worker.proceed]
    split_ifs
    · exact Or.inr rfl
    · exact Or.inl rfl
  | ticking due => cases hout
  | polling due ends a => cases hout
  | subscribing => exact Or.inr rfl
  | opening ends a =>
    cases a with
    | ok stream => exact Or.inr rfl
    | error e =>
      by_cases hunsupported : e = .unsupported
      · subst hunsupported
        exact Or.inl rfl
      · rw [proceed_opening_error hunsupported]
        split_ifs
        · exact Or.inr rfl
        · exact Or.inr rfl
  | resyncing stream ends a => exact Or.inr rfl
  | listening item rest =>
    cases item with
    | none => exact Or.inr rfl
    | some item =>
      obtain ⟨due, item⟩ := item
      cases item <;> exact Or.inr rfl
  | reporting free reports next =>
    cases reports with
    | cons r rs =>
      cases next with
      | tick due => cases hout
      | _ => exact Or.inr rfl
    | nil =>
      cases next with
      | tick due => cases hout
      | listen stream =>
        refine Or.inr ?_
        simp only [Worker.proceed, Phase.listen]
        split <;> rfl
      | reopen =>
        simp only [Worker.proceed]
        obtain ⟨phase, hreopen, rfl | rfl | ⟨until_, rfl⟩⟩ :=
          reopen_cases p now ⟨.reporting free [] .reopen, startup, failures, lists, subscribes⟩
        · exact Or.inl (congrArg Worker.phase hreopen)
        · exact Or.inr (congrArg (·.phase.isPolling) hreopen)
        · exact Or.inr (congrArg (·.phase.isPolling) hreopen)
  | pausing until_ => exact Or.inr rfl
  | done => exact Or.inr rfl

/-- outside its loop a worker notes that it begins, and nothing else -/
theorem noted_outside (x : Option Loop) (hout : w.phase.isPolling = false) :
    w.noted c t s x =
      match (w.proceed c.policy t s.now).phase with
      | .ticking _ => some (.start s.now)
      | _ => x := by
  obtain ⟨phase, startup, failures, lists, subscribes⟩ := w
  cases phase with
  | ticking due => cases hout
  | polling due ends a => cases hout
  | reporting free reports next =>
    cases next with
    | tick due => cases hout
    | _ => cases reports <;> rfl
  | _ => rfl

/-- the loop goes on when its worker does -/
theorem Loop.At.due {phase : Phase} (h : x.At c.policy t phase) (hdone : phase ≠ .done) :
    ∃ due, phase.due? = some due ∧ due ≤ x.goesOn c.policy t ∧ phase ≠ .fresh := by
  cases phase with
  | ticking due =>
    obtain ⟨hcurrent, rfl⟩ := h
    refine ⟨_, rfl, ?_, by simp⟩
    rw [Loop.goesOn, hcurrent]
    exact le_max_left _ _
  | polling due ends a =>
    obtain ⟨q, hcurrent, -, hanswered, -, -, rfl, -⟩ := h
    refine ⟨_, rfl, ?_, by simp⟩
    simp [Loop.goesOn, hcurrent, hanswered]
  | reporting free reports next =>
    cases next with
    | tick due =>
      obtain ⟨q, hcurrent, -, hanswered, -, rfl⟩ := h
      refine ⟨_, rfl, ?_, by simp⟩
      have hsome : q.answered.isNone = false := by simpa using hanswered
      simp [Loop.goesOn, hcurrent, hsome]
    | _ => exact h.elim
  | done => exact absurd rfl hdone
  | _ => exact h.elim

/-- what is known of the calls and the loop of a worker in a run -/
structure Looped (c : Setup) (i : ℕ) (t : Target) (s : St) (calls : List (ℕ × Call)) (x : Option Loop) : Prop where
  outside : x = none → (s.workerAt i).phase.isPolling = false
  past : ∀ y ∈ calls, y.1 ≤ s.now
  inside : ∀ l, x = some l → Paced c i t s l ∧
    ∃ earlier, calls = earlier ++ l.polls.map Poll.made ∧ ∀ y ∈ earlier, y.1 ≤ l.begun

/-- the calls that an act makes -/
def callsBy (c : Setup) (i : ℕ) (s : St) (a : Act) : List (ℕ × Call) :=
  ((s.workerAt i).callsTo ((step c s a).workerAt i)).map fun call => (s.now, call)

theorem callsIn_snoc (c : Setup) (i : ℕ) (s : St) (acts : List Act) (a : Act) :
    callsIn c i s (acts ++ [a]) = callsIn c i s acts ++ callsBy c i (run c s acts) a := by
  rw [callsIn_append, callsIn, callsIn, List.append_nil]
  rfl

variable {calls : List (ℕ × Call)} {y : Option Loop}

theorem past_snoc (h : ∀ y ∈ calls, y.1 ≤ s.now) (a : Act) : ∀ y ∈ calls ++ callsBy c i s a, y.1 ≤ s.now := by
  intro y hy
  rcases List.mem_append.1 hy with hy | hy
  · exact h y hy
  · obtain ⟨call, -, rfl⟩ := List.mem_map.1 hy
    exact le_rfl

/-- **The worker's turn.** -/
theorem Looped.turn (h : Looped c i t s calls y) (ht : c.targets[i]? = some t)
    (hw : s.workers[i]? = some (s.workerAt i)) (hready : s.isReady (s.workerAt i) = true) :
    Looped c i t (step c s (.go i)) (calls ++ callsBy c i s (.go i)) ((s.workerAt i).noted c t s y) := by
  have hpast := past_snoc (c := c) (i := i) h.past (.go i)
  cases y with
  | some x =>
    obtain ⟨hpaced, earlier, hcalls, hearlier⟩ := h.inside x rfl
    obtain ⟨x', hturns⟩ := hpaced.turn ht hready
    rw [hturns.noted]
    refine ⟨by simp, ?_, ?_⟩
    · rcases step_now c s (.go i) with hnow | ⟨_, hact, -, -⟩
      · rwa [hnow]
      · cases hact
    · rintro l hl
      cases hl
      refine ⟨hturns.paced, earlier, ?_, fun y hy => hturns.begun ▸ hearlier y hy⟩
      rw [hturns.calls, hcalls, List.append_assoc]
      rfl
  | none =>
    have hout := h.outside rfl
    rw [noted_outside none hout]
    rcases step_now c s (.go i) with hnow | ⟨_, hact, -, -⟩
    swap
    · cases hact
    by_cases htold : (s.workerAt i).phase.pending = []
    · obtain ⟨-, -, hworker⟩ := proceed_turn ht hw hready htold
      rcases proceed_outside c.policy t s.now hout with hbegins | hstays
      · rw [hbegins]
        refine ⟨by simp, by rwa [hnow], ?_⟩
        rintro l hl
        cases hl
        refine ⟨?_, _, (List.append_nil _).symm, hpast⟩
        rw [← hnow]
        exact start_paced (by rw [hworker, hbegins, hnow])
      · have hnone : (match ((s.workerAt i).proceed c.policy t s.now).phase with
            | .ticking _ => some (Loop.start s.now)
            | _ => none) = none := by
          cases hphase : ((s.workerAt i).proceed c.policy t s.now).phase with
          | ticking due => rw [hphase] at hstays; cases hstays
          | _ => rfl
        rw [hnone]
        exact ⟨fun _ => by rw [hworker]; exact hstays, by rwa [hnow], by simp⟩
    · -- a report that is not a poll's is told, and the next one waits behind it
      cases hphase : (s.workerAt i).phase with
      | reporting free reports next =>
        rw [hphase] at htold
        cases reports with
        | nil => exact absurd rfl htold
        | cons r rs =>
          have hfree : free ≤ s.now := by simpa [St.isReady, hphase, Phase.due?] using hready
          obtain ⟨-, -, hworker⟩ := report_told ht hphase hfree
          have hnone : ((s.workerAt i).proceed c.policy t s.now).phase = .reporting s.now rs next := by
            simp [Worker.proceed, hphase]
          rw [hnone]
          refine ⟨fun _ => ?_, by rwa [hnow], by simp⟩
          rw [hworker]
          rw [hphase] at hout
          cases next <;> exact hout
      | _ => rw [hphase] at htold; exact absurd rfl htold

/-- **Any other act** leaves the loop alone, or a stop ends it. -/
theorem Looped.other (h : Looped c i t s calls y) (hsound : s.Sound) {a : Act}
    (hother : ∀ w, a = .go i → s.workers[i]? = some w → s.isReady w = false) :
    Looped c i t (step c s a) (calls ++ callsBy c i s a) y := by
  have hrest : ∀ s', s'.workerAt i = s.workerAt i → s'.now = s.now → (s.lifecycle = .stopped → s'.lifecycle = .stopped) →
      Looped c i t s' calls y := by
    intro s' hworker hnow hstopped
    refine ⟨fun hy => hworker ▸ h.outside hy, fun z hz => hnow ▸ h.past z hz, fun l hl => ?_⟩
    obtain ⟨hpaced, hearlier⟩ := h.inside l hl
    exact ⟨hpaced.rest hworker hnow.ge (fun hdone => hnow ▸ hpaced.inTime hdone) hstopped, hearlier⟩
  have hnoCalls : (step c s a).workerAt i = s.workerAt i → calls ++ callsBy c i s a = calls := by
    intro hworker
    rw [callsBy, hworker, callsTo_self]
    simp
  cases step_workers c s a with
  | same workers now =>
    have hworker : (step c s a).workerAt i = s.workerAt i := by rw [St.workerAt, workers, ← St.workerAt]
    rw [hnoCalls hworker]
    exact hrest _ hworker now (fun hstopped => stopped_stays hstopped a)
  | @ticks time can workers now =>
    have hworker : (step c s (.tick time)).workerAt i = s.workerAt i := by rw [St.workerAt, workers, ← St.workerAt]
    have hle : s.now ≤ time := by
      simp only [St.canTick, Bool.and_eq_true, decide_eq_true_eq] at can
      exact can.1
    have hlater : s.now ≤ (step c s (.tick time)).now := by rw [now]; exact hle
    rw [hnoCalls hworker]
    refine ⟨fun hy => hworker ▸ h.outside hy, fun z hz => (h.past z hz).trans hlater, fun l hl => ?_⟩
    obtain ⟨hpaced, hearlier⟩ := h.inside l hl
    refine ⟨hpaced.rest hworker hlater (fun hdone => ?_) (fun hstopped => stopped_stays hstopped _), hearlier⟩
    obtain ⟨due, hdue, hgoesOn, hfresh⟩ := hpaced.place.due hdone
    rw [now]
    exact (tick_waits can hdue hfresh).2.2.trans hgoesOn
  | spawns idle workers now =>
    have hworker : (step c s .start).workerAt i = s.workerAt i := by
      rw [St.workerAt, St.workerAt, workers, hsound idle, List.getElem?_map, List.getElem?_nil]
      cases c.targets[i]? <;> rfl
    rw [hnoCalls hworker]
    exact hrest _ hworker now (fun hstopped => stopped_stays hstopped _)
  | @goes j t' w _ worker ready workers now =>
    have hne : j ≠ i := by
      rintro rfl
      rw [hother w rfl worker] at ready
      cases ready
    have hworker := workerAt_set_ne hne workers
    rw [hnoCalls hworker]
    exact hrest _ hworker now (fun hstopped => stopped_stays hstopped _)
  | @quits j w worker must workers now =>
    have hstopped : s.lifecycle = .stopped := by
      simp only [St.mustQuit, Bool.and_eq_true, decide_eq_true_eq] at must
      exact must.1
    by_cases hne : j = i
    · subst hne
      have hquit : (step c s (.quit j)).workerAt j = w.quit := workerAt_set worker workers
      have hcalls : calls ++ callsBy c j s (.quit j) = calls := by
        rw [callsBy, hquit, workerAt_eq worker]
        simp [Worker.callsTo, Worker.quit]
      rw [hcalls]
      refine ⟨fun _ => by rw [hquit]; rfl, fun z hz => now ▸ h.past z hz, fun l hl => ?_⟩
      obtain ⟨hpaced, hearlier⟩ := h.inside l hl
      exact ⟨hpaced.quit (by rw [hquit]; rfl) now (stopped_stays hstopped _), hearlier⟩
    · have hworker := workerAt_set_ne hne workers
      rw [hnoCalls hworker]
      exact hrest _ hworker now (fun hstopped => stopped_stays hstopped _)

theorem step_looped (h : Looped c i t s calls y) (ht : c.targets[i]? = some t) (hsound : s.Sound) (a : Act) :
    Looped c i t (step c s a) (calls ++ callsBy c i s a) (loopAfter c i s y a) := by
  by_cases hturn : a = .go i ∧ ∃ w, s.workers[i]? = some w ∧ s.isReady w = true
  · obtain ⟨rfl, w, hw, hready⟩ := hturn
    obtain rfl := workerAt_eq hw
    have hafter : loopAfter c i s y (.go i) = (s.workerAt i).noted c t s y := by simp [loopAfter, ht, hw, hready]
    rw [hafter]
    exact h.turn ht hw hready
  · have hother : ∀ w, a = .go i → s.workers[i]? = some w → s.isReady w = false := by
      intro w ha hw
      cases hready : s.isReady w with
      | false => rfl
      | true => exact absurd ⟨ha, w, hw, hready⟩ hturn
    have hafter : loopAfter c i s y a = y := by
      cases a with
      | go j =>
        simp only [loopAfter]
        split
        · rename_i w _ hw
          rw [if_neg]
          rintro ⟨rfl, hready⟩
          rw [hother w rfl hw] at hready
          cases hready
        · rfl
      | _ => rfl
    rw [hafter]
    exact h.other hsound hother

/-- **A run.** -/
theorem run_looped (ht : c.targets[i]? = some t) (acts : List Act) :
    Looped c i t (run c (start c) acts) (callsIn c i (start c) acts) (pollLoop c i acts) := by
  induction acts using List.reverseRecOn with
  | nil => exact ⟨fun _ => rfl, by simp [callsIn], fun l hl => by cases hl⟩
  | append_singleton acts a ih =>
    rw [run_snoc, callsIn_snoc, pollLoop_snoc]
    exact step_looped ih ht (run_sound c acts) a

end

/-- **The cadence.** In every run, whatever the other targets are and however long calls and subscribers take, the polls of a
worker's loop are all the calls that it makes from then on. The first starts as the loop begins. Each of the others starts when its
tick is due, or when the poll before is over if that is later; the tick is due a period after the one before was due, or after that
one was taken if it was taken more than 5 ms too late. Ticks are due to the nanosecond, and a timer goes off at the first unit of
the clock at which its tick is due: so if the period is whole units, as any is of a clock that goes by nanoseconds, polls start to
the nanosecond. A poll lasts as long as its call, which is cut off at the timeout and fails exactly if it needs more, and as long as
the publishing of what it tells. So polls do not overlap, and none starts earlier than 5 ms less than a period after the one before
has started. The clock does not pass the time at which the loop goes on, and only a stop ends it, or a first answer that the host is
gone for good. -/
theorem poll_cadence (c : Setup) {i : ℕ} {t : Target} (ht : c.targets[i]? = some t) (acts : List Act) :
    let s := run c (start c) acts
    let unit := c.policy.clock.unit
    let period := c.policy.pollInterval.nanos
    (pollLoop c i acts = none → (s.workerAt i).phase.isPolling = false) ∧
    ∀ x, pollLoop c i acts = some x →
      (∃ earlier, callsIn c i (start c) acts = earlier ++ x.polls.map Poll.made ∧ ∀ y ∈ earlier, y.1 ≤ x.begun) ∧
      OnSchedule unit period x.begun x.polls ∧
      (unit ∣ period → ∀ front p back, x.polls = front ++ p :: back →
        p.start * unit = max (dueAfter unit period x.begun front) (overAfter x.begun front * unit)) ∧
      (∀ q ∈ x.polls, q.Lasts c.policy t) ∧ (∀ q ∈ x.past, q.ended.isSome) ∧
      (unit ∣ c.policy.timeout.nanos → ∀ q ∈ x.polls, ∀ time a, q.answered = some (time, a) →
        a = if (t.provider.list q.call).delay * unit ≤ c.policy.timeout.nanos then (t.provider.list q.call).answer
          else .error (.timeout c.policy.timeout)) ∧
      (∀ front p q back, x.polls = front ++ p :: q :: back →
        ∃ e, p.ended = some e ∧ e ≤ q.start ∧ p.start * unit + period ≤ q.start * unit + 5000000) ∧
      ((s.workerAt i).phase ≠ .done → s.now ≤ x.goesOn c.policy t) ∧
      ((s.workerAt i).phase = .done → s.lifecycle = .stopped ∨
        ∃ q time e, x.current = some q ∧ q.answered = some (time, .error e) ∧ e.isPermanent = true) := by
  intro s unit period
  have hlooped := run_looped ht acts
  refine ⟨hlooped.outside, fun x hx => ?_⟩
  obtain ⟨hpaced, hcalls⟩ := hlooped.inside x hx
  have hunit : 0 < unit := c.policy.clock.positive
  have hschedule : OnSchedule unit period x.begun x.polls := by
    cases hcurrent : x.current with
    | none =>
      rw [Loop.polls, hcurrent, Option.toList_none, List.append_nil]
      exact hpaced.schedule
    | some q =>
      rw [Loop.polls, hcurrent, Option.toList_some]
      exact hpaced.schedule.snoc (hpaced.current q hcurrent)
  refine ⟨hcalls, hschedule, fun hperiod front p back hsplit => starts_exact hschedule hunit hperiod hsplit, hpaced.lasts,
    hpaced.ended, fun htimeout q hq time a ha => ?_, fun front p q back hsplit => ?_, hpaced.inTime, hpaced.ends⟩
  · rw [((hpaced.lasts q hq).answered time a ha).2, listOutcome_exact htimeout]
  · -- only the last poll may not be over
    have hpast : p ∈ x.past := by
      have hinit : x.polls.dropLast ⊆ x.past := by
        rw [Loop.polls]
        cases x.current with
        | none => simpa using List.dropLast_subset x.past
        | some q => simp
      apply hinit
      rw [hsplit, List.dropLast_append_of_ne_nil (by simp), List.dropLast_cons_of_ne_nil (by simp)]
      simp
    obtain ⟨e, he⟩ := Option.isSome_iff_exists.1 (hpaced.ended p hpast)
    exact ⟨e, he, starts_apart hschedule hunit hsplit he⟩

/-! ## A provider that is slow -/

/-- its first answer is late, its second too late -/
def sluggish : Target where
  host := "nas"
  provider :=
    { source := "agent"
      pushes := false
      list := fun n => ⟨if n = 0 then 2500 else if n = 1 then 9000 else 100, .ok [⟨"db", .running, ""⟩]⟩
      subscribe := fun _ => ⟨0, .error .unsupported⟩ }
  strategy := .poll

/-- a poll every second, three seconds for a call, and a subscriber that takes 400 ms for a change -/
def slowly : Setup := ⟨[sluggish], ⟨.ofSecs 1, false, .ofSecs 3, .standard⟩, fun _ _ => 400⟩

def fourPolls : List Act :=
  [.start, .go 0, .go 0, .tick 2500, .go 0, .go 0, .go 0, .tick 2900, .go 0, .go 0, .tick 5900, .go 0, .go 0, .tick 6300,
    .go 0, .go 0, .tick 6400, .go 0, .go 0, .tick 6800, .go 0, .go 0, .tick 7300, .go 0, .go 0]

/-- polls every millisecond and a half, of a provider that answers at once -/
def brisk (clock : Clock) : Setup where
  targets := [{ sluggish with provider := { sluggish.provider with list := fun _ => ⟨0, .ok []⟩ } }]
  policy := { Policy.standard with pollInterval := .ofNanos 1500000, clock := clock }
  hold := fun _ _ => 0

/-- a clock that goes by nanoseconds -/
abbrev fine : Clock := ⟨1, Nat.one_pos⟩

/-- a poll at each of these times -/
def pollsAt (times : List ℕ) : List Act :=
  [.start, .go 0] ++ times.flatMap fun time => [.tick time, .go 0, .go 0, .go 0, .go 0]

/-- The slow provider moves the ticks behind its polls. By the runtime's clock the ticks of a millisecond and a half are
taken at whole milliseconds, and what is waited for is not added up; by a clock that goes by nanoseconds they are taken
as they are due. -/
theorem poll_cadence_sluggish :
    slowly.targets[0]? = some sluggish ∧
    (∃ x, pollLoop slowly 0 fourPolls = some x ∧ x.begun = 0 ∧
      x.polls.map (fun p => (p.start, p.publishing, p.ended)) =
        [(0, 400, some 2900), (2900, 400, some 6300), (6300, 400, some 6800), (7300, 0, none)] ∧
      OnSchedule 1000000 1000000000 0 x.polls ∧ (∀ q ∈ x.polls, q.Lasts slowly.policy sluggish) ∧
      (run slowly (start slowly) fourPolls).now ≤ x.goesOn slowly.policy sluggish) ∧
    (∃ x, pollLoop (brisk inferInstance) 0 (pollsAt [0, 2, 3, 5]) = some x ∧ x.polls.map (·.start) = [0, 2, 3, 5] ∧
      OnSchedule 1000000 1500000 0 x.polls) ∧
    ∃ x, pollLoop (brisk fine) 0 (pollsAt [0, 1500000, 3000000, 4500000]) = some x ∧
      x.polls.map (·.start) = [0, 1500000, 3000000, 4500000] ∧
      ∀ front p back, x.polls = front ++ p :: back →
        p.start = max (dueAfter 1 1500000 0 front) (overAfter 0 front) := by
  refine ⟨rfl, ?_, ?_, ?_⟩
  · have hpolls : (pollLoop slowly 0 fourPolls).map
        (fun x => (x.begun, x.polls.map fun p => (p.start, p.publishing, p.ended))) =
          some (0, [(0, 400, some 2900), (2900, 400, some 6300), (6300, 400, some 6800), (7300, 0, none)]) := by
      decide +kernel
    have hrunning : ((run slowly (start slowly) fourPolls).workerAt 0).phase.isDone = false := by decide +kernel
    obtain ⟨x, hx, heq⟩ := Option.map_eq_some_iff.1 hpolls
    obtain ⟨hbegun, hlist⟩ := Prod.mk.injEq .. ▸ heq
    obtain ⟨-, hloop⟩ := poll_cadence slowly (t := sluggish) (i := 0) rfl fourPolls
    obtain ⟨-, hschedule, -, hlasts, -, -, -, htime, -⟩ := hloop x hx
    refine ⟨x, hx, hbegun, hlist, hbegun ▸ hschedule, hlasts, htime ?_⟩
    intro hdone
    rw [hdone] at hrunning
    cases hrunning
  · have hpolls : (pollLoop (brisk inferInstance) 0 (pollsAt [0, 2, 3, 5])).map
        (fun x => (x.begun, x.polls.map (·.start))) = some (0, [0, 2, 3, 5]) := by
      decide +kernel
    obtain ⟨x, hx, heq⟩ := Option.map_eq_some_iff.1 hpolls
    obtain ⟨hbegun, hlist⟩ := Prod.mk.injEq .. ▸ heq
    obtain ⟨-, hloop⟩ := poll_cadence (brisk inferInstance) (i := 0) rfl (pollsAt [0, 2, 3, 5])
    obtain ⟨-, hschedule, -⟩ := hloop x hx
    exact ⟨x, hx, hlist, hbegun ▸ hschedule⟩
  · have hpolls : (pollLoop (brisk fine) 0 (pollsAt [0, 1500000, 3000000, 4500000])).map
        (fun x => (x.begun, x.polls.map (·.start))) = some (0, [0, 1500000, 3000000, 4500000]) := by
      decide +kernel
    obtain ⟨x, hx, heq⟩ := Option.map_eq_some_iff.1 hpolls
    obtain ⟨hbegun, hlist⟩ := Prod.mk.injEq .. ▸ heq
    obtain ⟨-, hloop⟩ := poll_cadence (brisk fine) (i := 0) rfl (pollsAt [0, 1500000, 3000000, 4500000])
    obtain ⟨-, -, hexact, -⟩ := hloop x hx
    refine ⟨x, hx, hlist, fun front p back hsplit => ?_⟩
    have hstart := hexact (one_dvd _) front p back hsplit
    rw [hbegun] at hstart
    exact (Nat.mul_one _).symm.trans (hstart.trans (congrArg _ (Nat.mul_one _)))

end ServiceMonitor.Monitor
