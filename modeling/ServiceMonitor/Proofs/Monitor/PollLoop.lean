import Mathlib.Algebra.Order.Floor.Div
import ServiceMonitor.Proofs.Monitor.NextCall

/-!
One poll loop, turn by turn.

A loop waits for a tick, makes a list call, publishes what the call has changed, and waits for the next tick. The next tick is due
a period after this one was due. A tick that was taken too late moves those behind it: then it is a period after this one was
taken. `pollLoop` reads the polls of a worker off a run, each with its call, its answer and its publishing, and nothing in it knows
of ticks; `dueAfter` is the recurrence that the starts are held against. It is in nanoseconds, whatever the clock's unit is.

- `starts_exact`: if the period is whole units of the clock, polls start at the nanosecond that the recurrence says.
- `starts_apart`: by the recurrence alone, polls do not overlap, and none makes up for a late one.
- `Paced`: how the phase of a worker goes with its polls, the recurrence and the clock.
- `Paced.turn`: every turn of the worker keeps to it.
-/

namespace ServiceMonitor.Monitor

/-! ## Polls -/

/-- one poll -/
structure Poll where
  /-- when its list call was made -/
  start : ℕ
  /-- which list call it was -/
  call : ℕ
  /-- when the call was over, and with what answer -/
  answered : Option (ℕ × ListAnswer)
  /-- how long the publishing of what it told has taken -/
  publishing : ℕ
  /-- when everything was published -/
  ended : Option ℕ

/-- a poll loop: when it began, its polls that are over, and the one that is not -/
structure Loop where
  begun : ℕ
  past : List Poll
  current : Option Poll

namespace Loop

def start (now : ℕ) : Loop := ⟨now, [], none⟩

def polls (x : Loop) : List Poll := x.past ++ x.current.toList

/-- a list call is made -/
def poll (now call : ℕ) (x : Loop) : Loop := { x with current := some ⟨now, call, none, 0, none⟩ }

/-- the call is over -/
def answer (now : ℕ) (a : ListAnswer) (x : Loop) : Loop :=
  { x with current := x.current.map fun p => { p with answered := some (now, a) } }

/-- something of it is published, which takes so long -/
def publish (busy : ℕ) (x : Loop) : Loop :=
  { x with current := x.current.map fun p => { p with publishing := p.publishing + busy } }

/-- everything is published -/
def finish (now : ℕ) (x : Loop) : Loop :=
  { x with past := x.past ++ (x.current.map fun p => { p with ended := some now }).toList, current := none }

end Loop

/-- what a worker that goes on is to its poll loop; the loop begins when it waits for a tick for the first time -/
def Worker.noted (c : Setup) (t : Target) (s : St) (w : Worker) (x : Option Loop) : Option Loop :=
  match w.phase with
  | .ticking _ => x.map (·.poll s.now w.lists)
  | .polling _ _ a => x.map (·.answer s.now a)
  | .reporting _ (r :: _) (.tick _) => x.map (·.publish (c.holds t s r))
  | .reporting _ [] (.tick _) => x.map (·.finish s.now)
  | _ =>
    match (w.proceed c.policy t s.now).phase with
    | .ticking _ => some (.start s.now)
    | _ => x

/-- the poll loop of worker `i` behind an act -/
def loopAfter (c : Setup) (i : ℕ) (s : St) (x : Option Loop) : Act → Option Loop
  | .go j =>
    match c.targets[i]?, s.workers[i]? with
    | some t, some w => if j = i ∧ s.isReady w then w.noted c t s x else x
    | _, _ => x
  | _ => x

def loopIn (c : Setup) (i : ℕ) : St → Option Loop → List Act → Option Loop
  | _, x, [] => x
  | s, x, a :: acts => loopIn c i (step c s a) (loopAfter c i s x a) acts

/-- the poll loop of worker `i` in a run, if it has begun -/
def pollLoop (c : Setup) (i : ℕ) (acts : List Act) : Option Loop := loopIn c i (start c) none acts

theorem pollLoop_snoc (c : Setup) (i : ℕ) (acts : List Act) (a : Act) :
    pollLoop c i (acts ++ [a]) = loopAfter c i (run c (start c) acts) (pollLoop c i acts) a := by
  have h : ∀ (acts : List Act) (s : St) (x : Option Loop),
      loopIn c i s x (acts ++ [a]) = loopAfter c i (run c s acts) (loopIn c i s x acts) a := by
    intro acts
    induction acts with
    | nil => exact fun _ _ => rfl
    | cons b acts ih => exact fun s x => ih (step c s b) (loopAfter c i s x b)
  exact h acts (start c) none

/-! ## The recurrence -/

/-- when the next tick is due behind some polls, in nanoseconds: a period after the last one was due, or after it was taken
if that was more than 5 ms too late -/
def dueAfter (unit period begun : ℕ) (polls : List Poll) : ℕ :=
  polls.foldl (fun due p => if p.start * unit - due ≤ 5000000 then due + period else p.start * unit + period)
    (begun * unit)

/-- when the last of some polls was over -/
def overAfter (begun : ℕ) (polls : List Poll) : ℕ := (polls.getLast?.bind (·.ended)).getD begun

/-- each poll starts at the first unit of the clock at which its tick is due, or when the one before is over if that is
later -/
def OnSchedule (unit period begun : ℕ) (polls : List Poll) : Prop :=
  ∀ front p back, polls = front ++ p :: back →
    p.start = max (dueAfter unit period begun front ⌈/⌉ unit) (overAfter begun front)

section

variable {unit period begun : ℕ} {polls : List Poll} {p : Poll}

theorem dueAfter_snoc (unit period begun : ℕ) (polls : List Poll) (p : Poll) :
    dueAfter unit period begun (polls ++ [p]) =
      if p.start * unit - dueAfter unit period begun polls ≤ 5000000 then dueAfter unit period begun polls + period
      else p.start * unit + period := by
  simp [dueAfter]

theorem overAfter_snoc (begun : ℕ) (polls : List Poll) (p : Poll) :
    overAfter begun (polls ++ [p]) = p.ended.getD begun := by
  simp [overAfter]

theorem onSchedule_nil : OnSchedule unit period begun [] := by
  intro front p back h
  simp at h

theorem OnSchedule.snoc (h : OnSchedule unit period begun polls)
    (hstart : p.start = max (dueAfter unit period begun polls ⌈/⌉ unit) (overAfter begun polls)) :
    OnSchedule unit period begun (polls ++ [p]) := by
  intro front q back hsplit
  rcases List.eq_nil_or_concat back with rfl | ⟨back, b, rfl⟩
  · obtain ⟨rfl, hlast⟩ := List.append_inj' hsplit rfl
    cases hlast
    exact hstart
  · rw [List.concat_eq_append, ← List.cons_append, ← List.append_assoc] at hsplit
    obtain ⟨hpolls, -⟩ := List.append_inj' hsplit rfl
    exact h front q back hpolls

theorem dvd_dueAfter (hperiod : unit ∣ period) (begun : ℕ) (polls : List Poll) :
    unit ∣ dueAfter unit period begun polls := by
  induction polls using List.reverseRecOn with
  | nil => exact Nat.dvd_mul_left unit begun
  | append_singleton polls p ih =>
    rw [dueAfter_snoc]
    split_ifs
    · exact Nat.dvd_add ih hperiod
    · exact Nat.dvd_add (Nat.dvd_mul_left unit _) hperiod

/-- **To the nanosecond.** If the period is whole units of the clock, no poll waits for a unit to be over. -/
theorem starts_exact (h : OnSchedule unit period begun polls) (hunit : 0 < unit) (hperiod : unit ∣ period)
    {front back : List Poll} (hsplit : polls = front ++ p :: back) :
    p.start * unit = max (dueAfter unit period begun front) (overAfter begun front * unit) := by
  obtain ⟨n, hn⟩ := dvd_dueAfter hperiod begun front
  have hceil : dueAfter unit period begun front ⌈/⌉ unit = n := by
    rw [hn]
    exact smul_ceilDiv hunit n
  rw [h front p back hsplit, hceil, hn, Nat.mul_comm unit n]
  exact (Nat.mul_max_mul_right n (overAfter begun front) unit).symm

/-- **The spacing.** By the recurrence alone, a poll does not start before the one before is over, nor earlier than 5 ms less than
a period after that one has started. -/
theorem starts_apart (h : OnSchedule unit period begun polls) (hunit : 0 < unit) {front back : List Poll} {p q : Poll}
    (hsplit : polls = front ++ p :: q :: back) {e : ℕ} (hended : p.ended = some e) :
    e ≤ q.start ∧ p.start * unit + period ≤ q.start * unit + 5000000 := by
  have hq : q.start = max (dueAfter unit period begun (front ++ [p]) ⌈/⌉ unit) e := by
    have hstart := h (front ++ [p]) q back (by rw [hsplit, List.append_cons])
    rwa [overAfter_snoc, hended, Option.getD_some] at hstart
  have hdue : dueAfter unit period begun (front ++ [p]) ≤ q.start * unit := by
    rw [Nat.mul_comm]
    exact (ceilDiv_le_iff_le_mul hunit).1 (hq ▸ le_max_left _ _)
  rw [dueAfter_snoc] at hdue
  refine ⟨hq ▸ le_max_right _ _, ?_⟩
  split_ifs at hdue <;> omega

end

/-! ## One poll of a target -/

/-- how long a list call takes: until it is answered, or until it is cut off -/
def Target.listTime (p : Policy) (t : Target) (call : ℕ) : ℕ :=
  min (t.provider.list call).delay (p.timeout.nanos ⌈/⌉ p.clock.unit)

/-- what a list call comes to -/
def Target.listOutcome (p : Policy) (t : Target) (call : ℕ) : ListAnswer :=
  if (t.provider.list call).delay ≤ p.timeout.nanos ⌈/⌉ p.clock.unit then (t.provider.list call).answer
  else .error (.timeout p.timeout)

theorem limited_list (p : Policy) (t : Target) (now call : ℕ) :
    p.limited (.timeout p.timeout) now (t.provider.list call) = (now + t.listTime p call, t.listOutcome p call) := by
  have hlimit : p.limit = p.timeout.nanos ⌈/⌉ p.clock.unit := rfl
  rw [Policy.limited, Target.listTime, Target.listOutcome, hlimit]
  split_ifs with h
  · rw [min_eq_left h]
  · rw [min_eq_right (not_le.1 h).le]

/-- if the timeout is whole units of the clock, a call is cut off exactly if it needs more than the timeout -/
theorem listOutcome_exact {p : Policy} (h : p.clock.unit ∣ p.timeout.nanos) (t : Target) (call : ℕ) :
    t.listOutcome p call =
      if (t.provider.list call).delay * p.clock.unit ≤ p.timeout.nanos then (t.provider.list call).answer
      else .error (.timeout p.timeout) := by
  obtain ⟨n, hn⟩ := h
  have hceil : p.timeout.nanos ⌈/⌉ p.clock.unit = n := by
    rw [hn]
    exact smul_ceilDiv p.clock.positive n
  rw [Target.listOutcome, hceil, hn, Nat.mul_comm p.clock.unit n]
  exact if_congr (Nat.mul_le_mul_right_iff p.clock.positive).symm rfl rfl

/-- a poll lasts as long as its call and its publishing -/
structure Poll.Lasts (p : Policy) (t : Target) (x : Poll) : Prop where
  answered : ∀ time a, x.answered = some (time, a) → time = x.start + t.listTime p x.call ∧ a = t.listOutcome p x.call
  ended : ∀ e, x.ended = some e → e = x.start + t.listTime p x.call + x.publishing ∧ x.answered.isSome

/-- the recurrence for a policy -/
def Policy.dueAfter (p : Policy) (begun : ℕ) (polls : List Poll) : ℕ :=
  Monitor.dueAfter p.clock.unit p.pollInterval.nanos begun polls

/-- the tick behind some polls -/
def Policy.tickAfter (p : Policy) (begun : ℕ) (polls : List Poll) : Tick :=
  ⟨p.dueAfter begun polls, p.dueAfter begun polls ⌈/⌉ p.clock.unit⟩

theorem tickAfter_nil (p : Policy) (begun : ℕ) : p.tickAfter begun [] = p.firstTick begun := by
  have hfires : p.dueAfter begun [] ⌈/⌉ p.clock.unit = begun := by
    change (begun * p.clock.unit) ⌈/⌉ p.clock.unit = begun
    rw [Nat.mul_comm]
    exact smul_ceilDiv p.clock.positive begun
  rw [Policy.tickAfter, hfires]
  rfl

theorem tickAfter_snoc (p : Policy) (begun : ℕ) (polls : List Poll) (q : Poll) :
    p.tickAfter begun (polls ++ [q]) = p.nextTick (p.tickAfter begun polls) q.start := by
  have hdue : p.dueAfter begun (polls ++ [q]) = (p.nextTick (p.tickAfter begun polls) q.start).due := by
    rw [Policy.dueAfter, dueAfter_snoc]
    change _ = (if q.start * p.clock.unit ≤ p.dueAfter begun polls + tolerance then p.dueAfter begun polls
      else q.start * p.clock.unit) + p.pollInterval.nanos
    rw [← Policy.dueAfter, tolerance, ite_add]
    refine if_congr ?_ rfl rfl
    omega
  rw [Policy.tickAfter, hdue]
  rfl

/-- the call that a poll makes -/
def Poll.made (x : Poll) : ℕ × Call := (x.start, .list x.call)

/-- when a loop goes on: at its next tick, or when its call or what is published of it is over -/
def Loop.goesOn (p : Policy) (t : Target) (x : Loop) : ℕ :=
  match x.current with
  | none => max (p.dueAfter x.begun x.past ⌈/⌉ p.clock.unit) (overAfter x.begun x.past)
  | some q => if q.answered.isNone then q.start + t.listTime p q.call else q.start + t.listTime p q.call + q.publishing

/-! ## Loops -/

/-- the worker is in its poll loop -/
def Phase.isPolling : Phase → Bool
  | .ticking _ | .polling .. | .reporting _ _ (.tick _) => true
  | _ => false

/-- the phase goes with what the loop has come to -/
def Loop.At (p : Policy) (t : Target) (x : Loop) : Phase → Prop
  | .ticking tick => x.current = none ∧ tick = p.tickAfter x.begun x.past
  | .polling next ends a => ∃ q, x.current = some q ∧ next = p.tickAfter x.begun (x.past ++ [q]) ∧
      q.answered = none ∧ q.publishing = 0 ∧ q.ended = none ∧
      ends = q.start + t.listTime p q.call ∧ a = t.listOutcome p q.call
  | .reporting free _ (.tick next) => ∃ q, x.current = some q ∧ next = p.tickAfter x.begun (x.past ++ [q]) ∧
      q.answered.isSome ∧ q.ended = none ∧ free = q.start + t.listTime p q.call + q.publishing
  | .done => True
  | _ => False

/-- a loop in a run -/
structure Paced (c : Setup) (i : ℕ) (t : Target) (s : St) (x : Loop) : Prop where
  schedule : OnSchedule c.policy.clock.unit c.policy.pollInterval.nanos x.begun x.past
  current : ∀ q, x.current = some q →
    q.start = max (c.policy.dueAfter x.begun x.past ⌈/⌉ c.policy.clock.unit) (overAfter x.begun x.past)
  lasts : ∀ q ∈ x.polls, q.Lasts c.policy t
  ended : ∀ q ∈ x.past, q.ended.isSome
  place : x.At c.policy t (s.workerAt i).phase
  /-- nothing is behind time -/
  inTime : (s.workerAt i).phase ≠ .done → s.now ≤ x.goesOn c.policy t
  free : overAfter x.begun x.past ≤ s.now
  /-- a loop ends with a stop, or because the host is given up at the first attempt -/
  ends : (s.workerAt i).phase = .done → s.lifecycle = .stopped ∨
    ∃ q time e, x.current = some q ∧ q.answered = some (time, .error e) ∧ e.isPermanent = true

section

variable {c : Setup} {i : ℕ} {t : Target} {s s' : St} {x : Loop} {w : Worker}

theorem start_paced (hphase : (s.workerAt i).phase = .ticking (c.policy.firstTick s.now)) : Paced c i t s (.start s.now) where
  schedule := onSchedule_nil
  current := by simp [Loop.start]
  lasts := by simp [Loop.start, Loop.polls]
  ended := by simp [Loop.start]
  place := by rw [hphase]; exact ⟨rfl, (tickAfter_nil c.policy s.now).symm⟩
  inTime := fun _ => le_max_right _ _
  free := le_rfl
  ends := fun hdone => by rw [hphase] at hdone; cases hdone

/-- a loop stays as it is while its worker does, as long as the clock does not pass its time -/
theorem Paced.rest (h : Paced c i t s x) (hworker : s'.workerAt i = s.workerAt i) (hnow : s.now ≤ s'.now)
    (htime : (s.workerAt i).phase ≠ .done → s'.now ≤ x.goesOn c.policy t)
    (hstopped : s.lifecycle = .stopped → s'.lifecycle = .stopped) : Paced c i t s' x where
  schedule := h.schedule
  current := h.current
  lasts := h.lasts
  ended := h.ended
  place := hworker ▸ h.place
  inTime := fun hphase => htime (hworker ▸ hphase)
  free := h.free.trans hnow
  ends := fun hdone => (h.ends (hworker ▸ hdone)).imp_left hstopped

theorem Paced.quit (h : Paced c i t s x) (hdone : (s'.workerAt i).phase = .done) (hnow : s'.now = s.now)
    (hstopped : s'.lifecycle = .stopped) : Paced c i t s' x where
  schedule := h.schedule
  current := h.current
  lasts := h.lasts
  ended := h.ended
  place := by rw [hdone]; trivial
  inTime := fun hphase => absurd hdone hphase
  free := hnow ▸ h.free
  ends := fun _ => Or.inl hstopped

/-- a worker that has nothing to tell proceeds on its turn -/
theorem proceed_turn (ht : c.targets[i]? = some t) (hw : s.workers[i]? = some w) (hready : s.isReady w = true)
    (htold : w.phase.pending = []) :
    (step c s (.go i)).now = s.now ∧ (step c s (.go i)).lifecycle = s.lifecycle ∧
      (step c s (.go i)).workerAt i = w.proceed c.policy t s.now := by
  rcases step_go_cases c s i with ⟨t', w', ht', hw', -, hstep⟩ | ⟨hnone, -⟩
  · obtain rfl := Option.some.inj (ht.symm.trans ht')
    obtain rfl := Option.some.inj (hw.symm.trans hw')
    rcases go_cases c.policy (c.hold s.log.length) t s.now s.tracker w with ⟨_, _, _, _, _, hphase, -⟩ | ⟨-, hgo⟩
    · rw [hphase] at htold
      cases htold
    · rw [hgo] at hstep
      exact ⟨by rw [hstep], by rw [hstep], workerAt_set hw (by rw [hstep])⟩
  · rw [hnone t w ht hw] at hready
    cases hready

/-- what a turn of the worker is to its loop -/
structure Turns (c : Setup) (i : ℕ) (t : Target) (s : St) (x x' : Loop) : Prop where
  noted : (s.workerAt i).noted c t s (some x) = some x'
  paced : Paced c i t (step c s (.go i)) x'
  begun : x'.begun = x.begun
  calls : x'.polls.map Poll.made = x.polls.map Poll.made ++
    ((s.workerAt i).callsTo ((step c s (.go i)).workerAt i)).map fun call => (s.now, call)

/-- the tick is taken, and a call is made -/
theorem Paced.tick (h : Paced c i t s x) (ht : c.targets[i]? = some t) (hready : s.isReady (s.workerAt i) = true)
    {tick : Tick} (hphase : (s.workerAt i).phase = .ticking tick) : Turns c i t s x (x.poll s.now (s.workerAt i).lists) := by
  have hplace := h.place
  rw [hphase] at hplace
  obtain ⟨hcurrent, hdue⟩ := hplace
  have hlate : tick.fires ≤ s.now := by simpa [St.isReady, hphase, Phase.due?] using hready
  have htime := h.inTime (by simp [hphase])
  have hfree := h.free
  simp only [Loop.goesOn, hcurrent] at htime
  have hnow : s.now = max (c.policy.dueAfter x.begun x.past ⌈/⌉ c.policy.clock.unit) (overAfter x.begun x.past) :=
    le_antisymm htime (max_le (by rwa [hdue] at hlate) hfree)
  obtain ⟨hnow', hlifecycle, hworker⟩ := proceed_turn ht (worker_present (by simp [hphase])) hready (by rw [hphase]; rfl)
  have hworker' : (s.workerAt i).proceed c.policy t s.now =
      { s.workerAt i with
        phase := .polling (c.policy.nextTick tick s.now) (s.now + t.listTime c.policy (s.workerAt i).lists)
          (t.listOutcome c.policy (s.workerAt i).lists)
        lists := (s.workerAt i).lists + 1 } := by
    simp only [Worker.proceed, hphase, Worker.list, limited_list]
  rw [hworker'] at hworker
  have hphase' := congrArg Worker.phase hworker
  dsimp only at hphase'
  have hpolls : (x.poll s.now (s.workerAt i).lists).polls = x.past ++ [⟨s.now, (s.workerAt i).lists, none, 0, none⟩] := rfl
  refine { noted := by simp [Worker.noted, hphase], paced := ?_, begun := rfl, calls := ?_ }
  · refine { schedule := h.schedule, current := ?_, lasts := ?_, ended := h.ended, place := ?_, inTime := ?_, free := ?_,
             ends := ?_ }
    · rintro q hq
      cases hq
      exact hnow
    · intro q hq
      rw [hpolls, List.mem_append, List.mem_singleton] at hq
      rcases hq with hq | rfl
      · exact h.lasts q (List.mem_append_left _ hq)
      · exact ⟨by simp, by simp⟩
    · rw [hphase']
      refine ⟨_, rfl, ?_, rfl, rfl, rfl, rfl, rfl⟩
      rw [tickAfter_snoc, hdue]
      rfl
    · intro _
      rw [hnow']
      exact Nat.le_add_right _ _
    · rw [hnow']
      exact hfree
    · intro hdone
      rw [hphase'] at hdone
      cases hdone
  · rw [hpolls, Loop.polls, hcurrent, hworker]
    simp [Poll.made, Worker.callsTo]

/-- the poll that is not over comes to something, and starts no other call -/
theorem Paced.touch (h : Paced c i t s x) {q : Poll} (s' : St) (q' : Poll) (hcurrent : x.current = some q)
    (hmade : q'.made = q.made) (hlasts : q'.Lasts c.policy t) (hnow : s'.now = s.now)
    (hplace : Loop.At c.policy t { x with current := some q' } (s'.workerAt i).phase)
    (htime : s'.now ≤ Loop.goesOn c.policy t { x with current := some q' })
    (hends : (s'.workerAt i).phase = .done → s'.lifecycle = .stopped ∨
      ∃ time e, q'.answered = some (time, .error e) ∧ e.isPermanent = true) :
    Paced c i t s' { x with current := some q' } ∧
      (Loop.polls { x with current := some q' }).map Poll.made = x.polls.map Poll.made := by
  refine ⟨?_, by simp [Loop.polls, hcurrent, hmade]⟩
  refine { schedule := h.schedule, current := ?_, lasts := ?_, ended := h.ended, place := hplace, inTime := fun _ => htime,
           free := hnow ▸ h.free, ends := ?_ }
  · rintro p hp
    cases hp
    exact (congrArg Prod.fst hmade).trans (h.current q hcurrent)
  · intro p hp
    rcases List.mem_append.1 hp with hp | hp
    · exact h.lasts p (List.mem_append_left _ hp)
    · obtain rfl : p = q' := by simpa using hp
      exact hlasts
  · intro hdone
    refine (hends hdone).imp_right ?_
    rintro ⟨time, e, hanswered, hpermanent⟩
    exact ⟨q', time, e, rfl, hanswered, hpermanent⟩

/-- the call is over -/
theorem Paced.answer (h : Paced c i t s x) (ht : c.targets[i]? = some t) (hready : s.isReady (s.workerAt i) = true)
    {next : Tick} {ends : ℕ} {a : ListAnswer} (hphase : (s.workerAt i).phase = .polling next ends a) :
    Turns c i t s x (x.answer s.now a) := by
  have hplace := h.place
  rw [hphase] at hplace
  obtain ⟨q, hcurrent, hdue, hanswered, hpublishing, hended, hends, ha⟩ := hplace
  have hlate : ends ≤ s.now := by simpa [St.isReady, hphase, Phase.due?] using hready
  have htime := h.inTime (by simp [hphase])
  simp only [Loop.goesOn, hcurrent, hanswered, Option.isNone_none, if_true] at htime
  have hnow : s.now = q.start + t.listTime c.policy q.call := by omega
  obtain ⟨hnow', hlifecycle, hworker⟩ := proceed_turn ht (worker_present (by simp [hphase])) hready (by rw [hphase]; rfl)
  have hanswer : x.answer s.now a = { x with current := some { q with answered := some (s.now, a) } } := by
    simp [Loop.answer, hcurrent]
  have hcalls : (s.workerAt i).callsTo ((step c s (.go i)).workerAt i) = [] := by
    rw [hworker]
    simp only [Worker.proceed, hphase]
    split_ifs <;> simp [Worker.callsTo]
  have hlasts : Poll.Lasts c.policy t { q with answered := some (s.now, a) } := by
    refine ⟨fun time b hb => ?_, fun e he => ?_⟩
    · cases hb
      exact ⟨hnow, ha⟩
    · rw [hended] at he
      cases he
  have hplace' : Loop.At c.policy t { x with current := some { q with answered := some (s.now, a) } }
      ((step c s (.go i)).workerAt i).phase := by
    rw [hworker]
    simp only [Worker.proceed, hphase]
    split_ifs
    · trivial
    · refine ⟨_, rfl, ?_, rfl, hended, ?_⟩
      · rw [hdue, tickAfter_snoc, tickAfter_snoc]
      · rw [hpublishing]
        exact hnow
  have hgiven : ((step c s (.go i)).workerAt i).phase = .done → ∃ e, a = .error e ∧ e.isPermanent = true := by
    intro hdone
    rw [hworker] at hdone
    simp only [Worker.proceed, hphase] at hdone
    split_ifs at hdone with hpermanent
    rw [Bool.and_eq_true] at hpermanent
    cases a with
    | ok os => cases hpermanent.2
    | error e => exact ⟨e, rfl, hpermanent.2⟩
  obtain ⟨hpaced, hmade⟩ := h.touch (step c s (.go i)) { q with answered := some (s.now, a) } hcurrent rfl
    hlasts hnow' hplace' (by rw [hnow', hnow]; exact Nat.le_add_right _ _) (fun hdone => by
      obtain ⟨e, rfl, hpermanent⟩ := hgiven hdone
      exact Or.inr ⟨s.now, e, rfl, hpermanent⟩)
  rw [← hanswer] at hpaced hmade
  exact { noted := by simp [Worker.noted, hphase], paced := hpaced, begun := rfl, calls := by rw [hmade, hcalls]; simp }

/-- a worker that is publishing goes on when its poll does, and not later -/
theorem Paced.publishing (h : Paced c i t s x) (hready : s.isReady (s.workerAt i) = true) {free : ℕ} {next : Tick}
    {rs : List Report} (hphase : (s.workerAt i).phase = .reporting free rs (.tick next)) :
    ∃ q, x.current = some q ∧ next = c.policy.tickAfter x.begun (x.past ++ [q]) ∧ q.answered.isSome ∧
      q.ended = none ∧ free = q.start + t.listTime c.policy q.call + q.publishing ∧ s.now = free := by
  have hplace := h.place
  rw [hphase] at hplace
  obtain ⟨q, hcurrent, hdue, hanswered, hended, hfree⟩ := hplace
  have hlate : free ≤ s.now := by simpa [St.isReady, hphase, Phase.due?] using hready
  have htime := h.inTime (by simp [hphase])
  have hsome : q.answered.isNone = false := by simpa using hanswered
  simp only [Loop.goesOn, hcurrent, hsome, Bool.false_eq_true, if_false] at htime
  exact ⟨q, hcurrent, hdue, hanswered, hended, hfree, le_antisymm (htime.trans hfree.ge) hlate⟩

/-- a report is told -/
theorem Paced.tell (h : Paced c i t s x) (ht : c.targets[i]? = some t) (hready : s.isReady (s.workerAt i) = true)
    {free : ℕ} {next : Tick} {r : Report} {rs : List Report}
    (hphase : (s.workerAt i).phase = .reporting free (r :: rs) (.tick next)) :
    Turns c i t s x (x.publish (c.holds t s r)) := by
  obtain ⟨q, hcurrent, hdue, hanswered, hended, hfree, hnow⟩ := h.publishing hready hphase
  obtain ⟨-, hnow', hworker⟩ := report_told ht hphase hnow.ge
  have hphase' := congrArg Worker.phase hworker
  dsimp only at hphase'
  have hpublish : x.publish (c.holds t s r) =
      { x with current := some { q with publishing := q.publishing + c.holds t s r } } := by
    simp [Loop.publish, hcurrent]
  have hlasts : Poll.Lasts c.policy t { q with publishing := q.publishing + c.holds t s r } := by
    refine ⟨(h.lasts q (by simp [Loop.polls, hcurrent])).answered, fun e he => ?_⟩
    rw [hended] at he
    cases he
  have hplace' : Loop.At c.policy t { x with current := some { q with publishing := q.publishing + c.holds t s r } }
      ((step c s (.go i)).workerAt i).phase := by
    rw [hphase']
    refine ⟨_, rfl, ?_, hanswered, hended, ?_⟩
    · rw [hdue, tickAfter_snoc, tickAfter_snoc]
    · rw [hnow, hfree]
      exact Nat.add_assoc _ _ _
  have htime' : s.now ≤
      Loop.goesOn c.policy t { x with current := some { q with publishing := q.publishing + c.holds t s r } } := by
    have hsome : q.answered.isNone = false := by simpa using hanswered
    simp only [Loop.goesOn, hsome, Bool.false_eq_true, if_false]
    omega
  obtain ⟨hpaced, hmade⟩ := h.touch (step c s (.go i)) { q with publishing := q.publishing + c.holds t s r }
    hcurrent rfl hlasts hnow' hplace' (hnow'.symm ▸ htime') (fun hdone => by rw [hphase'] at hdone; cases hdone)
  rw [← hpublish] at hpaced hmade
  have hcalls : (s.workerAt i).callsTo ((step c s (.go i)).workerAt i) = [] := by simp [hworker, Worker.callsTo]
  exact { noted := by simp [Worker.noted, hphase], paced := hpaced, begun := rfl, calls := by rw [hmade, hcalls]; simp }

/-- everything is told and published -/
theorem Paced.finish (h : Paced c i t s x) (ht : c.targets[i]? = some t) (hready : s.isReady (s.workerAt i) = true)
    {free : ℕ} {next : Tick} (hphase : (s.workerAt i).phase = .reporting free [] (.tick next)) :
    Turns c i t s x (x.finish s.now) := by
  obtain ⟨q, hcurrent, hdue, hanswered, hended, hfree, hnow⟩ := h.publishing hready hphase
  obtain ⟨hnow', hlifecycle, hworker⟩ := proceed_turn ht (worker_present (by simp [hphase])) hready (by rw [hphase]; rfl)
  have hworker' : (s.workerAt i).proceed c.policy t s.now = { s.workerAt i with phase := .ticking next } := by
    simp only [Worker.proceed, hphase]
  rw [hworker'] at hworker
  have hphase' := congrArg Worker.phase hworker
  dsimp only at hphase'
  have hpast : (x.finish s.now).past = x.past ++ [{ q with ended := some s.now }] := by
    simp [Loop.finish, hcurrent]
  have hpolls : (x.finish s.now).polls = x.past ++ [{ q with ended := some s.now }] := by
    rw [Loop.polls, hpast]
    simp [Loop.finish]
  have hlast : x.polls = x.past ++ [q] := by
    rw [Loop.polls, hcurrent]
    rfl
  have hover : overAfter (x.finish s.now).begun (x.finish s.now).past = s.now := by
    rw [hpast, overAfter_snoc]
    rfl
  refine { noted := by simp [Worker.noted, hphase], paced := ?_, begun := rfl, calls := ?_ }
  · refine { schedule := ?_, current := by simp [Loop.finish], lasts := ?_, ended := ?_, place := ?_, inTime := ?_,
             free := ?_, ends := ?_ }
    · rw [hpast]
      exact h.schedule.snoc (h.current q hcurrent)
    · intro q' hq'
      rw [hpolls, List.mem_append, List.mem_singleton] at hq'
      rcases hq' with hq' | rfl
      · exact h.lasts q' (List.mem_append_left _ hq')
      · refine ⟨(h.lasts q (by simp [hlast])).answered, fun e he => ?_⟩
        cases he
        exact ⟨hnow.trans hfree, hanswered⟩
    · intro q' hq'
      rw [hpast, List.mem_append, List.mem_singleton] at hq'
      rcases hq' with hq' | rfl
      · exact h.ended q' hq'
      · rfl
    · rw [hphase']
      refine ⟨rfl, ?_⟩
      rw [hpast, hdue, tickAfter_snoc, tickAfter_snoc]
      rfl
    · intro _
      rw [hnow', Loop.goesOn]
      exact hover.ge.trans (le_max_right _ _)
    · rw [hnow', hover]
    · intro hdone
      rw [hphase'] at hdone
      cases hdone
  · rw [hpolls, hlast, hworker]
    simp [Poll.made, Worker.callsTo]

/-- **One turn** of a worker in its loop. -/
theorem Paced.turn (h : Paced c i t s x) (ht : c.targets[i]? = some t) (hready : s.isReady (s.workerAt i) = true) :
    ∃ x', Turns c i t s x x' := by
  have hplace := h.place
  cases hphase : (s.workerAt i).phase with
  | ticking due => exact ⟨_, h.tick ht hready hphase⟩
  | polling due ends a => exact ⟨_, h.answer ht hready hphase⟩
  | reporting free reports next =>
    cases next with
    | tick due =>
      cases reports with
      | nil => exact ⟨_, h.finish ht hready hphase⟩
      | cons r rs => exact ⟨_, h.tell ht hready hphase⟩
    | _ => rw [hphase] at hplace; exact hplace.elim
  | done =>
    rw [(done_rests hphase).1] at hready
    cases hready
  | _ => rw [hphase] at hplace; exact hplace.elim

end

end ServiceMonitor.Monitor
