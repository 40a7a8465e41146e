import ServiceMonitor.Proofs.Hub.Leaving
import ServiceMonitor.Proofs.Hub.Turns

/-!
The life of the hub's clients.

- `step_taskless`, `run_taskless`: who has no task gets none, and nothing more is written to him.
- `run_shut`, `late_connection`: from a stop on nobody is on the map, and who connects is told goodbye.
- `run_loop`: a loop that runs was started, which happens once.
- `client_lifetimes`: numbers, map, tokens and tasks of the clients behind every run.
-/

namespace ServiceMonitor.Hub

/-! ## No task left -/

/-- one of its tasks is alive; a connection that came too late has none -/
def Client.hasTask (c : Client) : Bool :=
  c.reading || match c.writer with
    | .waiting _ | .writing _ (some _) => true
    | .writing _ none | .done => false

/-- who has no task: both tasks are over, or the connection came too late -/
theorem Sound.taskless {l : Limits} {now : ℕ} {c : Client} (hsound : Sound l now c) (h : c.hasTask = false) :
    c.reading = false ∧ (c.writer = .done ∨ c.writer = .writing .close none) := by
  simp only [Client.hasTask, Bool.or_eq_false_iff] at h
  obtain ⟨hreads, hwriter⟩ := h
  refine ⟨hreads, ?_⟩
  cases hw : c.writer with
  | waiting pingAt => simp [hw] at hwriter
  | done => exact Or.inl rfl
  | writing what d =>
    cases d with
    | some d => simp [hw] at hwriter
    | none =>
      obtain ⟨rfl, -⟩ := hsound.bare what hw
      exact Or.inr rfl

/-- who has no task gets none, and no further write begins for him -/
theorem step_taskless {s : St} {a : Act} {i : ℕ} {c c' : Client} (hsound : Sound s.limits s.now c)
    (h : c.hasTask = false) (hstep : ClientStep s i a c c') : c'.hasTask = false ∧ c.begins c' = none := by
  obtain ⟨hreads, hwriter⟩ := hsound.taskless h
  cases hstep with
  | idle quiet runs => exact ⟨h, begins_same rfl⟩
  | offered said =>
    refine ⟨?_, begins_same (offer_writer _ _ c)⟩
    rw [Client.hasTask, offer_reading, offer_writer]
    exact h
  | stopped act => exact ⟨h, begins_same rfl⟩
  | wrote act writes goesOn =>
    rw [writes] at hwriter
    simp [goesOn] at hwriter
  | closed act writes =>
    exact ⟨by simp [Client.hasTask, drop_reading, hreads], begins_writing writes⟩
  | failed act writes =>
    exact ⟨by simp [Client.hasTask, drop_reading, hreads], begins_writing writes⟩
  | late act writes time =>
    exact ⟨by simp [Client.hasTask, drop_reading, hreads], begins_writing writes⟩
  | hungUp act reads =>
    rw [hreads] at reads
    cases reads
  | endedRead act reads told =>
    rw [hreads] at reads
    cases reads
  | took act waits queued => simp [waits] at hwriter
  | pinged act waits time => simp [waits] at hwriter
  | left act waits ended => simp [waits] at hwriter

theorem run_taskless {s : St} (hs : Orderly s) {i : ℕ} {c : Client} (hc : s.clients[i]? = some c)
    (h : c.hasTask = false) (more : List Act) :
    beginsIn i s more = [] ∧ ∃ c', (run s more).clients[i]? = some c' ∧ c'.hasTask = false := by
  induction more generalizing s c with
  | nil => exact ⟨rfl, c, hc, h⟩
  | cons a more ih =>
    obtain ⟨c', hc', hstep⟩ := step_client hc a
    obtain ⟨h', hnone⟩ := step_taskless (hs.sound i c hc) h hstep
    obtain ⟨hbegins, hrest⟩ := ih (step_orderly hs a) hc' h'
    refine ⟨?_, hrest⟩
    rw [beginsIn, hbegins]
    simp [beginsAt, hc, hc', hnone]

/-- when a stop returns, no client has a task -/
theorem idle_taskless {s : St} (hs : Orderly s) (h : s.isIdle = true) : ∀ c ∈ s.clients, c.hasTask = false := by
  intro c hc
  have hsound := hs.sound c.id c (hs.get hc)
  simp only [St.isIdle, Bool.and_eq_true, List.all_eq_true] at h
  have hover := h.2 c hc
  cases hw : c.writer with
  | writing what d =>
    cases d with
    | none => simp [Client.hasTask, hw, (hsound.bare what hw).2]
    | some d => simp [hw, Client.isOver] at hover
  | waiting pingAt => simp [hw, Client.isOver] at hover
  | done => simpa [Client.hasTask, Client.isOver, hw] using hover

/-! ## Behind a stop -/

/-- a hub that was stopped -/
structure Shut (s : St) : Prop where
  stopped : s.stopped = true
  empty : ∀ c ∈ s.clients, c.registered = false

theorem step_stays_stopped {s : St} (h : s.stopped = true) (a : Act) : (step s a).stopped = true := by
  cases a with
  | stop => rfl
  | start | publish | endLoop | tick => simp only [step]; split_ifs <;> exact h
  | dispatch => rcases dispatch_cases s with heq | ⟨e, rest, heq⟩ <;> rw [heq] <;> exact h
  | _ => exact h

theorem stop_shut (s : St) : Shut (step s .stop) where
  stopped := rfl
  empty := by
    intro c hc
    obtain ⟨c₀, -, rfl⟩ := List.mem_map.1 hc
    rfl

theorem step_shut {s : St} (h : Shut s) (a : Act) : Shut (step s a) where
  stopped := step_stays_stopped h.stopped a
  empty := by
    intro c' hc'
    obtain ⟨i, hi⟩ := List.mem_iff_getElem?.1 hc'
    rcases step_inversion hi with ⟨c, hc, hstep⟩ | ⟨-, -, rfl⟩
    · exact stays_out (h.empty c (List.mem_of_getElem? hc)) hstep
    · rw [h.stopped]
      rfl

theorem run_shut {s : St} (h : Shut s) (acts : List Act) : Shut (run s acts) := by
  induction acts generalizing s with
  | nil => exact h
  | cons a acts ih => exact ih (step_shut h a)

theorem shut_of_mem (s : St) {acts : List Act} (h : .stop ∈ acts) : Shut (run s acts) := by
  obtain ⟨before, after, rfl⟩ := List.append_of_mem h
  rw [run_append]
  exact run_shut (stop_shut _) after

/-- nobody gets a task any more -/
theorem shut_taskless {s : St} (hs : Orderly s) (hshut : Shut s) (h : ∀ c ∈ s.clients, c.hasTask = false)
    (more : List Act) : ∀ c ∈ (run s more).clients, c.hasTask = false := by
  induction more generalizing s with
  | nil => exact h
  | cons a more ih =>
    refine ih (step_orderly hs a) (step_shut hshut a) fun c' hc' => ?_
    obtain ⟨i, hi⟩ := List.mem_iff_getElem?.1 hc'
    rcases step_inversion hi with ⟨c, hc, hstep⟩ | ⟨-, -, rfl⟩
    · exact (step_taskless (hs.sound i c hc) (h c (List.mem_of_getElem? hc)) hstep).1
    · rw [hshut.stopped]
      rfl

/-- a connection to a stopped hub is told goodbye and nothing else -/
theorem late_connection {s : St} (hs : Orderly s) (hshut : Shut s) (more : List Act) :
    frames s.clients.length (step s .connect) more = [(s.now, .close)] ∧
      ∃ c, (run (step s .connect) more).clients[s.clients.length]? = some c ∧ c.registered = false ∧
        c.hasTask = false ∧ c.written <+: [.close] := by
  have hc : (step s .connect).clients[s.clients.length]? = some (.turnedAway s.nextId) := by
    simp [step, hshut.stopped]
  obtain ⟨hbegins, c, hget, htask⟩ := run_taskless (step_orderly hs .connect) hc rfl more
  have hframes : frames s.clients.length (step s .connect) more = [(s.now, .close)] := by
    rw [frames, hbegins, hc]
    rfl
  obtain ⟨c', hget', hserved, -⟩ := run_served hc (turnedAway_served _ _ _) more
  rw [hget, Option.some.injEq] at hget'
  subst hget'
  have hout := (run_shut (step_shut hshut .connect) more).empty c (List.mem_of_getElem? hget)
  refine ⟨hframes, c, hget, hout, htask, ?_⟩
  have hwritten := hserved.written
  rw [hframes] at hwritten
  exact hwritten

/-! ## The loop -/

theorem step_started {s : St} {a : Act} (h : s.started = true ∨ a = .start) : (step s a).started = true := by
  cases a with
  | start => simp only [step]; split_ifs with hs; exact hs; rfl
  | publish | endLoop | tick => simp only [step]; split_ifs <;> simpa using h
  | dispatch => rcases dispatch_cases s with heq | ⟨e, rest, heq⟩ <;> rw [heq] <;> simpa [St.broadcast] using h
  | _ => simpa [step, St.broadcast, St.unsubscribe, St.update] using h

theorem run_started {s : St} {acts : List Act} (h : s.started = true ∨ .start ∈ acts) : (run s acts).started = true := by
  induction acts generalizing s with
  | nil => simpa [run] using h
  | cons a acts ih =>
    refine ih ?_
    rcases h with hs | hmem
    · exact Or.inl (step_started (Or.inl hs))
    · rcases List.mem_cons.1 hmem with rfl | hmem
      · exact Or.inl (step_started (Or.inr rfl))
      · exact Or.inr hmem

theorem step_loop {s : St} {a : Act} (h : (step s a).loop = .running) :
    s.loop = .running ∨ (a = .start ∧ s.started = false) := by
  cases a with
  | start =>
    simp only [step] at h
    split_ifs at h with hs
    · exact Or.inl h
    · exact Or.inr ⟨rfl, by simpa using hs⟩
  | publish | endLoop | tick => simp only [step] at h; split_ifs at h <;> exact Or.inl h
  | dispatch => rcases dispatch_cases s with heq | ⟨e, rest, heq⟩ <;> rw [heq] at h <;> exact Or.inl h
  | _ => exact Or.inl h

/-- a loop that runs has run, or was started, which happens once -/
theorem run_loop {s : St} {acts : List Act} (h : (run s acts).loop = .running) :
    s.loop = .running ∨ (.start ∈ acts ∧ s.started = false) := by
  induction acts generalizing s with
  | nil => exact Or.inl h
  | cons a acts ih =>
    rcases ih h with hloop | ⟨hmem, hstarted⟩
    · rcases step_loop hloop with hloop | ⟨rfl, hstarted⟩
      · exact Or.inl hloop
      · exact Or.inr ⟨List.mem_cons_self, hstarted⟩
    · refine Or.inr ⟨List.mem_cons_of_mem a hmem, ?_⟩
      by_contra hs
      rw [step_started (Or.inl (by simpa using hs))] at hstarted
      cases hstarted

/-! ## Lifetimes -/

/-- **The life of the hub's clients**, behind every run:
- Each connection has the number of its place, so no two have the same and none is used again; below 2^64 connections all
  numbers fit into 64 bits.
- A client is on the map exactly if its token is not cancelled. Once it has nothing left to do it is on the map exactly if its
  read task and its write task are both alive, and its tasks get there by themselves.
- An act takes exactly those off the map that it costs their place (`Client.isLost`): everybody at a stop, whose queue is full at
  a broadcast, whose connection ends, fails under a write, or takes too long over one. The count goes down by one for each, once.
  Where it is about one connection the others stay as they are.
- Who is lost stays off the map. Its read task ends before the clock goes on. Its write task ends within one write timeout for
  the write under way, one for each message that waits, one for the goodbye, and one for a ping if one has come due before.
- From a stop on the map is empty. Who connects then is told goodbye and nothing else.
- A stop waits for a moment at which its tasks have ended. From that moment on no client has a task, and the loop does not
  run, unless the hub is started for the first time later. -/
theorem client_lifetimes (limits : Limits) (acts : List Act) :
    let s := run (start limits) acts
    ((∀ (i : ℕ) (c : Client), s.clients[i]? = some c → c.id = i) ∧ (s.clients.map (·.id)).Nodup ∧
      s.clients.length = acts.count .connect) ∧
    (∀ c ∈ s.clients, c.registered = !c.cancelled ∧
      (c.isBusy s.now = false → (c.registered = true ↔ c.reading = true ∧ c.isOpen = true))) ∧
    (∃ turns : List Act, (∀ a ∈ turns, a.isTurn = true) ∧ (run s turns).now = s.now ∧
      (run s turns).canTick (s.now + 1) = true) ∧
    (∀ a,
      (step s a).clientCount + s.clients.countP (·.isLost s a) =
        s.clientCount + (if a = .connect ∧ s.stopped = false then 1 else 0) ∧
      (∀ (i : ℕ) (c : Client), s.clients[i]? = some c →
        ∃ c', (step s a).clients[i]? = some c' ∧ c'.registered = (c.registered && !c.isLost s a)) ∧
      ∀ i, a.place? = some i →
        (∀ j ≠ i, (step s a).clients[j]? = s.clients[j]?) ∧
        ∀ c, s.clients[i]? = some c → c.isLost s a = true → (step s a).clientCount + 1 = s.clientCount) ∧
    (∀ (a : Act) (i : ℕ) (c : Client), s.clients[i]? = some c → c.isLost s a = true → ∀ more,
      let s' := run (step s a) more
      let pings := pingsIn i (step s a) more
      c.queue.length ≤ limits.capacity ∧ (0 < limits.pingInterval.millisUp → pings ≤ 1) ∧
      ∃ c', s'.clients[i]? = some c' ∧ c'.registered = false ∧ (c'.reading = true → s'.now = s.now) ∧
        (c'.isOver = true ∨ s'.now ≤ s.now + (c.queue.length + 2 + pings) * limits.writeTimeout.millisUp)) ∧
    (.stop ∈ acts → s.clientCount = 0 ∧ ∀ more,
      let i := s.clients.length
      frames i (step s .connect) more = [(s.now, .close)] ∧
        ∃ c, (run (step s .connect) more).clients[i]? = some c ∧ c.registered = false ∧ c.hasTask = false ∧
          c.written <+: [.close]) ∧
    ∀ before mid rest, acts = before ++ .stop :: (mid ++ rest) →
      (run (start limits) (before ++ .stop :: mid)).isIdle = true →
        (∀ c ∈ s.clients, c.hasTask = false) ∧
          (s.loop = .running → .start ∈ rest ∧ .start ∉ before ++ .stop :: mid) := by
  intro s
  have hs : Orderly s := run_orderly (start_orderly limits) acts
  have hlimits : s.limits = limits := run_limits _ _
  refine ⟨⟨hs.place, ?_, run_length limits acts⟩, ?_, clock_goes_on hs, ?_, ?_, ?_, ?_⟩
  · rw [hs.ids]
    exact List.nodup_range
  · intro c hc
    have hsound := hs.sound c.id c (hs.get hc)
    refine ⟨by rw [hsound.token, Bool.not_not], fun hrest => ?_⟩
    exact (hsound.atRest hrest).1
  · intro a
    refine ⟨clientCount_step hs a, fun i c hc => ?_, fun i hplace => ⟨fun j hj => place_step s hplace hj, ?_⟩⟩
    · obtain rfl := hs.place i c hc
      obtain ⟨c', hc', -, hreg⟩ := registered_step (a := a) (hs.sound _ c hc) hc
      exact ⟨c', hc', hreg⟩
    · intro c hc hlost
      have hcount := clientCount_step hs a
      have hne : a ≠ .connect := by rintro rfl; cases hplace
      rw [lost_once hs hplace hc hlost, if_neg fun h => hne h.1] at hcount
      exact hcount
  · intro a i c hc hlost more s' pings
    obtain ⟨c₁, hc₁, hleaving₁⟩ := lost_leaving hs hc hlost
    have hs₁ := step_orderly hs a
    rw [← step_limits s a] at hleaving₁
    obtain ⟨c', hc', hleaving⟩ := run_leaving hs₁ hc₁ hleaving₁ more
    have hsound := (run_orderly hs₁ more).sound i c' hc'
    rw [run_limits, step_limits, hlimits] at hsound
    rw [step_limits, hlimits, Nat.zero_add] at hleaving
    obtain ⟨fs, since, hserved⟩ := (hs.sound i c hc).served
    refine ⟨by rw [← hlimits]; exact hserved.room, fun hpositive => ?_, c', hc', hleaving.out, hleaving.reads,
      hleaving.over_or_soon hsound⟩
    rcases hleaving.pinged hpositive with hnone | ⟨hone, -⟩
    · exact hnone.le.trans zero_le_one
    · exact hone.le
  · intro hstop
    have hshut : Shut s := shut_of_mem _ hstop
    refine ⟨?_, fun more => late_connection hs hshut more⟩
    rw [St.clientCount, List.length_eq_zero_iff, List.filter_eq_nil_iff]
    intro c hc
    rw [hshut.empty c hc]
    decide
  · intro before mid rest hacts hidle
    have hsplit : s = run (run (start limits) (before ++ .stop :: mid)) rest := by
      rw [← run_append]
      simp [s, hacts]
    have hreturn : Orderly (run (start limits) (before ++ .stop :: mid)) := run_orderly (start_orderly limits) _
    have hshut : Shut (run (start limits) (before ++ .stop :: mid)) := shut_of_mem _ (by simp)
    refine ⟨?_, fun hloop => ?_⟩
    · rw [hsplit]
      exact shut_taskless hreturn hshut (idle_taskless hreturn hidle) rest
    · rw [hsplit] at hloop
      rcases run_loop hloop with hearlier | ⟨hmem, hunstarted⟩
      · simp [St.isIdle, hearlier] at hidle
      · refine ⟨hmem, fun hbefore => ?_⟩
        rw [run_started (Or.inr hbefore)] at hunstarted
        cases hunstarted

/-- two clients of a hub with room for one message: one takes its message, the other does not, and the next event is on its
way -/
def unevenRun : List Act :=
  [.connect, .connect, .start, .publish nasRecovered, .dispatch, .take 0, .publish edgeRecovered]

/-- the second client is written its message, slowly, and no goodbye in time -/
def partingRun : List Act :=
  [.endRead 1, .take 1, .tick 9000, .wrote 1, .leave 1, .wrote 0, .take 0, .tick 19000, .late 1, .wrote 0, .tick 30001]

/-- the tasks end behind a stop -/
def closingRun : List Act := [.endLoop, .endRead 0, .leave 0, .wrote 0]

/-- the second client is lost at the broadcast, and its tasks are over once the time for two writes and a goodbye is; then the
hub is stopped, and somebody connects to it -/
theorem client_lifetimes_uneven :
    let s := run (start narrow) unevenRun
    let s' := run (step s .dispatch) partingRun
    let stopped := run (start narrow) (unevenRun ++ .dispatch :: partingRun ++ .stop :: (closingRun ++ [.connect]))
    (step s .dispatch).clientCount + s.clients.countP (·.isLost s .dispatch) = s.clientCount ∧
    (∃ c', s'.clients[1]? = some c' ∧ c'.registered = false ∧ c'.isOver = true) ∧
    stopped.clientCount = 0 ∧ (∀ c ∈ stopped.clients, c.hasTask = false) ∧ stopped.loop ≠ .running := by
  intro s s' stopped
  obtain ⟨-, -, -, hacts, hlost, -, -⟩ := client_lifetimes narrow unevenRun
  obtain ⟨-, -, -, -, -, hstop, hreturn⟩ :=
    client_lifetimes narrow (unevenRun ++ .dispatch :: partingRun ++ .stop :: (closingRun ++ [.connect]))
  refine ⟨(hacts .dispatch).1, ?_, (hstop (by simp)).1, ?_⟩
  · have hget : (s.clients[1]?).map (fun c => (c.isLost s .dispatch, c.queue.length)) = some (true, 1) := by
      decide +kernel
    obtain ⟨c, hc, hboth⟩ := Option.map_eq_some_iff.1 hget
    obtain ⟨hfull, hqueue⟩ := Prod.mk.inj hboth
    obtain ⟨-, -, c', hc', hout, -, hover⟩ := hlost .dispatch 1 c hc hfull partingRun
    refine ⟨c', hc', hout, hover.resolve_right ?_⟩
    have hpings : pingsIn 1 (step s .dispatch) partingRun = 0 := by decide +kernel
    have htimes : s.now = 0 ∧ (run (step s .dispatch) partingRun).now = 30001 := by decide +kernel
    rw [hqueue, hpings, htimes.1, htimes.2]
    decide
  · have hidle : (run (start narrow) ((unevenRun ++ .dispatch :: partingRun) ++ .stop :: closingRun)).isIdle = true := by
      decide +kernel
    obtain ⟨htasks, hloop⟩ := hreturn (unevenRun ++ .dispatch :: partingRun) closingRun [.connect] rfl hidle
    refine ⟨htasks, fun hrunning => ?_⟩
    obtain ⟨hstart, -⟩ := hloop hrunning
    simp at hstart

end ServiceMonitor.Hub
