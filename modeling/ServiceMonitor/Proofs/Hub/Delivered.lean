import ServiceMonitor.Proofs.Bus.Registry
import ServiceMonitor.Proofs.Hub.Frames

/-!
From the bus to the sockets of the clients.

`Passed` follows events through the channel: what was broadcast and then what still waits is what was published since
the hub was started, all of it up to a stop.

- `step_passed`, `run_passed`: kept by every act but a broadcast that goes around the bus.
- `frames_delivered`: with the frames of a client, the way of an event from the bus to a socket.
-/

namespace ServiceMonitor.Hub

open Bus (Registry)

/-- the text of an event -/
def wire (e : Event) : String := (WireMessage.ofEvent e).text

/-- the event that an act publishes on the bus -/
def Act.event? : Act → Option Event
  | .publish e => some e
  | _ => none

/-- the events published behind the first start -/
def published : List Act → List Event
  | [] => []
  | .start :: acts => acts.filterMap Act.event?
  | _ :: acts => published acts

theorem published_snoc (acts : List Act) (a : Act) :
    published (acts ++ [a]) = published acts ++ if .start ∈ acts then a.event?.toList else [] := by
  induction acts with
  | nil => cases a <;> rfl
  | cons b acts ih =>
    by_cases hb : b = .start
    · subst hb
      rw [List.cons_append, published, published, List.filterMap_append, if_pos List.mem_cons_self]
      cases a <;> rfl
    · have hcons (l : List Act) : published (b :: l) = published l := by
        cases b <;> first | rfl | exact absurd rfl hb
      rw [List.cons_append, hcons, hcons, ih]
      simp [Ne.symm hb]

/-! ## The channel -/

/-- the registry of the bus once the hub is subscribed, and the subscriptions that it holds -/
def hooked : Registry Unit × List Bus.Subscription := Registry.subscribeAll .empty ()

/-- events on their way to the broadcasts, behind a sequence of acts -/
structure Passed (acts : List Act) (s : St) : Prop where
  started : s.started = true ↔ .start ∈ acts
  stopped : s.stopped = true → .stop ∈ acts
  unhooked : s.started = false → s.registry = .empty ∧ s.subscriptions = []
  hooks : s.registry.live = [] ∧ s.subscriptions = [] ∨ s.registry = hooked.1 ∧ s.subscriptions = hooked.2
  running : s.loop = .running → s.started = true
  live : .start ∈ acts → .stop ∉ acts → s.loop = .running ∧ s.registry = hooked.1
  inOrder : s.broadcasts ++ s.channel.map wire <+: (published acts).map wire
  complete : s.loop = .running → s.registry = hooked.1 →
    s.broadcasts ++ s.channel.map wire = (published acts).map wire

theorem start_passed (limits : Limits) : Passed [] (start limits) := by
  constructor <;> simp [start, published, Registry.empty]

theorem published_unstarted {acts : List Act} (h : .start ∉ acts) : published acts = [] := by
  induction acts with
  | nil => rfl
  | cons a acts ih =>
    rw [List.mem_cons, not_or] at h
    cases a <;> first | exact ih h.2 | exact absurd rfl h.1

theorem hooked_kind (k : Kind) : (hooked.1.ofKind k).isEmpty = false := by
  cases k <;> rfl

/-- an act that leaves the way from the bus to the broadcasts alone -/
theorem Passed.of_eq {acts : List Act} {s s' : St} (h : Passed acts s) {a : Act} (hstart : a ≠ .start)
    (hstop : a ≠ .stop) (hevent : a.event? = none) (hstarted : s'.started = s.started) (hstopped : s'.stopped = s.stopped)
    (hregistry : s'.registry = s.registry) (hsubs : s'.subscriptions = s.subscriptions) (hloop : s'.loop = s.loop)
    (hpassed : s'.broadcasts ++ s'.channel.map wire = s.broadcasts ++ s.channel.map wire) :
    Passed (acts ++ [a]) s' := by
  have hpublished : published (acts ++ [a]) = published acts := by
    rw [published_snoc, hevent]
    simp
  have hmem (b : Act) (hb : a ≠ b) : b ∈ acts ++ [a] ↔ b ∈ acts := by simp [hb.symm]
  constructor
  · rw [hstarted, h.started, hmem _ hstart]
  · rw [hstopped, hmem _ hstop]; exact h.stopped
  · rw [hstarted, hregistry, hsubs]; exact h.unhooked
  · rw [hregistry, hsubs]; exact h.hooks
  · rw [hloop, hstarted]; exact h.running
  · rw [hmem _ hstart, hmem _ hstop, hloop, hregistry]; exact h.live
  · rw [hpublished, hpassed]; exact h.inOrder
  · rw [hpublished, hpassed, hloop, hregistry]; exact h.complete

theorem Passed.start {acts : List Act} {s : St} (h : Passed acts s) : Passed (acts ++ [.start]) (step s .start) := by
  have hpublished : published (acts ++ [.start]) = published acts := by
    rw [published_snoc]
    simp [Act.event?]
  cases hs : s.started with
  | true =>
    have hmem := h.started.1 hs
    have hstep : step s .start = s := by simp [step, hs]
    rw [hstep]
    constructor
    · simp [hs]
    · exact fun ht => List.mem_append_left _ (h.stopped ht)
    · exact h.unhooked
    · exact h.hooks
    · exact h.running
    · exact fun _ hstop => h.live hmem fun ht => hstop (List.mem_append_left _ ht)
    · rw [hpublished]; exact h.inOrder
    · rw [hpublished]; exact h.complete
  | false =>
    obtain ⟨hregistry, hsubs⟩ := h.unhooked hs
    have hmem : .start ∉ acts := fun hm => by rw [h.started.2 hm] at hs; cases hs
    have hnone : s.broadcasts ++ s.channel.map wire = [] := by
      have := h.inOrder
      rwa [published_unstarted hmem, List.map_nil, List.prefix_nil] at this
    have hstep : step s .start =
        { s with started := true, loop := .running, registry := hooked.1, subscriptions := hooked.2 } := by
      simp [step, hs, St.subscribe, hregistry, hsubs, hooked]
    rw [hstep]
    constructor
    · simp
    · exact fun ht => List.mem_append_left _ (h.stopped ht)
    · rintro ⟨⟩
    · exact Or.inr ⟨rfl, rfl⟩
    · exact fun _ => rfl
    · exact fun _ _ => ⟨rfl, rfl⟩
    · dsimp only; rw [hnone]; exact List.nil_prefix
    · intro _ _
      rw [hpublished, published_unstarted hmem]
      exact hnone

theorem Passed.stop {acts : List Act} {s : St} (h : Passed acts s) : Passed (acts ++ [.stop]) (step s .stop) := by
  have hpublished : published (acts ++ [.stop]) = published acts := by
    rw [published_snoc]
    simp [Act.event?]
  have hlive : (step s .stop).registry.live = [] := by
    rcases h.hooks with ⟨hlive, hsubs⟩ | ⟨hregistry, hsubs⟩
    · simp [step, St.unsubscribe, hlive, hsubs]
    · simp only [step, St.unsubscribe, hregistry, hsubs]
      rfl
  constructor
  · rw [List.mem_append, List.mem_singleton]
    simpa [step, St.unsubscribe] using h.started
  · exact fun _ => List.mem_append_right _ (List.mem_singleton_self _)
  · intro hs
    obtain ⟨hregistry, hsubs⟩ := h.unhooked hs
    simp [step, St.unsubscribe, hregistry, hsubs]
  · exact Or.inl ⟨hlive, rfl⟩
  · exact h.running
  · exact fun _ hstop => absurd (List.mem_append_right _ (List.mem_singleton_self _)) hstop
  · rw [hpublished]; exact h.inOrder
  · intro _ hregistry
    rw [hregistry] at hlive
    cases hlive

theorem Passed.publish {acts : List Act} {s : St} (h : Passed acts s) (e : Event) :
    Passed (acts ++ [.publish e]) (step s (.publish e)) := by
  have hpublished : published (acts ++ [.publish e]) = published acts ++ if .start ∈ acts then [e] else [] :=
    published_snoc acts _
  have hgrows : (published acts).map wire <+: (published (acts ++ [.publish e])).map wire := by
    rw [hpublished, List.map_append]
    exact List.prefix_append _ _
  have hmem (b : Act) (hb : .publish e ≠ b) : b ∈ acts ++ [.publish e] ↔ b ∈ acts := by simp [hb.symm]
  simp only [step]
  split_ifs with hskip
  · refine
      { h with
        started := ?_, stopped := ?_, live := ?_, inOrder := h.inOrder.trans hgrows, complete := ?_ }
    · rw [hmem _ (by simp)]; exact h.started
    · rw [hmem _ (by simp)]; exact h.stopped
    · rw [hmem _ (by simp), hmem _ (by simp)]; exact h.live
    · -- a running hub that is subscribed gets every kind
      intro hloop hregistry
      simp [hregistry, hooked_kind, hloop] at hskip
  · simp only [Bool.or_eq_true, not_or, Bool.not_eq_true, bne_eq_false_iff_eq] at hskip
    obtain ⟨hkind, hloop⟩ := hskip
    have hregistry : s.registry = hooked.1 := by
      rcases h.hooks with ⟨hlive, -⟩ | ⟨hregistry, -⟩
      · simp [Registry.ofKind, hlive] at hkind
      · exact hregistry
    have hpassed : s.broadcasts ++ (s.channel ++ [e]).map wire = (published (acts ++ [.publish e])).map wire := by
      rw [hpublished, if_pos (h.started.1 (h.running hloop)), List.map_append, List.map_append, ← List.append_assoc,
        h.complete hloop hregistry]
    refine
      { h with
        started := ?_, stopped := ?_, live := ?_, inOrder := by rw [hpassed], complete := fun _ _ => hpassed }
    · rw [hmem _ (by simp)]; exact h.started
    · rw [hmem _ (by simp)]; exact h.stopped
    · rw [hmem _ (by simp), hmem _ (by simp)]; exact h.live

theorem step_passed {acts : List Act} {s : St} (h : Passed acts s) {a : Act} (ha : ∀ e, a ≠ .broadcast e) :
    Passed (acts ++ [a]) (step s a) := by
  cases a with
  | start => exact h.start
  | stop => exact h.stop
  | publish e => exact h.publish e
  | broadcast e => exact absurd rfl (ha e)
  | dispatch =>
    simp only [step]
    cases hc : s.channel with
    | nil => exact h.of_eq (by simp) (by simp) rfl rfl rfl rfl rfl rfl rfl
    | cons e rest =>
      split_ifs
      · exact h.of_eq (by simp) (by simp) rfl rfl rfl rfl rfl rfl (by simp [St.broadcast, hc, wire])
      · exact h.of_eq (by simp) (by simp) rfl rfl rfl rfl rfl rfl rfl
  | endLoop =>
    by_cases hend : s.loop = .running ∧ s.stopped = true
    · have hpassed := h.of_eq (a := .endLoop) (by simp) (by simp) rfl rfl rfl rfl rfl rfl rfl
      have hstep : step s .endLoop = { s with loop := .done, channel := [] } := by simp [step, hend.1, hend.2]
      rw [hstep]
      refine
        { hpassed with
          running := by rintro ⟨⟩
          live := fun _ hstop => absurd (hpassed.stopped hend.2) hstop
          inOrder := ?_
          complete := by rintro ⟨⟩ }
      rw [List.map_nil, List.append_nil]
      exact (List.prefix_append _ _).trans hpassed.inOrder
    · have hstep : step s .endLoop = s := by
        simp only [step]
        rw [if_neg (by simpa using hend)]
      rw [hstep]
      exact h.of_eq (by simp) (by simp) rfl rfl rfl rfl rfl rfl rfl
  | tick t =>
    simp only [step]
    split_ifs <;> exact h.of_eq (by simp) (by simp) rfl rfl rfl rfl rfl rfl rfl
  | _ => exact h.of_eq (by simp) (by simp) rfl rfl rfl rfl rfl rfl rfl

/-- **Through the channel.** Without broadcasts around the bus, what is broadcast and what waits is what was
published. -/
theorem run_passed (limits : Limits) {acts : List Act} (h : ∀ e, .broadcast e ∉ acts) :
    Passed acts (run (start limits) acts) := by
  induction acts using List.reverseRecOn with
  | nil => exact start_passed limits
  | append_singleton acts a ih =>
    rw [run_snoc]
    refine step_passed (ih fun e he => h e (List.mem_append_left _ he)) fun e ha => ?_
    exact h e (List.mem_append_right _ (by simp [ha]))

/-! ## Connecting -/

theorem step_stopped (s : St) (a : Act) (h : (step s a).stopped = true) : s.stopped = true ∨ a = .stop := by
  cases a with
  | stop => exact Or.inr rfl
  | start | publish | endLoop | tick => simp only [step] at h; split_ifs at h <;> exact Or.inl h
  | dispatch => simp only [step] at h; split at h; exact Or.inl h; split_ifs at h <;> exact Or.inl h
  | _ => exact Or.inl h

theorem run_stopped (limits : Limits) (acts : List Act) (h : (run (start limits) acts).stopped = true) :
    .stop ∈ acts := by
  induction acts using List.reverseRecOn with
  | nil => cases h
  | append_singleton acts a ih =>
    rw [run_snoc] at h
    rcases step_stopped _ a h with h | rfl
    · exact List.mem_append_left _ (ih h)
    · exact List.mem_append_right _ (List.mem_singleton_self _)

/-- a connection gets the next place; it is served, or turned away once the hub is stopped -/
theorem connect_served (s : St) :
    ∃ c, (step s .connect).clients[s.clients.length]? = some c ∧
      Served s.limits c (c.begun.map fun what => ((step s .connect).now, what)) [] ∧
      (c.registered = false → s.stopped = true) := by
  cases hs : s.stopped with
  | false =>
    refine ⟨.joined s.nextId s.pingTime, by simp [step, hs], joined_served _ _ _, ?_⟩
    rintro ⟨⟩
  | true => exact ⟨.turnedAway s.nextId, by simp [step, hs], turnedAway_served _ _ _, fun _ => rfl⟩

/-- **From the bus to a socket.** For every run of the hub and every client `i` that connects in it:
- the frames written to its socket are the first of those begun for it, nothing is begun behind a goodbye, and the
  messages among them are the first of the broadcasts since it connected, in order;
- as long as it is registered, every broadcast since then has been written, is being written or is in its queue, which
  never holds more than its capacity;
- it is off the map only because the hub was stopped before it connected, or because of one of the reasons in
  `Removed`.

Without broadcasts around the bus, what is broadcast are the first of the events published since the hub was started,
in order; up to a stop the others still wait in the channel. -/
theorem frames_delivered (limits : Limits) :
    (∀ before after : List Act,
      let i := (run (start limits) before).clients.length
      let s := run (start limits) (before ++ [.connect])
      let fs := frames i s after
      let since := saidIn s after
      ∃ c, (run s after).clients[i]? = some c ∧
        c.written <+: fs.map (·.2) ∧ .close ∉ (fs.map (·.2)).dropLast ∧ messages fs <+: since ∧
        c.queue.length ≤ limits.capacity ∧
        (c.registered = true → c.begun = fs.map (·.2) ∧ messages fs ++ c.queue = since) ∧
        (c.registered = false → .stop ∈ before ∨
          ∃ mid a rest m, after = mid ++ a :: rest ∧ (run s mid).clients[i]? = some m ∧
            Removed i (run s mid) m (frames i s mid) a)) ∧
    ∀ acts : List Act, (∀ e, .broadcast e ∉ acts) →
      let s := run (start limits) acts
      s.broadcasts ++ s.channel.map wire <+: (published acts).map wire ∧
        (.stop ∉ acts → s.broadcasts ++ s.channel.map wire = (published acts).map wire) := by
  refine ⟨fun before after => ?_, fun acts hacts => ?_⟩
  · intro i s fs since
    have hs : s = step (run (start limits) before) .connect := run_snoc _ _ _
    have hlimits : s.limits = limits := run_limits _ _
    obtain ⟨c₀, hc₀, hserved₀, hturned⟩ := connect_served (run (start limits) before)
    rw [← hs] at hc₀ hserved₀
    rw [run_limits] at hserved₀
    obtain ⟨c, hc, hserved, hremoved⟩ := run_served hc₀ (by rw [hlimits]; exact hserved₀) after
    rw [hlimits] at hserved
    refine ⟨c, hc, hserved.written, hserved.last, hserved.told, hserved.room, fun hr => ?_, fun hr => ?_⟩
    · exact ⟨hserved.begun (hserved.live hr).1, hserved.current hr⟩
    · cases hreg : c₀.registered with
      | false => exact Or.inl (run_stopped limits before (hturned hreg))
      | true => exact Or.inr (hremoved hreg hr)
  · have hpassed := run_passed limits hacts
    refine ⟨hpassed.inOrder, fun hstop => ?_⟩
    by_cases hstart : .start ∈ acts
    · obtain ⟨hloop, hregistry⟩ := hpassed.live hstart hstop
      exact hpassed.complete hloop hregistry
    · have := hpassed.inOrder
      rw [published_unstarted hstart, List.map_nil, List.prefix_nil] at this
      rw [published_unstarted hstart]
      exact this

/-- one message waits for a client at most -/
def narrow : Limits := ⟨0, .ofSecs 30, .ofSecs 10, 256⟩

def nasRecovered : Event := ⟨.recovered "nas", default⟩

def edgeRecovered : Event := ⟨.recovered "edge", default⟩

/-- two events are published and broadcast, and the client takes neither -/
def slowRun : List Act := [.start, .publish nasRecovered, .dispatch, .publish edgeRecovered, .dispatch]

/-- the client that takes nothing is dropped for a reason; both events are broadcast -/
theorem frames_delivered_slow :
    (∀ e, .broadcast e ∉ Act.connect :: slowRun) ∧ .stop ∉ Act.connect :: slowRun ∧
    (run (start narrow) (.connect :: slowRun)).broadcasts ++
        (run (start narrow) (.connect :: slowRun)).channel.map wire =
      [wire nasRecovered, wire edgeRecovered] ∧
    let s := run (start narrow) [.connect]
    ∃ mid a rest m, slowRun = mid ++ a :: rest ∧ (run s mid).clients[0]? = some m ∧
      Removed 0 (run s mid) m (frames 0 s mid) a := by
  have hbus : ∀ e, .broadcast e ∉ Act.connect :: slowRun := by simp [slowRun]
  have hstop : .stop ∉ Act.connect :: slowRun := by simp [slowRun]
  obtain ⟨hclients, hpublished⟩ := frames_delivered narrow
  obtain ⟨c, hc, -, -, -, -, -, hremoved⟩ := hclients [] slowRun
  have hout : ((run (run (start narrow) [.connect]) slowRun).clients[0]?).map (·.registered) = some false := by
    decide +kernel
  refine ⟨hbus, hstop, (hpublished _ hbus).2 hstop, ?_⟩
  have hreg : c.registered = false := by
    have hc' : (run (run (start narrow) [.connect]) slowRun).clients[0]? = some c := hc
    rw [hc'] at hout
    exact Option.some.inj hout
  rcases hremoved hreg with hmem | hwhy
  · cases hmem
  · exact hwhy

end ServiceMonitor.Hub
