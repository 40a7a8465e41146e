import ServiceMonitor.Proofs.Hub.Own

/-!
Clients that leave each other alone.

A hub that one client is the only one to connect to runs beside a hub with all of them, with the acts of the others left out
(`St.only`, `onlyActs`).

- `step_only`, `run_only`: the hub is the same, the same is broadcast, and the same is seen of the client.
- `channel_of_canTick`, `dispatch_all`: what is published is broadcast before the clock goes on, and nobody else is needed.
- `clients_apart`: so nobody waits for a client, and no client for another.
-/

namespace ServiceMonitor.Hub

/-! ## The hub without the others -/

/-- a hub that client `i` is the only one to connect to -/
def St.only (i : ℕ) (s : St) : St :=
  let kept := (s.clients[i]?).toList.map (Client.renamed 0)
  { s with clients := kept, nextId := kept.length }

/-- the client that an act is about, if it is about one -/
def Act.place? : Act → Option ℕ
  | .take i | .ping i | .leave i | .wrote i | .late i | .broken i | .hangUp i | .endRead i => some i
  | _ => none

/-- the same of the first client -/
def Act.first : Act → Act
  | .take _ => .take 0
  | .ping _ => .ping 0
  | .leave _ => .leave 0
  | .wrote _ => .wrote 0
  | .late _ => .late 0
  | .broken _ => .broken 0
  | .hangUp _ => .hangUp 0
  | .endRead _ => .endRead 0
  | a => a

/-- what an act is to such a hub; a clock that stands still is nothing -/
def Act.only? (i : ℕ) (s : St) (a : Act) : Option Act :=
  match a with
  | .connect => if s.clients.length = i then some .connect else none
  | .tick t => if s.canTick t then some (.tick t) else none
  | a => if a.place?.all (· = i) then some a.first else none

/-- the acts of a run without those of the other clients -/
def onlyActs (i : ℕ) : St → List Act → List Act
  | _, [] => []
  | s, a :: acts => (a.only? i s).toList ++ onlyActs i (step s a) acts

/-- the texts that are broadcast in a run, and when -/
def broadcastsIn : St → List Act → List (ℕ × String)
  | _, [] => []
  | s, a :: acts => ((offered? s a).toList.map fun text => (s.now, text)) ++ broadcastsIn (step s a) acts

theorem run_append (s : St) (acts acts' : List Act) : run s (acts ++ acts') = run (run s acts) acts' :=
  List.foldl_append

theorem broadcastsIn_append (s : St) (acts acts' : List Act) :
    broadcastsIn s (acts ++ acts') = broadcastsIn s acts ++ broadcastsIn (run s acts) acts' := by
  induction acts generalizing s with
  | nil => rfl
  | cons a acts ih => rw [List.cons_append, broadcastsIn, broadcastsIn, ih, List.append_assoc]; rfl

theorem seenIn_append (i : ℕ) (s : St) (acts acts' : List Act) :
    seenIn i s (acts ++ acts') = seenIn i s acts ++ seenIn i (run s acts) acts' := by
  induction acts generalizing s with
  | nil => rfl
  | cons a acts ih => rw [List.cons_append, seenIn, seenIn, ih, List.append_assoc]; rfl

section

variable (i : ℕ) (s : St)

theorem only_get : (s.only i).clients[0]? = (s.clients[i]?).map (Client.renamed 0) := by
  simp only [St.only]
  cases s.clients[i]? <;> rfl

theorem canTick_only {t : ℕ} (h : s.canTick t = true) : (s.only i).canTick t = true := by
  simp only [St.canTick, Bool.and_eq_true, List.all_eq_true] at h ⊢
  refine ⟨h.1, fun c hc => ?_⟩
  simp only [St.only, List.mem_map, Option.mem_toList] at hc
  obtain ⟨c, hmem, rfl⟩ := hc
  exact h.2 c (List.mem_of_getElem? hmem)

theorem only?_place {a : Act} {j : ℕ} (h : a.place? = some j) :
    a.only? i s = if j = i then some a.first else none := by
  cases a <;> cases h <;> simp [Act.only?, Act.place?]

/-- an act about one client -/
theorem place_only {a : Act} {j : ℕ} {f : Client → Client} (hplace : a.place? = some j)
    (hstep : step s a = s.update j f) (hfirst : step (s.only i) a.first = (s.only i).update 0 f)
    (hf : ∀ c : Client, f (c.renamed 0) = (f c).renamed 0) :
    (step s a).only i = run (s.only i) (a.only? i s).toList := by
  rw [only?_place i s hplace, hstep]
  by_cases hj : j = i
  · subst hj
    simp only [if_true, Option.toList_some, run, List.foldl_cons, List.foldl_nil, hfirst]
    simp only [St.only, St.update, List.getElem?_modify, if_true]
    cases s.clients[j]? with
    | none => rfl
    | some c => simp [hf]
  · simp [St.only, St.update, hj, run]

theorem broadcast_only (e : Event) : (s.broadcast e).only i = (s.only i).broadcast e := by
  simp only [St.only, St.broadcast, List.getElem?_map]
  cases s.clients[i]? with
  | none => rfl
  | some c => simp [offer_renamed]

/-- a connection: of the client itself, or of another one -/
theorem connect_only : (step s .connect).only i = run (s.only i) (Act.only? i s .connect).toList := by
  by_cases hi : s.clients.length = i
  · subst hi
    cases hs : s.stopped <;>
      simp [Act.only?, run, step, St.only, hs, Client.renamed, Client.joined, Client.turnedAway, St.pingTime]
  · have hget (c : Client) : (s.clients ++ [c])[i]? = s.clients[i]? := by
      rcases Nat.lt_or_gt_of_ne hi with hlt | hgt
      · rw [List.getElem?_eq_none (by simpa using hlt), List.getElem?_eq_none hlt.le]
      · exact List.getElem?_append_left hgt
    simp [Act.only?, hi, run, step, St.only, hget]

/-- **One act** is one act or none to a hub without the others. -/
theorem step_only (a : Act) : (step s a).only i = run (s.only i) (a.only? i s).toList := by
  cases a with
  | start | publish | endLoop => exact apply_ite (St.only i) _ _ _
  | dispatch =>
    change (step s .dispatch).only i = step (s.only i) .dispatch
    cases hc : s.channel with
    | nil => simp [step, St.only, hc]
    | cons e rest =>
      have honly : (s.only i).channel = e :: rest := hc
      simp only [step, hc, honly]
      rw [apply_ite (St.only i), broadcast_only]
      rfl
  | broadcast e => exact broadcast_only i s e
  | stop =>
    change (step s .stop).only i = step (s.only i) .stop
    simp only [step, St.unsubscribe, St.only, List.getElem?_map]
    cases s.clients[i]? <;> rfl
  | connect => exact connect_only i s
  | tick t =>
    by_cases hcan : s.canTick t = true
    · simp only [Act.only?, run, step, hcan, canTick_only i s hcan, if_true, Option.toList_some, List.foldl_cons,
        List.foldl_nil]
      rfl
    · simp [Act.only?, run, step, hcan]
  | take j => exact place_only i s rfl rfl rfl fun c => effect_renamed s.limits s.now 0 c .took
  | ping j => exact place_only i s rfl rfl rfl fun c => effect_renamed s.limits s.now 0 c .pinged
  | leave j => exact place_only i s rfl rfl rfl fun c => effect_renamed s.limits s.now 0 c .left
  | late j => exact place_only i s rfl rfl rfl fun c => effect_renamed s.limits s.now 0 c .late
  | endRead j => exact place_only i s rfl rfl rfl fun c => effect_renamed s.limits s.now 0 c .ended
  | wrote j => exact place_only i s rfl rfl rfl fun c => effect_renamed s.limits s.now 0 c (.wrote s.now)
  | broken j => exact place_only i s rfl rfl rfl fun c => effect_renamed s.limits s.now 0 c (.broken s.now)
  | hangUp j => exact place_only i s rfl rfl rfl fun c => effect_renamed s.limits s.now 0 c (.hungUp s.now)

/-- the same is seen of the client -/
theorem seenAt_only (a : Act) : seenIn 0 (s.only i) (a.only? i s).toList = seenAt i s a := by
  have hstep := only_get i (step s a)
  rw [step_only i s a] at hstep
  have hget := only_get i s
  cases ha : a.only? i s with
  | none =>
    -- nothing is seen where a client stays as it is
    rw [ha] at hstep
    have hsame : (s.clients[i]?).map (Client.renamed 0) = ((step s a).clients[i]?).map (Client.renamed 0) :=
      hget.symm.trans hstep
    cases hc : s.clients[i]? with
    | none => simp [seenIn, seenAt, hc]
    | some c =>
      cases hc' : (step s a).clients[i]? with
      | none => simp [seenIn, seenAt, hc, hc']
      | some c' =>
        rw [hc, hc', Option.map_some, Option.map_some, Option.some.injEq] at hsame
        have hnone : c.seen c' = [] := by rw [← seen_renamed 0, hsame, seen_self]
        simp [seenIn, seenAt, hc, hc', hnone]
  | some a' =>
    rw [ha] at hstep
    change (step (s.only i) a').clients[0]? = _ at hstep
    rw [Option.toList_some, seenIn, seenIn, List.append_nil, seenAt, seenAt, hget, hstep]
    cases s.clients[i]? <;> cases (step s a).clients[i]? <;> rfl

/-- the same is broadcast -/
theorem offered_only (a : Act) :
    broadcastsIn (s.only i) (a.only? i s).toList = (offered? s a).toList.map fun text => (s.now, text) := by
  cases a with
  | connect | tick => simp only [Act.only?]; split_ifs <;> rfl
  | take | ping | leave | wrote | late | broken | hangUp | endRead =>
    rw [only?_place i s rfl]
    split_ifs <;> rfl
  | _ => exact List.append_nil _

/-- **A run** is one of a hub without the others: the hub is the same, the same is broadcast, and the same is seen of the
client. -/
theorem run_only (acts : List Act) :
    run (s.only i) (onlyActs i s acts) = (run s acts).only i ∧
      broadcastsIn (s.only i) (onlyActs i s acts) = broadcastsIn s acts ∧
      seenIn 0 (s.only i) (onlyActs i s acts) = seenIn i s acts := by
  induction acts generalizing s with
  | nil => exact ⟨rfl, rfl, rfl⟩
  | cons a acts ih =>
    obtain ⟨hrun, hbroadcasts, hseen⟩ := ih (step s a)
    rw [step_only] at hrun hbroadcasts hseen
    refine ⟨?_, ?_, ?_⟩
    · rw [onlyActs, run_append]
      exact hrun
    · rw [onlyActs, broadcastsIn_append, offered_only, hbroadcasts, broadcastsIn]
    · rw [onlyActs, seenIn_append, seenAt_only, hseen, seenIn]

end

/-! ## What waits for the loop -/

/-- nothing waits for a loop that is not running -/
theorem step_channel {s : St} (h : s.loop ≠ .running → s.channel = []) (a : Act) :
    (step s a).loop ≠ .running → (step s a).channel = [] := by
  cases a with
  | start => simp only [step]; split_ifs; exact h; exact fun hl => absurd rfl hl
  | publish e =>
    by_cases hl : s.loop = .running
    · simp only [step]
      split_ifs <;> exact fun hne => absurd hl hne
    · simpa [step, hl] using h hl
  | dispatch =>
    by_cases hl : s.loop = .running
    · simp only [step]
      split
      · exact h
      · rw [if_pos hl]
        exact fun hne => absurd hl hne
    · simp [step, hl, h hl]
  | endLoop => simp only [step]; split_ifs; exact fun _ => rfl; exact h
  | tick t => simp only [step]; split_ifs <;> exact h
  | _ => exact h

theorem run_channel (limits : Limits) (acts : List Act) :
    (run (start limits) acts).loop ≠ .running → (run (start limits) acts).channel = [] := by
  induction acts using List.reverseRecOn with
  | nil => exact fun _ => rfl
  | append_singleton acts a ih =>
    rw [run_snoc]
    exact step_channel ih a

/-- before the clock goes on, every published event has been broadcast, or the loop has ended -/
theorem channel_of_canTick (limits : Limits) (acts : List Act) {t : ℕ}
    (h : (run (start limits) acts).canTick t = true) : (run (start limits) acts).channel = [] := by
  by_cases hl : (run (start limits) acts).loop = .running
  · simp only [St.canTick, St.loopIsBusy, hl, Bool.and_eq_true] at h
    obtain ⟨-, hempty⟩ : (run (start limits) acts).stopped = false ∧ (run (start limits) acts).channel = [] := by
      simpa using h.1.2
    exact hempty
  · exact run_channel limits acts hl

/-- the loop needs nobody to broadcast what waits for it -/
theorem dispatch_all {s : St} (h : s.loop = .running) :
    let s' := run s (List.replicate s.channel.length .dispatch)
    s'.now = s.now ∧ s'.channel = [] ∧ s'.broadcasts = s.broadcasts ++ s.channel.map wire := by
  induction hc : s.channel generalizing s with
  | nil => exact ⟨rfl, hc, (List.append_nil _).symm⟩
  | cons e rest ih =>
    have hstep : step s .dispatch = { s with channel := rest }.broadcast e := by simp [step, hc, h]
    have hnext := ih (s := step s .dispatch) (by rw [hstep]; exact h) (by rw [hstep]; rfl)
    obtain ⟨hnow, hchannel, hbroadcasts⟩ := hnext
    refine ⟨hnow.trans (by rw [hstep]; rfl), hchannel, hbroadcasts.trans ?_⟩
    rw [hstep]
    simp [St.broadcast, wire]

/-! ## Alone or not -/

/-- **Clients leave each other alone.** Let a client connect to a hub.
- In any other run, whatever other clients there are and whatever they do, the same is seen of a client at the same times:
  what begins to be written to it, what is through, and its removal. All that has to be the same is the time at which it
  connects, before or after a stop, and its history: what is broadcast and when, when the hub is stopped, what its own
  connection does and when, and the turns of its own tasks, but not their times.
- Without the others everything can go the same way. Take any client, or none: where no other client connects, the hub is
  the same, the same is broadcast at the same times, and the same is seen of this client at the same times.
- Before the clock goes on nothing waits for being broadcast, so no publisher waits for room; to get there the loop needs
  neither a client nor time. -/
theorem clients_apart (limits : Limits) (before after : List Act) :
    let i := (run (start limits) before).clients.length
    let s := run (start limits) (before ++ [.connect])
    let acts := before ++ .connect :: after
    let s' := run (start limits) acts
    (∀ before₂ after₂,
      let i₂ := (run (start limits) before₂).clients.length
      let s₂ := run (start limits) (before₂ ++ [.connect])
      s₂.now = s.now → s₂.stopped = s.stopped → history i₂ s₂ after₂ = history i s after →
        seenIn i₂ s₂ after₂ = seenIn i s after) ∧
    (∀ k,
      let only := onlyActs k (start limits) acts
      run (start limits) only = s'.only k ∧ broadcastsIn (start limits) only = broadcastsIn (start limits) acts ∧
        seenIn 0 (start limits) only = seenIn k (start limits) acts) ∧
    (∀ t, s'.canTick t = true → s'.channel = []) ∧
    (s'.loop = .running →
      let done := run s' (List.replicate s'.channel.length .dispatch)
      done.now = s'.now ∧ done.channel = [] ∧ done.broadcasts = s'.broadcasts ++ s'.channel.map wire) := by
  intro i s acts s'
  refine ⟨?_, fun k => run_only k (start limits) acts, fun t => channel_of_canTick limits acts, dispatch_all⟩
  intro before₂ after₂ i₂ s₂ hnow hstopped hhistory
  have hping : s₂.pingTime = s.pingTime := by
    have hlimits : s₂.limits = s.limits := (run_limits _ _).trans (run_limits _ _).symm
    rw [St.pingTime, St.pingTime, hnow, hlimits]
  rw [seenIn_connect limits before₂ after₂, seenIn_connect limits before after, hstopped, hping, hnow, hhistory]

/-! ## A client in a crowd -/

/-- a client that is too slow, and nobody else -/
def quietRun : List Act :=
  [.publish nasRecovered, .dispatch, .take 0, .tick 5, .wrote 0, .publish edgeRecovered, .dispatch, .take 0, .tick 7,
    .publish nasRecovered, .dispatch, .publish edgeRecovered, .dispatch, .endRead 0, .tick 9, .wrote 0, .leave 0, .wrote 0]

/-- the same client behind one that never finishes a write and is dropped with it, and before one that comes and goes -/
def crowdedRun : List Act :=
  [.publish nasRecovered, .dispatch, .take 0, .take 1, .connect, .tick 3, .hangUp 2, .leave 2, .broken 2, .tick 5, .wrote 1,
    .publish edgeRecovered, .dispatch, .take 1, .tick 7, .publish nasRecovered, .publish edgeRecovered, .dispatch,
    .endRead 0, .dispatch, .endRead 1, .tick 9, .wrote 1, .leave 1, .wrote 1]

/-- what is seen of the slow client is the same, its removal included; the loop broadcasts both events at once while nobody
takes either -/
theorem clients_apart_crowded :
    let s := run (start narrow) [.start, .connect]
    let s₂ := run (start narrow) [.start, .connect, .connect]
    let quiet := run (start narrow) ([.start] ++ .connect :: quietRun)
    let full := run (start narrow) ([.start] ++ .connect :: [.publish nasRecovered, .publish edgeRecovered])
    (s₂.now = s.now ∧ s₂.stopped = s.stopped ∧ history 1 s₂ crowdedRun = history 0 s quietRun ∧
      seenIn 1 s₂ crowdedRun = seenIn 0 s quietRun ∧
      seenIn 0 s quietRun =
        [(0, .begun (.message (wire nasRecovered))), (5, .written (.message (wire nasRecovered))),
          (5, .begun (.message (wire edgeRecovered))), (7, .removed), (9, .written (.message (wire edgeRecovered))),
          (9, .begun .close), (9, .written .close)]) ∧
    (quiet.canTick 10 = true ∧ quiet.channel = []) ∧
    full.channel = [nasRecovered, edgeRecovered] ∧ full.loop = .running ∧
      (run full (List.replicate full.channel.length .dispatch)).channel = [] := by
  intro s s₂ quiet full
  obtain ⟨hseen, -, htick, -⟩ := clients_apart narrow [.start] quietRun
  obtain ⟨-, -, -, hloop⟩ := clients_apart narrow [.start] [.publish nasRecovered, .publish edgeRecovered]
  have hnow : s₂.now = s.now := by decide +kernel
  have hstopped : s₂.stopped = s.stopped := by decide +kernel
  have hhistory : history 1 s₂ crowdedRun = history 0 s quietRun := by decide +kernel
  have hcan : quiet.canTick 10 = true := by decide +kernel
  have hrunning : full.loop = .running := by decide +kernel
  refine ⟨⟨hnow, hstopped, hhistory, hseen [.start, .connect] crowdedRun hnow hstopped hhistory, by decide +kernel⟩,
    ⟨hcan, htick 10 hcan⟩, by decide +kernel, hrunning, ?_⟩
  exact (hloop hrunning).2.1

end ServiceMonitor.Hub
