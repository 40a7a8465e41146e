import ServiceMonitor.Proofs.Hub.Apart

/-!
Who is on the map of the hub.

`Client.isLost` tells which acts cost a client its place: a stop, the end of its connection, a failed write, a write that takes
too long, a full queue at a broadcast. Nothing else does (`registered_step`).

- `Sound`, `Orderly`, `run_orderly`: what is true of every client and of the list of them, behind every run.
- `Sound.atRest`: a client with nothing to do is on the map exactly if both of its tasks are alive.
- `clientCount_step`, `lost_once`: how many are on the map, before an act and behind it.
-/

namespace ServiceMonitor.Hub

/-! ## The clients of a run -/

/-- a turn of the loop broadcasts the next event, or changes nothing -/
theorem dispatch_cases (s : St) :
    step s .dispatch = s ∨ ∃ e rest, step s .dispatch = { s with channel := rest }.broadcast e := by
  cases hc : s.channel with
  | nil => exact Or.inl (by simp [step, hc])
  | cons e rest =>
    by_cases hloop : s.loop = .running
    · exact Or.inr ⟨e, rest, by simp [step, hc, hloop]⟩
    · exact Or.inl (by simp [step, hc, hloop])

theorem step_length (s : St) {a : Act} (h : a ≠ .connect) : (step s a).clients.length = s.clients.length := by
  cases a with
  | connect => exact absurd rfl h
  | start | publish | endLoop | tick => simp only [step]; split_ifs <;> rfl
  | dispatch =>
    rcases dispatch_cases s with heq | ⟨e, rest, heq⟩
    · rw [heq]
    · rw [heq]
      exact List.length_map _
  | _ => simp [step, St.broadcast, St.unsubscribe, St.update]

/-- a client behind an act was there before, or has just connected -/
theorem step_inversion {s : St} {a : Act} {i : ℕ} {c' : Client} (h : (step s a).clients[i]? = some c') :
    (∃ c, s.clients[i]? = some c ∧ ClientStep s i a c c') ∨
      (a = .connect ∧ i = s.clients.length ∧
        c' = if s.stopped then .turnedAway s.nextId else .joined s.nextId s.pingTime) := by
  cases hc : s.clients[i]? with
  | some c =>
    obtain ⟨c'', hc'', hstep⟩ := step_client hc a
    rw [h, Option.some.injEq] at hc''
    subst hc''
    exact Or.inl ⟨c, rfl, hstep⟩
  | none =>
    have hge : s.clients.length ≤ i := List.getElem?_eq_none_iff.1 hc
    obtain ⟨hlt, -⟩ := List.getElem?_eq_some_iff.1 h
    by_cases ha : a = .connect
    · subst ha
      have hi : i = s.clients.length := by
        simp only [step, List.length_append, List.length_singleton] at hlt
        omega
      subst hi
      refine Or.inr ⟨rfl, rfl, ?_⟩
      simpa [step] using h.symm
    · rw [step_length s ha] at hlt
      omega

/-- a write under way has a deadline ahead, and a write without a deadline is the goodbye of a connection that came too late -/
structure Timed (l : Limits) (now : ℕ) (c : Client) : Prop where
  inTime : ∀ what d, c.writer = .writing what (some d) → now ≤ d ∧ d ≤ now + l.writeTimeout.millisUp
  bare : ∀ what, c.writer = .writing what none → what = .close ∧ c.reading = false

/-- what is true of every client -/
structure Sound (l : Limits) (now : ℕ) (c : Client) : Prop extends Timed l now c where
  served : ∃ fs since, Served l c fs since

section

variable {l : Limits} {now : ℕ} {c c' : Client}

/-- no write is under way -/
theorem Timed.idle (h : ∀ what d, c.writer ≠ .writing what d) : Timed l now c where
  inTime := fun what d hw => absurd hw (h what (some d))
  bare := fun what hw => absurd hw (h what none)

/-- a write begins -/
theorem Timed.begin {what : Outgoing} (h : c.writer = .writing what (some (now + l.writeTimeout.millisUp))) :
    Timed l now c where
  inTime := by
    intro what' d hw
    rw [h] at hw
    cases hw
    exact ⟨Nat.le_add_right _ _, le_rfl⟩
  bare := by
    intro what' hw
    rw [h] at hw
    cases hw

/-- the write task does nothing, and the read task may end -/
theorem Timed.same (h : Timed l now c) (hwriter : c'.writer = c.writer)
    (hreading : c.reading = false → c'.reading = false) : Timed l now c' where
  inTime := by
    rw [hwriter]
    exact h.inTime
  bare := by
    intro what hw
    rw [hwriter] at hw
    obtain ⟨hclose, hreads⟩ := h.bare what hw
    exact ⟨hclose, hreading hreads⟩

end

theorem joined_sound (l : Limits) (now id pingAt : ℕ) : Sound l now (.joined id pingAt) where
  toTimed := Timed.idle (by rintro _ _ ⟨⟩)
  served := ⟨[], [], joined_served l id pingAt⟩

theorem turnedAway_sound (l : Limits) (now id : ℕ) : Sound l now (.turnedAway id) where
  inTime := by rintro _ _ ⟨⟩
  bare := by rintro _ ⟨⟩; exact ⟨rfl, rfl⟩
  served := ⟨[(now, .close)], [], turnedAway_served l id now⟩

theorem drop_reading (c : Client) : c.drop.reading = c.reading := by
  simp only [Client.drop]
  split_ifs <;> rfl

theorem offer_reading (capacity : ℕ) (text : String) (c : Client) : (c.offer capacity text).reading = c.reading := by
  simp only [Client.offer]
  split_ifs
  · rfl
  · exact drop_reading c

/-- the clock does not pass the end of a write -/
theorem due_of_canTick {s : St} {t i : ℕ} {c : Client} (h : s.clients[i]? = some c) (hcan : s.canTick t = true) :
    c.isBusy s.now = false ∧ s.now ≤ t ∧ ∀ due, c.due? = some due → t ≤ due := by
  simp only [St.canTick, Bool.and_eq_true, List.all_eq_true, decide_eq_true_eq] at hcan
  obtain ⟨⟨hle, -⟩, hall⟩ := hcan
  obtain ⟨hbusy, hdue⟩ := hall c (List.mem_of_getElem? h)
  refine ⟨by simpa using hbusy, hle, fun due hd => ?_⟩
  rw [hd] at hdue
  exact of_decide_eq_true hdue

/-- the clock goes on, and every client stays as it is -/
theorem clientStep_tick {s : St} {i t : ℕ} {c c' : Client} (h : ClientStep s i (.tick t) c c') : c' = c := by
  cases h with
  | idle quiet runs => rfl
  | offered said => cases said
  | _ => contradiction

/-- an act at a time -/
theorem clientStep_timed {s : St} {a : Act} {i : ℕ} {c c' : Client} (h : Timed s.limits s.now c)
    (hstep : ClientStep s i a c c') : Timed s.limits s.now c' := by
  cases hstep with
  | idle quiet runs => exact h
  | offered said =>
    refine h.same (offer_writer _ _ c) fun hreads => ?_
    rw [offer_reading, hreads]
  | stopped act => exact h.same rfl id
  | took act waits queued => exact Timed.begin rfl
  | pinged act waits time => exact Timed.begin rfl
  | left act waits ended => exact Timed.begin rfl
  | hungUp act reads => exact h.same (drop_writer c) fun _ => rfl
  | endedRead act reads told => exact h.same (drop_writer c) fun _ => rfl
  | _ => exact Timed.idle (by rintro _ _ ⟨⟩)

/-- **One act** keeps every client sound. -/
theorem step_sound {s : St} {a : Act} {i : ℕ} {c c' : Client} (hc : s.clients[i]? = some c)
    (h : Sound s.limits s.now c) (hstep : ClientStep s i a c c') : Sound s.limits (step s a).now c' := by
  obtain ⟨fs, since, hserved⟩ := h.served
  refine ⟨?_, _, _, step_served hserved hstep⟩
  rcases step_now s a with hnow | ⟨t, rfl, hcan, hnow⟩
  · rw [hnow]
    exact clientStep_timed h.toTimed hstep
  · -- the clock goes on, which changes no client and passes no deadline
    obtain rfl := clientStep_tick hstep
    obtain ⟨-, hle, hdue⟩ := due_of_canTick hc hcan
    rw [hnow]
    refine ⟨fun what d hw => ?_, h.bare⟩
    obtain ⟨-, hd⟩ := h.inTime what d hw
    exact ⟨hdue d (by rw [Client.due?, hw]), hd.trans (Nat.add_le_add_right hle _)⟩

/-- a state whose clients are sound and stand in the places of their numbers -/
structure Orderly (s : St) : Prop where
  next : s.nextId = s.clients.length
  place : ∀ (i : ℕ) (c : Client), s.clients[i]? = some c → c.id = i
  sound : ∀ (i : ℕ) (c : Client), s.clients[i]? = some c → Sound s.limits s.now c

theorem start_orderly (limits : Limits) : Orderly (start limits) where
  next := rfl
  place := by rintro i c ⟨⟩
  sound := by rintro i c ⟨⟩

theorem step_nextId (s : St) {a : Act} (h : a ≠ .connect) : (step s a).nextId = s.nextId := by
  cases a with
  | connect => exact absurd rfl h
  | start | publish | endLoop | tick => simp only [step]; split_ifs <;> rfl
  | dispatch =>
    rcases dispatch_cases s with heq | ⟨e, rest, heq⟩
    · rw [heq]
    · rw [heq]; rfl
  | _ => rfl

theorem drop_id (c : Client) : c.drop.id = c.id := by
  simp only [Client.drop]
  split_ifs <;> rfl

theorem offer_id (capacity : ℕ) (text : String) (c : Client) : (c.offer capacity text).id = c.id := by
  simp only [Client.offer]
  split_ifs
  · rfl
  · exact drop_id c

theorem clientStep_id {s : St} {a : Act} {i : ℕ} {c c' : Client} (h : ClientStep s i a c c') : c'.id = c.id := by
  cases h with
  | offered said => exact offer_id _ _ c
  | closed act writes => exact drop_id c
  | failed act writes => exact drop_id c
  | late act writes time => exact drop_id c
  | hungUp act reads => exact drop_id c
  | endedRead act reads told => exact drop_id c
  | _ => rfl

theorem step_orderly {s : St} (h : Orderly s) (a : Act) : Orderly (step s a) where
  next := by
    by_cases ha : a = .connect
    · subst ha
      simp [step, h.next]
    · rw [step_nextId s ha, step_length s ha, h.next]
  place := by
    intro i c' hc'
    rcases step_inversion hc' with ⟨c, hc, hstep⟩ | ⟨-, rfl, rfl⟩
    · rw [clientStep_id hstep, h.place i c hc]
    · split_ifs <;> exact h.next
  sound := by
    intro i c' hc'
    rw [step_limits]
    rcases step_inversion hc' with ⟨c, hc, hstep⟩ | ⟨-, -, rfl⟩
    · exact step_sound hc (h.sound i c hc) hstep
    · split_ifs
      · exact turnedAway_sound _ _ _
      · exact joined_sound _ _ _ _

theorem run_orderly {s : St} (h : Orderly s) (acts : List Act) : Orderly (run s acts) := by
  induction acts generalizing s with
  | nil => exact h
  | cons a acts ih => exact ih (step_orderly h a)

/-- every connection has got a number of its own -/
theorem run_length (limits : Limits) (acts : List Act) :
    (run (start limits) acts).clients.length = acts.count .connect := by
  induction acts using List.reverseRecOn with
  | nil => rfl
  | append_singleton acts a ih =>
    rw [run_snoc, List.count_append, ← ih]
    by_cases ha : a = .connect
    · subst ha
      simp [step]
    · rw [step_length _ ha, List.count_singleton, if_neg (by simpa using ha), Nat.add_zero]

section

variable {l : Limits} {now : ℕ} {c : Client}

theorem Sound.token (h : Sound l now c) : c.cancelled = !c.registered := by
  obtain ⟨fs, since, hserved⟩ := h.served
  exact hserved.token

theorem Sound.live (h : Sound l now c) (hr : c.registered = true) : c.writer ≠ .done ∧ c.reading = true := by
  obtain ⟨fs, since, hserved⟩ := h.served
  exact ⟨(hserved.live hr).1, (hserved.live hr).2.2⟩

/-- **At rest** a client is registered exactly if both of its tasks are alive; if it is not, its read task is over and its
write task is over or in a write. -/
theorem Sound.atRest (h : Sound l now c) (hrest : c.isBusy now = false) :
    (c.registered = true ↔ c.reading = true ∧ c.isOpen = true) ∧
      (c.registered = false → c.reading = false ∧ ∀ pingAt, c.writer ≠ .waiting pingAt) := by
  have hout : c.registered = false → c.reading = false ∧ ∀ pingAt, c.writer ≠ .waiting pingAt := by
    intro hr
    have htold : c.cancelled = true := by rw [h.token, hr]; rfl
    simp only [Client.isBusy, htold, Bool.and_true, Bool.or_eq_false_iff] at hrest
    refine ⟨hrest.1, fun pingAt hw => ?_⟩
    rw [hw] at hrest
    simp at hrest
  refine ⟨⟨fun hr => ?_, fun hboth => ?_⟩, hout⟩
  · obtain ⟨hopen, hreads⟩ := h.live hr
    exact ⟨hreads, by simpa [Client.isOpen] using hopen⟩
  · cases hr : c.registered with
    | true => rfl
    | false =>
      rw [(hout hr).1] at hboth
      exact absurd hboth.1 (by decide)

end

/-! ## Leaving the map -/

/-- a write is under way -/
def Client.isWriting (c : Client) : Bool :=
  match c.writer with
  | .writing .. => true
  | .waiting _ | .done => false

/-- an act costs a client its place in the map: the hub is stopped, the client's connection ends, fails under a write or takes
too long over one, or its queue is full at a broadcast -/
def Client.isLost (s : St) (a : Act) (c : Client) : Bool :=
  c.registered &&
    match a with
    | .stop => true
    | .hangUp i => c.id = i
    | .broken i => c.id = i && c.isWriting
    | .late i => c.id = i && c.isWriting && c.due?.any (· ≤ s.now)
    | a => (offered? s a).isSome && s.limits.capacity ≤ c.queue.length

/-- who is off the map stays so -/
theorem stays_out {s : St} {i : ℕ} {a : Act} {c c' : Client} (h : c.registered = false) (hstep : ClientStep s i a c c') :
    c'.registered = false := by
  have hdrop : c.drop = c := by simp [Client.drop, h]
  cases hstep with
  | stopped act => rfl
  | offered said => simp [Client.offer, Client.accepts, h, hdrop]
  | closed act writes => rw [hdrop]; exact h
  | failed act writes => rw [hdrop]; exact h
  | late act writes time => rw [hdrop]; exact h
  | hungUp act reads => rw [hdrop]; exact h
  | endedRead act reads told => rw [hdrop]; exact h
  | _ => exact h

theorem isWriting_iff {c : Client} : c.isWriting = true ↔ ∃ what deadline, c.writer = .writing what deadline := by
  cases hw : c.writer <;> simp [Client.isWriting, hw]

theorem drop_registered (c : Client) : c.drop.registered = false := by
  cases hr : c.registered <;> simp [Client.drop, hr]

/-- a client whose queue is full is dropped at a broadcast -/
theorem offer_full {capacity : ℕ} {c : Client} (text : String) (h : capacity ≤ c.queue.length) :
    c.offer capacity text = c.drop := by
  have hfull : c.accepts capacity = false := by simp [Client.accepts, not_lt.2 h]
  rw [Client.offer, hfull]
  rfl

/-- who is lost is off the map behind the act -/
theorem lost_out {s : St} {a : Act} {c c' : Client} (hsound : Sound s.limits s.now c) (hc : s.clients[c.id]? = some c)
    (hlost : c.isLost s a = true) (hc' : (step s a).clients[c.id]? = some c') : c'.registered = false := by
  simp only [Client.isLost, Bool.and_eq_true] at hlost
  obtain ⟨hr, hwhy⟩ := hlost
  cases a with
  | stop =>
    simp only [step, St.unsubscribe, List.getElem?_map, hc, Option.map_some, Option.some.injEq] at hc'
    subst hc'
    rfl
  | hangUp i =>
    obtain rfl : c.id = i := of_decide_eq_true hwhy
    obtain ⟨-, hreads⟩ := hsound.live hr
    simp only [step, update_get hc, if_true, hreads, Option.some.injEq] at hc'
    subst hc'
    exact drop_registered c
  | broken i =>
    simp only [Bool.and_eq_true, decide_eq_true_eq] at hwhy
    obtain ⟨rfl, hwrites⟩ := hwhy
    obtain ⟨what, d, hw⟩ := isWriting_iff.1 hwrites
    simp only [step, update_get hc, if_true, Client.giveUp, hw, Option.some.injEq] at hc'
    subst hc'
    exact drop_registered c
  | late i =>
    simp only [Bool.and_eq_true, decide_eq_true_eq] at hwhy
    obtain ⟨⟨rfl, hwrites⟩, hdue⟩ := hwhy
    obtain ⟨what, d, hw⟩ := isWriting_iff.1 hwrites
    obtain ⟨d, rfl, htime⟩ : ∃ e, d = some e ∧ e ≤ s.now := by simpa [Client.due?, hw, Option.any_eq_true] using hdue
    simp only [step, update_get hc, if_true, hw, Client.giveUp, htime, Option.some.injEq] at hc'
    subst hc'
    exact drop_registered c
  | broadcast e | dispatch =>
    simp only [Bool.and_eq_true, decide_eq_true_eq, offered?_eq, Option.isSome_map] at hwhy
    obtain ⟨hsaid, hfull⟩ := hwhy
    obtain ⟨e, he⟩ := Option.isSome_iff_exists.1 hsaid
    rw [said_step hc he, offer_full _ hfull, Option.some.injEq] at hc'
    subst hc'
    exact drop_registered c
  | _ => simp [offered?] at hwhy

/-- who is not lost stays on the map -/
theorem not_lost_in {s : St} {a : Act} {c c' : Client} (hsound : Sound s.limits s.now c) (hr : c.registered = true)
    (hlost : c.isLost s a = false) (hstep : ClientStep s c.id a c c') : c'.registered = true := by
  have htold : c.cancelled = false := by rw [hsound.token, hr]; rfl
  simp only [Client.isLost, hr, Bool.true_and] at hlost
  cases hstep with
  | offered said =>
    have hroom : c.queue.length < s.limits.capacity := by
      cases a with
      | broadcast e | dispatch => simpa [said] using hlost
      | _ => cases said
    have hopen : c.isOpen = true := by simpa [Client.isOpen] using (hsound.live hr).1
    simp [Client.offer, Client.accepts, hr, hopen, hroom]
  | stopped act => subst act; cases hlost
  | closed act writes =>
    -- a goodbye is begun off the map only
    obtain ⟨fs, since, hserved⟩ := hsound.served
    have hbegun := hserved.begun (by simp [writes])
    simp only [Client.begun, writes] at hbegun
    exact absurd (by rw [← hbegun]; simp) (hserved.live hr).2.1
  | failed act writes => subst act; simp [Client.isWriting, writes] at hlost
  | late act writes time => subst act; simp [Client.isWriting, Client.due?, writes, time] at hlost
  | hungUp act reads => subst act; simp at hlost
  | endedRead act reads told => rw [htold] at told; cases told
  | _ => exact hr

/-- **One act, one client.** It stays on the map exactly if the act does not cost it its place. -/
theorem registered_step {s : St} {a : Act} {c : Client} (hsound : Sound s.limits s.now c)
    (hc : s.clients[c.id]? = some c) :
    ∃ c', (step s a).clients[c.id]? = some c' ∧ ClientStep s c.id a c c' ∧
      c'.registered = (c.registered && !c.isLost s a) := by
  obtain ⟨c', hc', hstep⟩ := step_client hc a
  refine ⟨c', hc', hstep, ?_⟩
  cases hr : c.registered with
  | false => exact stays_out hr hstep
  | true =>
    cases hlost : c.isLost s a with
    | true => exact lost_out hsound hc hlost hc'
    | false => exact not_lost_in hsound hr hlost hstep

/-- an act of one client's tasks or connection leaves every other client as it is -/
theorem place_step (s : St) {a : Act} {i j : ℕ} (ha : a.place? = some i) (hj : j ≠ i) :
    (step s a).clients[j]? = s.clients[j]? := by
  have hupdate (f : Client → Client) : (s.update i f).clients[j]? = s.clients[j]? := by
    simp [St.update, hj.symm]
  cases a <;> cases ha <;> exact hupdate _

section

variable {s : St} (h : Orderly s)

include h

theorem Orderly.get {c : Client} (hc : c ∈ s.clients) : s.clients[c.id]? = some c := by
  obtain ⟨i, hi⟩ := List.mem_iff_getElem?.1 hc
  rw [h.place i c hi, hi]

theorem Orderly.ids : s.clients.map (·.id) = List.range s.clients.length := by
  refine List.ext_getElem (by simp) fun i hi hi' => ?_
  rw [List.getElem_map, List.getElem_range]
  exact h.place i _ (List.getElem?_eq_getElem _)

/-- who is on the map behind an act: who was and is not lost, and who has just connected -/
theorem map_registered (a : Act) :
    (step s a).clients.map (·.registered) =
      s.clients.map (fun c => c.registered && !c.isLost s a) ++ if a = .connect then [!s.stopped] else [] := by
  by_cases ha : a = .connect
  · subst ha
    have hnone (c : Client) : c.isLost s .connect = false := by simp [Client.isLost, offered?]
    cases hs : s.stopped <;> simp [step, hnone, hs, Client.joined, Client.turnedAway]
  · rw [if_neg ha, List.append_nil]
    refine List.ext_getElem (by simp [step_length s ha]) fun i hi hi' => ?_
    rw [List.length_map] at hi'
    have hc : s.clients[i]? = some s.clients[i] := List.getElem?_eq_getElem hi'
    have hid := h.place i _ hc
    obtain ⟨c', hc', -, hreg⟩ := registered_step (a := a) (h.sound i _ hc) (hid.symm ▸ hc)
    rw [hid] at hc'
    obtain ⟨hlt, rfl⟩ := List.getElem?_eq_some_iff.1 hc'
    rw [List.getElem_map, List.getElem_map, hreg]

/-- **How many are on the map** behind an act: one less for each client that is lost, and one more if one joins. -/
theorem clientCount_step (a : Act) :
    (step s a).clientCount + s.clients.countP (·.isLost s a) =
      s.clientCount + if a = .connect ∧ s.stopped = false then 1 else 0 := by
  have count (s : St) : s.clientCount = (s.clients.map (·.registered)).countP id := by
    rw [St.clientCount, ← List.countP_eq_length_filter, List.countP_map]
    rfl
  have hjoined : (if a = .connect then [!s.stopped] else []).countP id =
      if a = .connect ∧ s.stopped = false then 1 else 0 := by
    by_cases ha : a = .connect <;> cases hs : s.stopped <;> simp [ha]
  have hkept : s.clients.countP (fun c => c.registered && !c.isLost s a) + s.clients.countP (·.isLost s a) =
      s.clientCount := by
    rw [St.clientCount, List.length_eq_countP_add_countP (·.isLost s a), List.countP_filter, List.countP_filter,
      Nat.add_comm]
    refine congrArg₂ (· + ·) (List.countP_congr fun c _ => ?_) (List.countP_congr fun c _ => ?_)
    · cases hr : c.registered <;> simp [Client.isLost, hr]
    · cases hr : c.registered <;> simp [Client.isLost, hr]
  have hmap : (s.clients.map fun c => c.registered && !c.isLost s a).countP id =
      s.clients.countP fun c => c.registered && !c.isLost s a := List.countP_map
  rw [count (step s a), map_registered h, List.countP_append, hjoined, hmap, ← hkept]
  omega

/-- a client whose connection ends, fails, or takes too long is the only one that is lost -/
theorem lost_once {a : Act} {i : ℕ} {c : Client} (ha : a.place? = some i) (hc : s.clients[i]? = some c)
    (hlost : c.isLost s a = true) : s.clients.countP (·.isLost s a) = 1 := by
  have honly : ∀ c' ∈ s.clients, c'.isLost s a = true → c'.id = i := by
    intro c' hc' hlost'
    simp only [Client.isLost, Bool.and_eq_true] at hlost'
    cases a <;> cases ha <;> simp_all [offered?]
  have hpos : 0 < s.clients.countP (·.isLost s a) := List.countP_pos_iff.2 ⟨c, List.mem_of_getElem? hc, hlost⟩
  have hids : (s.clients.map (·.id)).Nodup := by
    rw [h.ids]
    exact List.nodup_range
  have hle : s.clients.countP (·.isLost s a) ≤ 1 :=
    calc s.clients.countP (·.isLost s a)
      _ ≤ s.clients.countP (·.id == i) := List.countP_mono_left fun c' hc' hlost' => by simpa using honly c' hc' hlost'
      _ = (s.clients.map (·.id)).count i := by rw [List.count, List.countP_map]; rfl
      _ ≤ 1 := List.nodup_iff_count_le_one.1 hids i
  omega

end

end ServiceMonitor.Hub
