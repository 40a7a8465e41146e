import ServiceMonitor.Proofs.Hub.Delivered

/-!
What happens to one client, and what is seen of it.

`history` is what happens to one client: broadcasts, a stop, and what its connection does, each at a time, and the turns that
its own tasks take. When they take them is left out, since it follows: the clock stands still while a task has something to
do, and it does not pass a deadline. `replay` tells from a history what is seen of the client, in a hub of its own.

- `own_step`, `own_time`: an act is to a client what it is in a hub of its own, and its time can be told.
- `run_replay`: what is seen of a client in a run is its history replayed.
- `seenIn_connect`: all that counts beside the history is when the client connects, and whether the hub is stopped.
-/

namespace ServiceMonitor.Hub

/-! ## What is seen of a client -/

/-- what is seen of a client: a write begins, a write is through, it is taken off the map -/
inductive Seen where
  | begun (what : Outgoing)
  | written (what : Outgoing)
  | removed
  deriving DecidableEq, Repr

/-- what is seen between two states of a client -/
def Client.seen (c c' : Client) : List Seen :=
  (c.begins c').toList.map .begun ++ (c'.written.drop c.written.length).map .written ++
    if c.registered && !c'.registered then [.removed] else []

/-- what is seen of client `i` with an act, and when -/
def seenAt (i : ℕ) (s : St) (a : Act) : List (ℕ × Seen) :=
  match s.clients[i]?, (step s a).clients[i]? with
  | some c, some c' => (c.seen c').map fun what => (s.now, what)
  | _, _ => []

/-- what is seen of it in a run -/
def seenIn (i : ℕ) : St → List Act → List (ℕ × Seen)
  | _, [] => []
  | s, a :: acts => seenAt i s a ++ seenIn i (step s a) acts

@[simp] theorem seen_self (c : Client) : c.seen c = [] := by
  have hnone : c.begins c = none := begins_same rfl
  simp [Client.seen, hnone]

/-! ## What happens to a client -/

/-- what happens to a client: something from outside, at a time, or one of its own tasks takes a turn -/
inductive Own where
  | offered (time : ℕ) (e : Event)
  | stopped (time : ℕ)
  | wrote (time : ℕ)
  | broken (time : ℕ)
  | hungUp (time : ℕ)
  | took
  | pinged
  | left
  | late
  | ended
  deriving DecidableEq, Repr

/-- the event that an act broadcasts -/
def broadcast? (s : St) : Act → Option Event
  | .broadcast e => some e
  | .dispatch => if s.loop = .running then s.channel.head? else none
  | _ => none

/-- an act makes something else of client `i` -/
def moves (i : ℕ) (s : St) (a : Act) : Bool := (step s a).clients[i]? != s.clients[i]?

/-- what an act is to client `i` -/
def ownAt (i : ℕ) (s : St) (a : Act) : Option Own :=
  match a with
  | .stop => some (.stopped s.now)
  | .wrote j => if j = i then some (.wrote s.now) else none
  | .broken j => if j = i then some (.broken s.now) else none
  | .hangUp j => if j = i then some (.hungUp s.now) else none
  | .take _ => if moves i s a then some .took else none
  | .ping _ => if moves i s a then some .pinged else none
  | .leave _ => if moves i s a then some .left else none
  | .late _ => if moves i s a then some .late else none
  | .endRead _ => if moves i s a then some .ended else none
  | _ => (broadcast? s a).map (.offered s.now)

/-- what happens to client `i` in a run -/
def history (i : ℕ) : St → List Act → List Own
  | _, [] => []
  | s, a :: acts => (ownAt i s a).toList ++ history i (step s a) acts

/-! ## A hub of its own -/

/-- the act that it is in a hub of its own -/
def Own.act : Own → Act
  | .offered _ e => .broadcast e
  | .stopped _ => .stop
  | .wrote _ => .wrote 0
  | .broken _ => .broken 0
  | .hungUp _ => .hangUp 0
  | .took => .take 0
  | .pinged => .ping 0
  | .left => .leave 0
  | .late => .late 0
  | .ended => .endRead 0

/-- a hub that has only this client -/
def Client.alone (l : Limits) (now : ℕ) (c : Client) : St := { start l with now := now, clients := [c] }

/-- what it makes of the client at a time -/
def Own.effect (l : Limits) (time : ℕ) (c : Client) (e : Own) : Client :=
  ((step (c.alone l time) e.act).clients[0]?).getD c

/-- when it happens to the client, the last time being `last`: a task that has something to do takes its turn before the
clock goes on, and one that waits for a time takes it then -/
def Own.time (last : ℕ) (c : Client) : Own → ℕ
  | .offered time _ | .stopped time | .wrote time | .broken time | .hungUp time => time
  | .took | .left | .ended => last
  | .pinged | .late => max last (c.due?.getD 0)

/-- what is seen of a client with this history -/
def replay (l : Limits) : Client → ℕ → List Own → List (ℕ × Seen)
  | _, _, [] => []
  | c, last, e :: es =>
    let time := e.time last c
    let c' := e.effect l time c
    ((c.seen c').map fun what => (time, what)) ++ replay l c' time es

/-- a client under another number -/
def Client.renamed (id : ℕ) (c : Client) : Client := { c with id := id }

section

variable {s : St} {i : ℕ} {c : Client}

theorem offered?_eq (s : St) (a : Act) : offered? s a = (broadcast? s a).map wire := by
  cases a with
  | dispatch => simp only [offered?, broadcast?]; split_ifs <;> rfl
  | _ => rfl

/-- an act that moves nothing leaves the client as it is -/
theorem get_of_moves (h : s.clients[i]? = some c) {a : Act} (hm : moves i s a = false) :
    (step s a).clients[i]? = some c := by
  simpa [moves, h] using hm

theorem ownAt_said {a : Act} {e : Event} (h : broadcast? s a = some e) : ownAt i s a = some (.offered s.now e) := by
  cases a with
  | broadcast e' => cases h; rfl
  | dispatch => exact congrArg (Option.map (Own.offered s.now)) h
  | _ => cases h

theorem ownAt_quiet {a : Act} (h : ownAt i s a = none) : offered? s a = none := by
  cases he : broadcast? s a with
  | none => rw [offered?_eq, he, Option.map_none]
  | some e => rw [ownAt_said he] at h; cases h

/-- nothing happens to a client -/
theorem own_none (h : s.clients[i]? = some c) {a : Act} (hnone : ownAt i s a = none) :
    (step s a).clients[i]? = some c := by
  obtain ⟨c', hc', hstep⟩ := step_client h a
  cases hstep with
  | idle quiet runs => exact hc'
  | offered said => rw [ownAt_quiet hnone] at said; cases said
  | stopped act => subst act; cases hnone
  | took act _ _ | pinged act _ _ | left act _ _ | late act _ _ | endedRead act _ _ =>
    subst act
    exact get_of_moves h (by simpa [ownAt] using hnone)
  | wrote act _ _ | closed act _ | failed act _ | hungUp act _ =>
    subst act
    simp [ownAt] at hnone

/-- a broadcast is offered to the client -/
theorem said_step (h : s.clients[i]? = some c) {a : Act} {e : Event} (he : broadcast? s a = some e) :
    (step s a).clients[i]? = some (c.offer s.limits.capacity (wire e)) := by
  cases a with
  | broadcast e' =>
    cases he
    simp [step, St.broadcast, h, wire]
  | dispatch =>
    simp only [broadcast?, Option.ite_none_right_eq_some] at he
    obtain ⟨hl, he⟩ := he
    obtain ⟨rest, hc⟩ := List.head?_eq_some_iff.1 he
    simp [step, hc, hl, St.broadcast, h, wire]
  | _ => cases he

/-- **One act** is to a client what it is in a hub of its own. -/
theorem own_step (h : s.clients[i]? = some c) {a : Act} {e : Own} (hown : ownAt i s a = some e) :
    (step s a).clients[i]? = some (e.effect s.limits s.now c) := by
  have update {j : ℕ} (f : Client → Client) (hj : j = i) (hstep : step s a = s.update j f)
      (halone : step (c.alone s.limits s.now) e.act = (c.alone s.limits s.now).update 0 f) :
      (step s a).clients[i]? = some (e.effect s.limits s.now c) := by
    rw [Own.effect, hstep, update_get h, if_pos hj, halone, update_get rfl, if_pos rfl, Option.getD_some]
  have place {a : Act} {j : ℕ} (f : Client → Client) (hstep : step s a = s.update j f)
      (hm : moves i s a = true) : j = i := by
    by_contra hj
    rw [moves, hstep, update_get h, if_neg hj, h] at hm
    simp at hm
  cases he : broadcast? s a with
  | some e' =>
    rw [ownAt_said he] at hown
    cases hown
    exact said_step h he
  | none =>
    cases a with
    | stop =>
      cases hown
      simp [Own.effect, Own.act, Client.alone, step, St.unsubscribe, h]
    | wrote j | broken j | hangUp j =>
      simp only [ownAt, Option.ite_none_right_eq_some, Option.some.injEq] at hown
      obtain ⟨hj, rfl⟩ := hown
      exact update _ hj rfl rfl
    | take j | ping j | leave j | late j | endRead j =>
      simp only [ownAt, Option.ite_none_right_eq_some, Option.some.injEq] at hown
      obtain ⟨hm, rfl⟩ := hown
      exact update _ (place _ rfl hm) rfl rfl
    | _ => simp [ownAt, he] at hown

/-! ## The time of a turn -/

/-- how far the clock can be since the last thing happened to a client -/
structure Client.Keeps (c : Client) (last now : ℕ) : Prop where
  le : last ≤ now
  busy : c.isBusy last = true → now = last
  due : ∀ due, c.due? = some due → now ≤ max last due

theorem Client.Keeps.now (c : Client) (now : ℕ) : c.Keeps now now :=
  ⟨le_rfl, fun _ => rfl, fun _ _ => Nat.le_max_left _ _⟩

theorem isBusy_later {last now : ℕ} (hle : last ≤ now) (h : c.isBusy last = true) : c.isBusy now = true := by
  simp only [Client.isBusy] at h ⊢
  cases hw : c.writer with
  | waiting pingAt =>
    simp only [hw, Bool.or_eq_true, decide_eq_true_eq] at h ⊢
    exact h.imp_right (Or.imp_right hle.trans')
  | writing what deadline => simpa only [hw] using h
  | done => simpa only [hw] using h

/-- the clock goes on and the client waits -/
theorem Client.Keeps.tick {last t : ℕ} (hkeeps : c.Keeps last s.now) (h : s.clients[i]? = some c)
    (hcan : s.canTick t = true) : c.Keeps last t := by
  simp only [St.canTick, Bool.and_eq_true, decide_eq_true_eq, List.all_eq_true, Bool.not_eq_true'] at hcan
  obtain ⟨⟨hle, -⟩, hall⟩ := hcan
  obtain ⟨hidle, hdue⟩ := hall c (List.mem_of_getElem? h)
  refine ⟨hkeeps.le.trans hle, fun hbusy => ?_, fun due hd => ?_⟩
  · rw [isBusy_later hkeeps.le hbusy] at hidle
    cases hidle
  · simp only [hd, decide_eq_true_eq] at hdue
    exact hdue.trans (Nat.le_max_right _ _)

/-- **When it is.** The time of what happens to a client follows from what happened before. -/
theorem own_time (h : s.clients[i]? = some c) {last : ℕ} (hkeeps : c.Keeps last s.now) {a : Act} {e : Own}
    (hown : ownAt i s a = some e) : e.time last c = s.now := by
  have moved {a : Act} (hm : moves i s a = true) : ∃ c', ClientStep s i a c c' ∧ c' ≠ c := by
    obtain ⟨c', hc', hstep⟩ := step_client h a
    refine ⟨c', hstep, ?_⟩
    rintro rfl
    simp [moves, hc', h] at hm
  have timed {due : ℕ} (hdue : c.due? = some due) (hle : due ≤ s.now) : max last (c.due?.getD 0) = s.now := by
    rw [hdue, Option.getD_some]
    exact (max_le hkeeps.le hle).antisymm (hkeeps.due due hdue)
  cases he : broadcast? s a with
  | some e' => rw [ownAt_said he] at hown; cases hown; rfl
  | none =>
    cases a with
    | stop => cases hown; rfl
    | wrote j | broken j | hangUp j =>
      simp only [ownAt, Option.ite_none_right_eq_some, Option.some.injEq] at hown
      obtain ⟨-, rfl⟩ := hown
      rfl
    | take j | leave j | endRead j =>
      -- the task has something to do, so the clock stands still
      simp only [ownAt, Option.ite_none_right_eq_some, Option.some.injEq] at hown
      obtain ⟨hm, rfl⟩ := hown
      refine (hkeeps.busy ?_).symm
      obtain ⟨c', hstep, hne⟩ := moved hm
      cases hstep with
      | idle quiet runs => exact absurd rfl hne
      | offered said => cases said
      | took act waits queued => simp [Client.isBusy, waits, queued]
      | left act waits ended => rcases ended with hc | ⟨hr, -⟩ <;> simp [Client.isBusy, *]
      | endedRead act reads told => simp [Client.isBusy, reads, told]
      | _ => contradiction
    | ping j | late j =>
      -- the clock does not pass the time that the task waits for
      simp only [ownAt, Option.ite_none_right_eq_some, Option.some.injEq] at hown
      obtain ⟨hm, rfl⟩ := hown
      obtain ⟨c', hstep, hne⟩ := moved hm
      cases hstep with
      | idle quiet runs => exact absurd rfl hne
      | offered said => cases said
      | pinged act waits time => exact timed (by rw [Client.due?, waits]) time
      | late act writes time => exact timed (by rw [Client.due?, writes]) time
      | _ => contradiction
    | _ => simp [ownAt, he] at hown

/-! ## Runs -/

theorem step_now (s : St) (a : Act) :
    (step s a).now = s.now ∨ ∃ t, a = .tick t ∧ s.canTick t = true ∧ (step s a).now = t := by
  cases a with
  | tick t =>
    by_cases hcan : s.canTick t = true
    · exact Or.inr ⟨t, rfl, hcan, by simp [step, hcan]⟩
    · exact Or.inl (by simp [step, hcan])
  | dispatch => exact Or.inl (by simp only [step]; split; rfl; split_ifs <;> rfl)
  | start | publish | endLoop => exact Or.inl (by simp only [step]; split_ifs <;> rfl)
  | _ => exact Or.inl rfl

theorem drop_renamed (id : ℕ) (c : Client) : (c.renamed id).drop = c.drop.renamed id := by
  cases hr : c.registered <;> simp [Client.drop, Client.renamed, hr]

theorem offer_renamed (capacity : ℕ) (text : String) (id : ℕ) (c : Client) :
    (c.renamed id).offer capacity text = (c.offer capacity text).renamed id := by
  have haccepts : (c.renamed id).accepts capacity = c.accepts capacity := rfl
  rw [Client.offer, haccepts, Client.offer]
  split_ifs
  · rfl
  · exact drop_renamed id c

/-- a number is only a name -/
theorem effect_renamed (l : Limits) (time id : ℕ) (c : Client) (e : Own) :
    (e.effect l time (c.renamed id)) = (e.effect l time c).renamed id := by
  obtain ⟨id', registered, cancelled, queue, writer, reading, written⟩ := c
  cases e with
  | offered t e => exact offer_renamed l.capacity (wire e) id _
  | stopped t => rfl
  | wrote t =>
    cases writer with
    | writing what d => cases what <;> cases registered <;> rfl
    | _ => rfl
  | broken t => cases writer <;> cases registered <;> rfl
  | hungUp t => cases reading <;> cases registered <;> rfl
  | took => cases writer <;> cases queue <;> rfl
  | pinged =>
    cases writer with
    | waiting pingAt =>
      by_cases hp : pingAt ≤ time <;>
        simp [Own.effect, Own.act, step, St.update, Client.alone, Client.renamed, St.begin, hp]
    | _ => rfl
  | left => cases writer <;> cases cancelled <;> cases registered <;> cases queue <;> rfl
  | late =>
    cases writer with
    | writing what d =>
      cases d with
      | none => rfl
      | some d =>
        by_cases hd : d ≤ time <;> cases registered <;>
          simp [Own.effect, Own.act, step, St.update, Client.alone, Client.renamed, Client.giveUp, Client.drop, hd]
    | _ => rfl
  | ended => cases reading <;> cases cancelled <;> cases registered <;> rfl

theorem seen_renamed (id : ℕ) (c c' : Client) : (c.renamed id).seen (c'.renamed id) = c.seen c' := rfl

/-- **A run.** What is seen of a client is its history replayed, under whatever number. -/
theorem run_replay (h : s.clients[i]? = some c) {last : ℕ} (hkeeps : c.Keeps last s.now) (acts : List Act) :
    replay s.limits (c.renamed 0) last (history i s acts) = seenIn i s acts := by
  induction acts generalizing s c last with
  | nil => rfl
  | cons a acts ih =>
    cases hown : ownAt i s a with
    | none =>
      have hnext := own_none h hown
      have hseen : seenAt i s a = [] := by simp [seenAt, h, hnext]
      rw [history, seenIn, hown, hseen, ← step_limits s a]
      refine ih hnext ?_
      rcases step_now s a with hnow | ⟨t, -, hcan, hnow⟩
      · rw [hnow]; exact hkeeps
      · rw [hnow]; exact hkeeps.tick h hcan
    | some e =>
      have hnext := own_step h hown
      have hnow : (step s a).now = s.now := by
        rcases step_now s a with hnow | ⟨t, rfl, -⟩
        · exact hnow
        · cases hown
      have hseen : seenAt i s a = (c.seen (e.effect s.limits s.now c)).map fun what => (s.now, what) := by
        simp [seenAt, h, hnext]
      have htime : e.time last (c.renamed 0) = s.now := own_time h hkeeps hown
      have hrest := ih hnext (Client.Keeps.now _ (step s a).now)
      rw [step_limits, hnow] at hrest
      rw [history, seenIn, hown, hseen, Option.toList_some, List.singleton_append, replay, htime, effect_renamed]
      exact congrArg _ hrest

end

/-! ## Connecting -/

/-- a connection gets the next place; what becomes of it depends on the time, and on whether the hub is stopped -/
theorem connect_client (s : St) :
    ∃ c, (step s .connect).clients[s.clients.length]? = some c ∧
      c.renamed 0 =
        if (step s .connect).stopped then .turnedAway 0 else .joined 0 (step s .connect).pingTime := by
  refine ⟨if s.stopped then .turnedAway s.nextId else .joined s.nextId s.pingTime, by simp [step], ?_⟩
  exact apply_ite (Client.renamed 0) _ _ _

/-- what is seen of a client since its connection -/
theorem seenIn_connect (limits : Limits) (before after : List Act) :
    let i := (run (start limits) before).clients.length
    let s := run (start limits) (before ++ [.connect])
    seenIn i s after =
      replay limits (if s.stopped then .turnedAway 0 else .joined 0 s.pingTime) s.now (history i s after) := by
  intro i s
  have hs : s = step (run (start limits) before) .connect := run_snoc _ _ _
  obtain ⟨c, hc, hrenamed⟩ := connect_client (run (start limits) before)
  rw [← hs] at hc hrenamed
  have hlimits : s.limits = limits := run_limits _ _
  rw [← hrenamed, ← hlimits]
  exact (run_replay hc (.now _ _) after).symm

end ServiceMonitor.Hub
