import ServiceMonitor.Proofs.Hub.Members

/-!
How the tasks of a client come to their end.

Once a client is off the map both of its tasks are told to end. The read task ends before the clock goes on. The write task may
be in a write, and it may still write what waits: it ends within one write timeout for the write under way, for each message
that waits, and for the goodbye (`Client.endsBy`). One ping more may come in between, if it has been due already.

- `step_leaving`, `run_leaving`: a client that is off the map (`Leaving`), act by act and through a run.
- `lost_leaving`: everyone who is lost is leaving.
- `Leaving.over_or_soon`: both tasks are over by the time that this gives.
-/

namespace ServiceMonitor.Hub


/-- the time by which the write task of a client that is told to end is over, if it begins no ping any more: each message that
waits may still be written, and then the goodbye -/
def Client.endsBy (l : Limits) (now : ℕ) (c : Client) : ℕ :=
  match c.writer with
  | .waiting _ => now + (c.queue.length + 1) * l.writeTimeout.millisUp
  | .writing .close (some d) => d
  | .writing _ (some d) => d + (c.queue.length + 1) * l.writeTimeout.millisUp
  | .writing _ none | .done => 0

/-- the pings that are begun for client `i` in a run -/
def pingsIn (i : ℕ) (s : St) (acts : List Act) : ℕ := ((beginsIn i s acts).map (·.2)).count .ping

/-- a client that was lost at a time, with so many messages in its queue, and has been written so many pings since -/
structure Leaving (l : Limits) (lost queued pings now : ℕ) (c : Client) : Prop where
  out : c.registered = false
  reads : c.reading = true → now = lost
  timed : ∀ what, c.writer ≠ .writing what none
  ends : c.endsBy l now ≤ lost + (queued + 2 + pings) * l.writeTimeout.millisUp
  pinged : 0 < l.pingInterval.millisUp → pings = 0 ∨ pings = 1 ∧ ∀ pingAt, c.writer = .waiting pingAt → now < pingAt

section

variable {l : Limits} {lost queued pings now : ℕ} {c c' : Client}

/-- the write task has not moved, and takes no message -/
theorem Leaving.same (h : Leaving l lost queued pings now c) (hout : c'.registered = false) (hwriter : c'.writer = c.writer)
    (hqueue : c'.queue = c.queue) (hreads : c'.reading = true → c.reading = true) :
    Leaving l lost queued pings now c' where
  out := hout
  reads := fun hr => h.reads (hreads hr)
  timed := by rw [hwriter]; exact h.timed
  ends := by
    have hends : c'.endsBy l now = c.endsBy l now := by rw [Client.endsBy, Client.endsBy, hwriter, hqueue]
    rw [hends]
    exact h.ends
  pinged := by rw [hwriter]; exact h.pinged

/-- the write task is over -/
theorem Leaving.over (h : Leaving l lost queued pings now c) (hout : c'.registered = false) (hwriter : c'.writer = .done)
    (hreads : c'.reading = c.reading) : Leaving l lost queued pings now c' where
  out := hout
  reads := by rw [hreads]; exact h.reads
  timed := by rw [hwriter]; rintro what ⟨⟩
  ends := by
    have hends : c'.endsBy l now = 0 := by rw [Client.endsBy, hwriter]
    rw [hends]
    exact Nat.zero_le _
  pinged := by
    intro hpositive
    rcases h.pinged hpositive with hnone | ⟨hone, -⟩
    · exact Or.inl hnone
    · refine Or.inr ⟨hone, ?_⟩
      rw [hwriter]
      rintro pingAt ⟨⟩

/-- it begins the next message, or its goodbye -/
theorem Leaving.begin (h : Leaving l lost queued pings now c) {pingAt : ℕ} (waits : c.writer = .waiting pingAt)
    {what : Outgoing} {rest : List String} (hqueue : what.text?.toList ++ rest = c.queue) (hne : what ≠ .ping) :
    Leaving l lost queued pings now
      { c with queue := rest, writer := .writing what (some (now + l.writeTimeout.millisUp)) } where
  out := h.out
  reads := h.reads
  timed := by rintro _ ⟨⟩
  ends := by
    refine le_trans ?_ h.ends
    rw [Client.endsBy, Client.endsBy, waits, ← hqueue]
    cases what with
    | ping => exact absurd rfl hne
    | message text =>
      simp only [Outgoing.text?, Option.toList_some, List.singleton_append, List.length_cons, Nat.add_mul, Nat.one_mul]
      omega
    | close =>
      simp only [Nat.add_mul, Nat.one_mul]
      omega
  pinged := by
    intro hpositive
    rcases h.pinged hpositive with hnone | ⟨hone, -⟩
    · exact Or.inl hnone
    · exact Or.inr ⟨hone, by rintro _ ⟨⟩⟩

/-- it begins a ping, which has come due before the client was lost -/
theorem Leaving.ping (h : Leaving l lost queued pings now c) {pingAt : ℕ} (waits : c.writer = .waiting pingAt)
    (time : pingAt ≤ now) :
    Leaving l lost queued (pings + 1) now { c with writer := .writing .ping (some (now + l.writeTimeout.millisUp)) } where
  out := h.out
  reads := h.reads
  timed := by rintro _ ⟨⟩
  ends := by
    have hends := h.ends
    simp only [Client.endsBy, waits, Nat.add_mul, Nat.one_mul] at hends ⊢
    omega
  pinged := by
    intro hpositive
    rcases h.pinged hpositive with rfl | ⟨-, hlater⟩
    · exact Or.inr ⟨rfl, by rintro _ ⟨⟩⟩
    · exact absurd time (not_le.2 (hlater pingAt waits))

/-- a write is through that is no goodbye -/
theorem Leaving.wrote (h : Leaving l lost queued pings now c) {what : Outgoing} {d : ℕ}
    (writes : c.writer = .writing what (some d)) (goesOn : what ≠ .close) (hd : now ≤ d) (written : List Outgoing) :
    Leaving l lost queued pings now
      { c with writer := .waiting (now + l.pingInterval.millisUp), written := written } where
  out := h.out
  reads := h.reads
  timed := by rintro _ ⟨⟩
  ends := by
    refine le_trans ?_ h.ends
    rw [Client.endsBy, Client.endsBy, writes]
    cases what with
    | close => exact absurd rfl goesOn
    | message text => exact Nat.add_le_add_right hd _
    | ping => exact Nat.add_le_add_right hd _
  pinged := by
    intro hpositive
    rcases h.pinged hpositive with hnone | ⟨hone, -⟩
    · exact Or.inl hnone
    · refine Or.inr ⟨hone, ?_⟩
      rintro pingAt ⟨⟩
      exact Nat.lt_add_of_pos_right hpositive

/-- the clock goes on, while the read task is over and the write task in a write or over -/
theorem Leaving.tick (h : Leaving l lost queued pings now c) {t : ℕ} (hreads : c.reading = false)
    (hwaits : ∀ pingAt, c.writer ≠ .waiting pingAt) : Leaving l lost queued pings t c where
  out := h.out
  reads := by rw [hreads]; rintro ⟨⟩
  timed := h.timed
  ends := by
    refine le_trans (le_of_eq ?_) h.ends
    cases hw : c.writer with
    | waiting pingAt => exact absurd hw (hwaits pingAt)
    | writing what d =>
      rw [Client.endsBy, Client.endsBy, hw]
      cases what <;> cases d <;> rfl
    | done => rw [Client.endsBy, Client.endsBy, hw]
  pinged := by
    intro hpositive
    rcases h.pinged hpositive with hnone | ⟨hone, -⟩
    · exact Or.inl hnone
    · exact Or.inr ⟨hone, fun pingAt hw => absurd hw (hwaits pingAt)⟩

end

/-- **One act** of a client that is off the map, or of anybody else. -/
theorem step_leaving {s : St} {a : Act} {i lost queued pings : ℕ} {c c' : Client} (hc : s.clients[i]? = some c)
    (hsound : Sound s.limits s.now c) (h : Leaving s.limits lost queued pings s.now c) (hstep : ClientStep s i a c c') :
    Leaving s.limits lost queued (pings + (c.begins c').toList.count .ping) (step s a).now c' := by
  have hdrop : c.drop = c := by simp [Client.drop, h.out]
  have hqueue : c.drop.queue = c.queue := by rw [hdrop]
  rcases step_now s a with hnow | ⟨t, rfl, hcan, hnow⟩
  · have hout := stays_out h.out hstep
    rw [hnow]
    cases hstep with
    | idle quiet runs =>
      rw [begins_same rfl]
      exact h
    | offered said =>
      have hsame (text : String) : c.offer s.limits.capacity text = c := by
        simp [Client.offer, Client.accepts, h.out, hdrop]
      rw [hsame, begins_same rfl]
      exact h
    | stopped act =>
      have hnone : c.begins { c with registered := false, cancelled := true } = none := begins_same rfl
      rw [hnone]
      exact h.same rfl rfl rfl id
    | took act waits queue =>
      rw [begins_waiting waits rfl]
      exact h.begin waits queue.symm (by rintro ⟨⟩)
    | pinged act waits time =>
      rw [begins_waiting waits rfl]
      exact h.ping waits time
    | left act waits ended =>
      rw [begins_waiting waits rfl]
      exact h.begin waits rfl (by rintro ⟨⟩)
    | @wrote what d act writes goesOn =>
      rw [begins_writing writes]
      cases d with
      | none => exact absurd writes (h.timed what)
      | some d => exact h.wrote writes goesOn (hsound.inTime what d writes).1 _
    | closed act writes =>
      rw [begins_writing writes]
      exact h.over hout rfl (drop_reading c)
    | failed act writes =>
      rw [begins_writing writes]
      exact h.over hout rfl (drop_reading c)
    | late act writes time =>
      rw [begins_writing writes]
      exact h.over hout rfl (drop_reading c)
    | hungUp act reads =>
      have hnone : c.begins { c.drop with reading := false } = none := begins_same (drop_writer c)
      rw [hnone]
      exact h.same hout (drop_writer c) hqueue (by rintro ⟨⟩)
    | endedRead act reads told =>
      have hnone : c.begins { c.drop with reading := false } = none := begins_same (drop_writer c)
      rw [hnone]
      exact h.same hout (drop_writer c) hqueue (by rintro ⟨⟩)
  · obtain rfl := clientStep_tick hstep
    obtain ⟨hrest, -, -⟩ := due_of_canTick hc hcan
    obtain ⟨-, hover⟩ := hsound.atRest hrest
    obtain ⟨hreads, hwaits⟩ := hover h.out
    rw [begins_same rfl, hnow]
    exact h.tick hreads hwaits

theorem pingsIn_cons {s : St} {a : Act} {i : ℕ} {c c' : Client} (hc : s.clients[i]? = some c)
    (hc' : (step s a).clients[i]? = some c') (more : List Act) :
    pingsIn i s (a :: more) = (c.begins c').toList.count .ping + pingsIn i (step s a) more := by
  have hmap : (beginsAt i s a).map (·.2) = (c.begins c').toList := by
    simp [beginsAt, hc, hc']
  rw [pingsIn, beginsIn, List.map_append, List.count_append, hmap, pingsIn]

/-- **A run** behind the loss. -/
theorem run_leaving {s : St} {i lost queued pings : ℕ} {c : Client} (hs : Orderly s) (hc : s.clients[i]? = some c)
    (h : Leaving s.limits lost queued pings s.now c) (more : List Act) :
    ∃ c', (run s more).clients[i]? = some c' ∧
      Leaving s.limits lost queued (pings + pingsIn i s more) (run s more).now c' := by
  induction more generalizing s c pings with
  | nil => exact ⟨c, hc, h⟩
  | cons a more ih =>
    obtain ⟨c', hc', hstep⟩ := step_client hc a
    have hnext := step_leaving hc (hs.sound i c hc) h hstep
    rw [← step_limits s a] at hnext
    obtain ⟨c'', hc'', hleaving⟩ := ih (step_orderly hs a) hc' hnext
    refine ⟨c'', hc'', ?_⟩
    rw [pingsIn_cons hc hc', ← Nat.add_assoc]
    rw [step_limits] at hleaving
    exact hleaving

/-- a registered client that were off the map -/
theorem Sound.leaving {l : Limits} {now : ℕ} {c : Client} (h : Sound l now c) (hr : c.registered = true) :
    Leaving l now c.queue.length 0 now { c with registered := false } where
  out := rfl
  reads := fun _ => rfl
  timed := by
    intro what hw
    have hidle := (h.bare what hw).2
    rw [(h.live hr).2] at hidle
    cases hidle
  ends := by
    cases hw : c.writer with
    | waiting pingAt =>
      simp only [Client.endsBy, Nat.add_mul]
      omega
    | done => exact absurd hw (h.live hr).1
    | writing what d =>
      cases d with
      | none =>
        have hidle := (h.bare what hw).2
        rw [(h.live hr).2] at hidle
        cases hidle
      | some d =>
        obtain ⟨-, hd⟩ := h.inTime what d hw
        cases what <;> simp only [Client.endsBy, Nat.add_mul, Nat.one_mul] <;> omega
  pinged := fun _ => Or.inl rfl

/-- who is lost with an act is leaving behind it -/
theorem lost_leaving {s : St} (hs : Orderly s) {a : Act} {i : ℕ} {c : Client} (hc : s.clients[i]? = some c)
    (hlost : c.isLost s a = true) :
    ∃ c', (step s a).clients[i]? = some c' ∧ Leaving s.limits s.now c.queue.length 0 (step s a).now c' := by
  obtain rfl := hs.place i c hc
  obtain ⟨c', hc', hstep, hreg⟩ := registered_step (a := a) (hs.sound _ c hc) hc
  have hr : c.registered = true := by
    simp only [Client.isLost, Bool.and_eq_true] at hlost
    exact hlost.1
  have hout : c'.registered = false := by rw [hreg, hlost, Bool.not_true, Bool.and_false]
  have hin : c'.registered ≠ c.registered := by rw [hout, hr]; decide
  have hdrop : c.drop = { c with registered := false, cancelled := true } := by simp [Client.drop, hr]
  have hleaving := (hs.sound _ c hc).leaving hr
  have hnow : (step s a).now = s.now := by
    rcases step_now s a with hnow | ⟨t, rfl, -⟩
    · exact hnow
    · simp [Client.isLost, offered?] at hlost
  refine ⟨c', hc', ?_⟩
  rw [hnow]
  cases hstep with
  | offered said =>
    simp only [Client.offer] at hout ⊢
    split_ifs at hout ⊢ with hacc
    · rw [hr] at hout
      cases hout
    · rw [hdrop]
      exact hleaving.same rfl rfl rfl id
  | stopped act => exact hleaving.same rfl rfl rfl id
  | closed act writes => exact hleaving.over hout rfl (drop_reading c)
  | failed act writes => exact hleaving.over hout rfl (drop_reading c)
  | late act writes time => exact hleaving.over hout rfl (drop_reading c)
  | hungUp act reads =>
    rw [hdrop]
    exact hleaving.same rfl rfl rfl (by rintro ⟨⟩)
  | endedRead act reads told =>
    rw [hdrop]
    exact hleaving.same rfl rfl rfl (by rintro ⟨⟩)
  | _ => exact absurd rfl hin

/-- both tasks are over, or the time that they have is not -/
theorem Leaving.over_or_soon {l : Limits} {lost queued pings now : ℕ} {c : Client}
    (h : Leaving l lost queued pings now c) (hsound : Sound l now c) :
    c.isOver = true ∨ now ≤ lost + (queued + 2 + pings) * l.writeTimeout.millisUp := by
  have hends := h.ends
  cases hw : c.writer with
  | waiting pingAt =>
    rw [Client.endsBy, hw] at hends
    exact Or.inr ((Nat.le_add_right _ _).trans hends)
  | writing what d =>
    cases d with
    | none => exact absurd hw (h.timed what)
    | some d =>
      obtain ⟨hd, -⟩ := hsound.inTime what d hw
      have hle : d ≤ c.endsBy l now := by
        rw [Client.endsBy, hw]
        cases what with
        | close => exact le_rfl
        | message text => exact Nat.le_add_right _ _
        | ping => exact Nat.le_add_right _ _
      exact Or.inr (hd.trans (hle.trans hends))
  | done =>
    cases hr : c.reading with
    | true =>
      rw [h.reads hr]
      exact Or.inr (Nat.le_add_right _ _)
    | false => exact Or.inl (by simp [Client.isOver, hw, hr])

end ServiceMonitor.Hub
