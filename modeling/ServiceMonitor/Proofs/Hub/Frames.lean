import ServiceMonitor.Proofs.Hub.ClientStep

/-!
The frames that a client gets.

`frames` lists what the write task of a client begins to write, with the times. `Served` ties them to what was
broadcast since the client connected: begun messages and then the queue are the broadcasts, all of them as long as the
client is registered and the first of them in any case.

- `step_served`: every step keeps it; one case for each thing that can happen to a client.
- `registered_or_removed`: a client is taken off the map only for a reason (`Removed`).
- `run_served`: both through a run.
-/

namespace ServiceMonitor.Hub

/-! ## What is begun -/

/-- the write that a write task begins between two states -/
def Client.begins (c c' : Client) : Option Outgoing :=
  match c.writer, c'.writer with
  | .waiting _, .writing what _ => some what
  | _, _ => none

/-- the frame that the write task of client `i` begins with an act, and when -/
def beginsAt (i : ℕ) (s : St) (a : Act) : List (ℕ × Outgoing) :=
  match s.clients[i]?, (step s a).clients[i]? with
  | some c, some c' => (c.begins c').toList.map fun what => (s.now, what)
  | _, _ => []

/-- the frames that it begins in a run -/
def beginsIn (i : ℕ) : St → List Act → List (ℕ × Outgoing)
  | _, [] => []
  | s, a :: acts => beginsAt i s a ++ beginsIn i (step s a) acts

/-- the frames that were begun for client `i`, from its connection in a state on -/
def frames (i : ℕ) (s : St) (acts : List Act) : List (ℕ × Outgoing) :=
  (s.clients[i]?.elim [] fun c => c.begun.map fun what => (s.now, what)) ++ beginsIn i s acts

def Outgoing.text? : Outgoing → Option String
  | .message text => some text
  | .ping | .close => none

/-- the messages among frames; a keepalive or a goodbye is none -/
def messages (fs : List (ℕ × Outgoing)) : List String := fs.filterMap fun f => f.2.text?

theorem messages_append (fs fs' : List (ℕ × Outgoing)) : messages (fs ++ fs') = messages fs ++ messages fs' :=
  List.filterMap_append

theorem frames_snoc (i : ℕ) (s : St) (acts : List Act) (a : Act) :
    frames i s (acts ++ [a]) = frames i s acts ++ beginsAt i (run s acts) a := by
  have h : ∀ s, beginsIn i s (acts ++ [a]) = beginsIn i s acts ++ beginsAt i (run s acts) a := by
    induction acts with
    | nil => intro s; simp [beginsIn, run]
    | cons b acts ih =>
      intro s
      rw [List.cons_append, beginsIn, beginsIn, ih, List.append_assoc]
      rfl
  rw [frames, frames, h, List.append_assoc]

/-! ## The invariant -/

/-- a client, the frames begun for it, and the broadcasts since it connected -/
structure Served (l : Limits) (c : Client) (fs : List (ℕ × Outgoing)) (since : List String) : Prop where
  written : c.written <+: fs.map (·.2)
  begun : c.writer ≠ .done → c.begun = fs.map (·.2)
  told : messages fs <+: since
  queued : c.writer ≠ .done → .close ∉ fs.map (·.2) → messages fs ++ c.queue <+: since
  waits : ∀ pingAt, c.writer = .waiting pingAt → .close ∉ fs.map (·.2)
  last : .close ∉ (fs.map (·.2)).dropLast
  room : c.queue.length ≤ l.capacity
  token : c.cancelled = !c.registered
  live : c.registered = true → c.writer ≠ .done ∧ .close ∉ fs.map (·.2) ∧ c.reading = true
  current : c.registered = true → messages fs ++ c.queue = since
  deadline : ∀ what d, c.writer = .writing what (some d) →
    ∃ began, fs.getLast? = some (began, what) ∧ d = began + l.writeTimeout.millisUp

theorem joined_served (l : Limits) (id pingAt : ℕ) : Served l (.joined id pingAt) [] [] := by
  constructor <;> simp [Client.joined, Client.begun, messages]

theorem turnedAway_served (l : Limits) (id now : ℕ) : Served l (.turnedAway id) [(now, .close)] [] := by
  constructor <;> simp [Client.turnedAway, Client.begun, messages, Outgoing.text?]

section

variable {l : Limits} {c : Client} {fs : List (ℕ × Outgoing)} {since : List String}

/-- a client that is told to end keeps what it has -/
theorem Served.dropped (h : Served l c fs since) :
    Served l { c with registered := false, cancelled := true } fs since where
  written := h.written
  begun := h.begun
  told := h.told
  queued := h.queued
  waits := h.waits
  last := h.last
  room := h.room
  token := rfl
  live := by rintro ⟨⟩
  current := by rintro ⟨⟩
  deadline := h.deadline

theorem Served.drop_eq (h : Served l c fs since) : c.drop = { c with registered := false, cancelled := true } := by
  have ht := h.token
  obtain ⟨id, registered, cancelled, queue, writer, reading, written⟩ := c
  cases registered with
  | true => rfl
  | false => simp only [Bool.not_false] at ht; subst ht; rfl

/-! ## One step -/

/-- a text is broadcast -/
theorem Served.offer (h : Served l c fs since) (text : String) :
    Served l (c.offer l.capacity text) fs (since ++ [text]) := by
  have htold : messages fs <+: since ++ [text] := h.told.trans (List.prefix_append _ _)
  simp only [Client.offer]
  split_ifs with hacc
  · simp only [Client.accepts, Bool.and_eq_true, decide_eq_true_eq] at hacc
    have hcurrent : messages fs ++ (c.queue ++ [text]) = since ++ [text] := by
      rw [← List.append_assoc, h.current hacc.1.1]
    exact
      { written := h.written
        begun := h.begun
        told := htold
        queued := fun _ _ => by rw [hcurrent]
        waits := h.waits
        last := h.last
        room := by simpa using hacc.2
        token := h.token
        live := h.live
        current := fun _ => hcurrent
        deadline := h.deadline }
  · rw [h.drop_eq]
    exact
      { h.dropped with
        told := htold
        queued := fun hw hclose => (h.queued hw hclose).trans (List.prefix_append _ _)
        current := by rintro ⟨⟩ }

/-- a write task that waits begins a write: the next message, or something else without touching the queue -/
theorem Served.begin (h : Served l c fs since) {pingAt : ℕ} (hw : c.writer = .waiting pingAt) (what : Outgoing)
    {rest : List String} (hq : what.text?.toList ++ rest = c.queue)
    (hclose : what = .close → c.registered = false) (now : ℕ) :
    Served l { c with queue := rest, writer := .writing what (some (now + l.writeTimeout.millisUp)) }
      (fs ++ [(now, what)]) since := by
  have hmessages : messages (fs ++ [(now, what)]) ++ rest = messages fs ++ c.queue := by
    have hone : messages [(now, what)] = what.text?.toList := by cases what <;> rfl
    rw [messages_append, ← hq, List.append_assoc, hone]
  have hopen := h.waits pingAt hw
  have hbegun := h.begun (by simp [hw])
  simp only [Client.begun, hw] at hbegun
  have hprefix := h.queued (by simp [hw]) hopen
  rw [← hmessages] at hprefix
  refine
    { written := ?_, begun := ?_, told := ?_, queued := ?_, waits := ?_, last := ?_, room := ?_, token := h.token,
      live := ?_, current := ?_, deadline := ?_ }
  · rw [List.map_append]
    exact h.written.trans (List.prefix_append _ _)
  · intro _
    simp [Client.begun, hbegun]
  · exact (List.prefix_append _ _).trans hprefix
  · exact fun _ _ => hprefix
  · rintro p ⟨⟩
  · simpa using hopen
  · have hroom := h.room
    rw [← hq, List.length_append] at hroom
    exact (Nat.le_add_left _ _).trans hroom
  · intro hr
    refine ⟨by simp, ?_, (h.live hr).2.2⟩
    have hne : what ≠ .close := fun hc => by rw [hclose hc] at hr; cases hr
    simpa [hopen] using hne.symm
  · intro hr
    dsimp only
    rw [hmessages]
    exact h.current hr
  · rintro what' d ⟨⟩
    exact ⟨now, by simp, rfl⟩

/-- a write is through that is no goodbye -/
theorem Served.wrote (h : Served l c fs since) {what : Outgoing} {d : Option ℕ} (hw : c.writer = .writing what d)
    (hne : what ≠ .close) (pingAt : ℕ) :
    Served l { c with writer := .waiting pingAt, written := c.written ++ [what] } fs since := by
  have hbegun := h.begun (by simp [hw])
  simp only [Client.begun, hw] at hbegun
  have hopen : Outgoing.close ∉ fs.map (·.2) := by
    have hlast := h.last
    rw [← hbegun, List.dropLast_concat] at hlast
    rw [← hbegun]
    simpa [hlast] using hne.symm
  exact
    { written := by rw [hbegun]
      begun := fun _ => hbegun
      told := h.told
      queued := fun _ => h.queued (by simp [hw])
      waits := fun _ _ => hopen
      last := h.last
      room := h.room
      token := h.token
      live := fun hr => ⟨by simp, (h.live hr).2⟩
      current := h.current
      deadline := by rintro _ _ ⟨⟩ }

/-- the write task is over; what it has written may include the last frame or not -/
theorem Served.over (h : Served l c fs since) {written : List Outgoing} (hwritten : written <+: fs.map (·.2)) :
    Served l { c.drop with writer := .done, written := written } fs since := by
  rw [h.drop_eq]
  exact
    { h.dropped with
      written := hwritten
      begun := fun hw => absurd rfl hw
      queued := fun hw => absurd rfl hw
      waits := by rintro _ ⟨⟩
      live := by rintro ⟨⟩
      deadline := by rintro _ _ ⟨⟩ }

/-- the read task is over -/
theorem Served.readOver (h : Served l c fs since) : Served l { c.drop with reading := false } fs since := by
  rw [h.drop_eq]
  exact { h.dropped with live := by rintro ⟨⟩ }

end

theorem begins_same {c c' : Client} (h : c'.writer = c.writer) : c.begins c' = none := by
  simp only [Client.begins, h]
  cases c.writer <;> rfl

theorem begins_writing {c c' : Client} {what : Outgoing} {d : Option ℕ} (h : c.writer = .writing what d) :
    c.begins c' = none := by
  simp [Client.begins, h]

theorem begins_waiting {c c' : Client} {pingAt : ℕ} {what : Outgoing} {d : Option ℕ} (h : c.writer = .waiting pingAt)
    (h' : c'.writer = .writing what d) : c.begins c' = some what := by
  simp [Client.begins, h, h']

theorem drop_writer (c : Client) : c.drop.writer = c.writer := by
  simp only [Client.drop]; split_ifs <;> rfl

theorem offer_writer (capacity : ℕ) (text : String) (c : Client) : (c.offer capacity text).writer = c.writer := by
  simp only [Client.offer]
  split_ifs
  · rfl
  · exact drop_writer c

/-- **One step.** A client stays served, with the frame that it begins and the text that is broadcast. -/
theorem step_served {s : St} {i : ℕ} {a : Act} {c c' : Client} {fs : List (ℕ × Outgoing)} {since : List String}
    (h : Served s.limits c fs since) (hstep : ClientStep s i a c c') :
    Served s.limits c' (fs ++ (c.begins c').toList.map fun what => (s.now, what))
      (since ++ (offered? s a).toList) := by
  cases hstep with
  | idle quiet runs =>
    rw [begins_same rfl, quiet]
    simpa using h
  | offered said =>
    rw [begins_same (offer_writer _ _ _), said]
    simpa using h.offer _
  | stopped act =>
    subst act
    have hnone : c.begins { c with registered := false, cancelled := true } = none := begins_same rfl
    rw [hnone]
    simpa [offered?] using h.dropped
  | took act waits queued =>
    subst act
    rw [begins_waiting waits rfl]
    simpa [offered?, St.begin] using h.begin waits (.message _) queued.symm (by simp) s.now
  | pinged act waits time =>
    subst act
    rw [begins_waiting waits rfl]
    simpa [offered?, St.begin] using h.begin waits .ping rfl (by simp) s.now
  | left act waits ended =>
    subst act
    rw [begins_waiting waits rfl]
    have hout : c.registered = false := by
      rcases ended with hc | ⟨hr, -⟩
      · simpa [h.token] using hc
      · exact hr
    simpa [offered?, St.begin] using h.begin waits .close rfl (fun _ => hout) s.now
  | wrote act writes goesOn =>
    subst act
    rw [begins_writing writes]
    simpa [offered?] using h.wrote writes goesOn _
  | closed act writes =>
    subst act
    rw [begins_writing writes]
    have hbegun := h.begun (by simp [writes])
    simp only [Client.begun, writes] at hbegun
    simpa [offered?] using h.over (by rw [hbegun])
  | failed act writes =>
    subst act
    rw [begins_writing writes]
    simpa [offered?] using h.over (by rw [h.drop_eq]; exact h.written)
  | late act writes time =>
    subst act
    rw [begins_writing writes]
    simpa [offered?] using h.over (by rw [h.drop_eq]; exact h.written)
  | hungUp act reads =>
    subst act
    have hnone : c.begins { c.drop with reading := false } = none := begins_same (drop_writer c)
    rw [hnone]
    simpa [offered?] using h.readOver
  | endedRead act reads told =>
    subst act
    have hnone : c.begins { c.drop with reading := false } = none := begins_same (drop_writer c)
    rw [hnone]
    simpa [offered?] using h.readOver

/-! ## Removal -/

/-- why client `i`, with these frames begun, is taken off the map by an act -/
inductive Removed (i : ℕ) (s : St) (c : Client) (fs : List (ℕ × Outgoing)) : Act → Prop
  | stopped : Removed i s c fs .stop
  /-- its queue was full at a broadcast -/
  | full {a : Act} {text : String} (said : offered? s a = some text) (full : c.queue.length = s.limits.capacity) :
      Removed i s c fs a
  /-- its socket failed under a write -/
  | failed {what : Outgoing} {d : Option ℕ} (writes : c.writer = .writing what d) : Removed i s c fs (.broken i)
  /-- its socket failed or was closed on the other side -/
  | hungUp (reads : c.reading = true) : Removed i s c fs (.hangUp i)
  /-- the write under way, which is the last one begun, has taken the time that it had -/
  | late {began : ℕ} {what : Outgoing} {d : Option ℕ} (last : fs.getLast? = some (began, what))
      (writes : c.writer = .writing what d) (time : began + s.limits.writeTimeout.millisUp ≤ s.now) :
      Removed i s c fs (.late i)

/-- **Nobody is removed without a reason.** -/
theorem registered_or_removed {s : St} {i : ℕ} {a : Act} {c c' : Client} {fs : List (ℕ × Outgoing)}
    {since : List String} (h : Served s.limits c fs since) (hstep : ClientStep s i a c c') (hr : c.registered = true) :
    c'.registered = true ∨ Removed i s c fs a := by
  cases hstep with
  | idle quiet runs => exact Or.inl hr
  | offered said =>
    simp only [Client.offer]
    split_ifs with hacc
    · exact Or.inl hr
    · refine Or.inr (.full said (le_antisymm h.room ?_))
      by_contra hlt
      refine hacc ?_
      simp [Client.accepts, Client.isOpen, hr, (h.live hr).1, not_le.1 hlt]
  | stopped act => subst act; exact Or.inr .stopped
  | took act waits queued => exact Or.inl hr
  | pinged act waits time => exact Or.inl hr
  | left act waits ended => exact Or.inl hr
  | wrote act writes goesOn => exact Or.inl hr
  | closed act writes =>
    -- a goodbye is begun off the map only
    have hbegun := h.begun (by simp [writes])
    simp only [Client.begun, writes] at hbegun
    exact absurd (by rw [← hbegun]; simp) (h.live hr).2.1
  | failed act writes => subst act; exact Or.inr (.failed writes)
  | late act writes time =>
    subst act
    obtain ⟨began, hlast, rfl⟩ := h.deadline _ _ writes
    exact Or.inr (.late hlast writes time)
  | hungUp act reads => subst act; exact Or.inr (.hungUp reads)
  | endedRead act reads told =>
    have ht := h.token
    rw [hr, told] at ht
    cases ht

/-! ## Runs -/

theorem broadcasts_grow (s : St) (acts : List Act) : s.broadcasts <+: (run s acts).broadcasts := by
  induction acts generalizing s with
  | nil => exact List.prefix_refl _
  | cons a acts ih =>
    have hstep : s.broadcasts <+: (step s a).broadcasts := by
      rw [step_broadcasts]
      exact List.prefix_append _ _
    exact hstep.trans (ih (step s a))

/-- what is broadcast in a run -/
def saidIn (s : St) (acts : List Act) : List String := (run s acts).broadcasts.drop s.broadcasts.length

theorem saidIn_snoc (s : St) (acts : List Act) (a : Act) :
    saidIn s (acts ++ [a]) = saidIn s acts ++ (offered? (run s acts) a).toList := by
  rw [saidIn, run_snoc, step_broadcasts, List.drop_append_of_le_length (broadcasts_grow s acts).length_le, saidIn]

/-- **A run.** A client that is served stays so, and it is taken off the map only for a reason. -/
theorem run_served {s : St} {i : ℕ} {c : Client} (hc : s.clients[i]? = some c)
    (h : Served s.limits c (c.begun.map fun what => (s.now, what)) []) (acts : List Act) :
    ∃ c', (run s acts).clients[i]? = some c' ∧ Served s.limits c' (frames i s acts) (saidIn s acts) ∧
      (c.registered = true → c'.registered = false → ∃ mid a rest m, acts = mid ++ a :: rest ∧
        (run s mid).clients[i]? = some m ∧ Removed i (run s mid) m (frames i s mid) a) := by
  induction acts using List.reverseRecOn with
  | nil =>
    refine ⟨c, hc, ?_, fun hr hr' => by rw [hr] at hr'; cases hr'⟩
    simpa [frames, hc, beginsIn, saidIn, run] using h
  | append_singleton acts a ih =>
    obtain ⟨m, hm, hserved, hremoved⟩ := ih
    obtain ⟨c', hc', hstep⟩ := step_client hm a
    have hbegins : beginsAt i (run s acts) a = (m.begins c').toList.map fun what => ((run s acts).now, what) := by
      simp only [beginsAt, hm, hc']
    rw [← run_limits s acts] at hserved
    refine ⟨c', by rw [run_snoc, hc'], ?_, fun hr hr' => ?_⟩
    · rw [frames_snoc, saidIn_snoc, hbegins, ← run_limits s acts]
      exact step_served hserved hstep
    · cases hreg : m.registered with
      | false =>
        obtain ⟨mid, b, rest, m', rfl, hm', hwhy⟩ := hremoved hr hreg
        exact ⟨mid, b, rest ++ [a], m', by simp, hm', hwhy⟩
      | true =>
        rcases registered_or_removed hserved hstep hreg with hkeep | hwhy
        · rw [hkeep] at hr'; cases hr'
        · exact ⟨acts, a, [], m, rfl, hm, hwhy⟩

end ServiceMonitor.Hub
