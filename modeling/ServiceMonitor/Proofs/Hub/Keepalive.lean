import ServiceMonitor.Proofs.Hub.Writes

/-!
Messages and pings, whichever comes first.

- `Write.Kept.first`, `Linked.apart`, `Attends.given_up`: one write, one write behind another, and one that nothing follows.
- `keepalive`: a task writes when the next message is there or at the end of the ping interval, in every run.
-/

namespace ServiceMonitor.Hub

/-! ## The law of the timer -/

/-- when a write is due that nothing else cuts short: when a message is there, or at the end of the ping interval -/
def Write.due (l : Limits) (w : Write) : ℕ :=
  match w.available with
  | some a => min a (w.since + l.pingInterval.millisUp)
  | none => w.since + l.pingInterval.millisUp

section

variable {l : Limits} {t now : ℕ} {c : Client} {fs : List (ℕ × Outgoing)} {x : WriteTask} {ws : List Write} {w : Write}

/-- whichever comes first -/
theorem Write.Kept.first (h : w.Kept l) (hstays : w.leaving = false) :
    w.begins = w.due l ∧ (w.available = none → w.what = .ping) ∧
      (w.what = .ping → ∀ a, w.available = some a → a = w.since + l.pingInterval.millisUp) := by
  have hclose : w.what ≠ .close := by
    intro hwhat
    rw [h.close hwhat] at hstays
    cases hstays
  have hping : w.available = none → w.what = .ping := by
    intro hnone
    cases hwhat : w.what with
    | message text =>
      have hsome := h.message text hwhat
      rw [hnone] at hsome
      cases hsome
    | ping => rfl
    | close => exact absurd hwhat hclose
  refine ⟨?_, hping, fun hwhat a ha => (h.prompt a ha).symm.trans (h.ping hwhat)⟩
  rw [Write.due]
  cases ha : w.available with
  | none => exact h.ping (hping ha)
  | some a =>
    have hbegins := h.prompt a ha
    have hle : a ≤ w.since + l.pingInterval.millisUp := hbegins ▸ h.inTime.2
    rw [hbegins]
    exact (min_eq_left hle).symm

/-- one write behind another -/
theorem Linked.apart (h : Linked t ws) (hkept : ∀ w ∈ ws, w.Kept l) {front back : List Write} {v w : Write}
    (hsplit : ws = front ++ v :: w :: back) :
    ∃ e, v.ended = some (e, .through) ∧ e ≤ w.begins ∧ w.begins ≤ e + l.pingInterval.millisUp ∧
      (w.what = .ping → w.begins = e + l.pingInterval.millisUp) := by
  obtain ⟨hsince, hgoesOn⟩ := h (front ++ [v]) w back (by rw [hsplit, List.append_cons])
  obtain ⟨-, e, he⟩ := hgoesOn v (by simp)
  rw [lastEnd_snoc he] at hsince
  have hw : w.Kept l := hkept w (by simp [hsplit])
  have htimes := hw.inTime
  have hping := hw.ping
  rw [hsince] at htimes hping
  exact ⟨e, he, htimes.1, htimes.2, hping⟩

/-- a write that is given up is the last thing that the task does -/
theorem Attends.given_up (h : Attends l t now c fs x) {front back : List Write} (hsplit : x.writes = front ++ w :: back)
    {e : ℕ} {fate : Fate} (hended : w.ended = some (e, fate)) (hfate : fate ≠ .through) :
    back = [] ∧ c.writer = .done ∧ (w.what ≠ .close → .close ∉ fs.map (·.2)) := by
  have hstops : ¬w.GoesOn := by
    rintro ⟨-, e', he⟩
    rw [hended] at he
    cases he
    exact hfate rfl
  have hlast : back = [] := by
    cases back with
    | nil => rfl
    | cons v back =>
      obtain ⟨-, hgoesOn⟩ := h.linked (front ++ [w]) v back (by rw [hsplit, List.append_cons])
      exact absurd (hgoesOn w (by simp)) hstops
  subst hlast
  have hplace := h.place
  refine ⟨rfl, ?_, ?_⟩
  · cases hw : c.writer with
    | waiting pingAt =>
      simp only [WriteTask.At, hw] at hplace
      obtain ⟨hcurrent, -, hgoesOn, -⟩ := hplace
      rw [WriteTask.writes, hcurrent, Option.toList_none, List.append_nil] at hsplit
      exact absurd (hgoesOn w (by simp [hsplit])) hstops
    | writing what deadline =>
      simp only [WriteTask.At, hw] at hplace
      obtain ⟨v, hcurrent, -, hopen, -⟩ := hplace
      rw [WriteTask.writes, hcurrent, Option.toList_some] at hsplit
      obtain ⟨-, hv⟩ := List.append_inj' hsplit rfl
      cases hv
      rw [hended] at hopen
      cases hopen
    | done => rfl
  · intro hwhat hclose
    rw [h.frames, List.map_map, hsplit, List.map_append, List.mem_append] at hclose
    rcases hclose with hclose | hclose
    · obtain ⟨v, hv, hvwhat⟩ := List.mem_map.1 hclose
      exact ((h.linked front w [] hsplit).2 v hv).1 hvwhat
    · exact hwhat (List.mem_singleton.1 hclose).symm

end

/-- **The keepalive.** Let a client connect to a hub that is not stopped. In every run its write task writes the frames that are
begun for it, one after the other. It waits for the next one since it started, or since the end of the last write. As long as it is
not cancelled and its queue not closed, the next write begins when a message is there or at the end of the ping interval, whichever
is first, and is a ping if no message is there by then. If one comes just then, it may be either. A write that is through has not
taken longer than the write timeout, and one that is given up as late has taken that long; one that is late or broken is the last,
and no goodbye has been written. So there is never more than the ping interval between two writes, and never less before a ping.
Until its next write the clock keeps to these times. -/
theorem keepalive (limits : Limits) (before after : List Act) :
    let s := run (start limits) before
    s.stopped = false →
      let i := s.clients.length
      let s' := step s .connect
      let x := taskIn i s' (.start s.now) after
      let period := limits.pingInterval.millisUp
      ∃ c, (run s' after).clients[i]? = some c ∧
        frames i s' after = x.writes.map Write.frame ∧ c.written = (x.writes.filter Write.isThrough).map (·.what) ∧
        Linked s.now x.writes ∧ (∀ w ∈ x.writes, w.Kept limits) ∧
        (∀ w ∈ x.writes, w.leaving = false → w.begins = w.due limits ∧ (w.available = none → w.what = .ping) ∧
          (w.what = .ping → ∀ a, w.available = some a → a = w.since + period)) ∧
        (∀ front v w back, x.writes = front ++ v :: w :: back → ∃ e, v.ended = some (e, .through) ∧
          e ≤ w.begins ∧ w.begins ≤ e + period ∧ (w.what = .ping → w.begins = e + period)) ∧
        (∀ front w back e fate, x.writes = front ++ w :: back → w.ended = some (e, fate) → fate ≠ .through →
          back = [] ∧ c.writer = .done ∧ (w.what ≠ .close → .close ∉ (frames i s' after).map (·.2))) ∧
        x.At limits s.now (run s' after).now c := by
  intro s hstopped i s' x period
  have hlimits : s.limits = limits := run_limits _ _
  have hc : s'.clients[i]? = some (.joined s.nextId s.pingTime) := by simp [s', i, step, hstopped]
  have hjoined : Attends s'.limits s.now s'.now (.joined s.nextId s.pingTime) [] (.start s.now) := by
    refine { linked := linked_nil, kept := by simp [WriteTask.start, WriteTask.writes], frames := rfl, written := rfl,
             place := ?_ }
    refine ⟨rfl, rfl, by simp [WriteTask.start], rfl, le_rfl, Nat.le_add_right _ _, rfl⟩
  obtain ⟨c, hget, hattends⟩ := run_attends hc hjoined after
  have hframes : frames i s' after = [] ++ beginsIn i s' after := by
    rw [frames, hc]
    rfl
  have hlimits' : s'.limits = limits := (step_limits s .connect).trans hlimits
  rw [hlimits', ← hframes] at hattends
  refine ⟨c, hget, hattends.frames, hattends.written, hattends.linked, hattends.kept, ?_, ?_, ?_, hattends.place⟩
  · intro w hw
    exact (hattends.kept w hw).first
  · intro front v w back hsplit
    exact hattends.linked.apart hattends.kept hsplit
  · intro front w back e fate hsplit hended hfate
    exact hattends.given_up hsplit hended hfate

/-- a ping, a message on time, and one that is given up -/
def fadingRun : List Act :=
  [.tick 30000, .ping 0, .tick 30500, .wrote 0, .tick 31000, .broadcast nasRecovered, .take 0, .broadcast edgeRecovered,
    .wrote 0, .take 0, .tick 41000, .late 0]

theorem keepalive_fading :
    let s := run (start narrow) [.start]
    let s' := step s .connect
    let x := taskIn 0 s' (.start s.now) fadingRun
    s.stopped = false ∧ (∀ w ∈ x.writes, w.Kept narrow) ∧
      (x.writes.map fun w => (w.since, w.available, w.begins, w.ended)) =
        [(0, none, 30000, some (30500, .through)), (30500, some 31000, 31000, some (31000, .through)),
          (31000, some 31000, 31000, some (41000, .late))] ∧
      ∃ c, (run s' fadingRun).clients[0]? = some c ∧ c.writer = .done ∧ .close ∉ (frames 0 s' fadingRun).map (·.2) := by
  intro s s' x
  have hwrites : (x.writes.map fun w => (w.since, w.available, w.begins, w.ended)) =
      [(0, none, 30000, some (30500, .through)), (30500, some 31000, 31000, some (31000, .through)),
        (31000, some 31000, 31000, some (41000, .late))] := by decide +kernel
  obtain ⟨c, hc, -, -, -, hkept, -, -, hgiven, -⟩ := keepalive narrow [.start] fadingRun rfl
  refine ⟨rfl, hkept, hwrites, c, hc, ?_⟩
  have hmessage : x.writes.all (·.what ≠ .close) = true := by decide +kernel
  obtain ⟨u, v, w, hsplit⟩ := List.length_eq_three.1 (by simpa using congrArg List.length hwrites)
  rw [hsplit] at hwrites hmessage
  simp only [List.map_cons, List.map_nil, List.cons.injEq, Prod.mk.injEq, and_true] at hwrites
  obtain ⟨-, -, -, -, -, hended⟩ := hwrites
  have hwhat : w.what ≠ .close := by
    rw [List.all_eq_true] at hmessage
    simpa using hmessage w (by simp)
  obtain ⟨-, hdone, hclose⟩ := hgiven [u, v] w [] 41000 .late hsplit hended (by rintro ⟨⟩)
  exact ⟨hdone, hclose hwhat⟩

end ServiceMonitor.Hub
