import ServiceMonitor.Proofs.Hub.Members

/-!
The writes of one write task, and their times.

A write task waits for a message or for its timer, writes, and resets the timer behind the write. `taskIn` reads the writes of one
task off a run: since when it waited, from when on a message did, when the write began, and how it ended. Nothing in it knows of
the timer.

- `Write.Kept`: what is true of every write; `Linked`: how one follows another.
- `Attends`: a client and the writes of its task; `step_attends`, `run_attends`: every act keeps it, and so every run.
-/

namespace ServiceMonitor.Hub

/-! ## The writes of a task -/

/-- how a write ended -/
inductive Fate where
  | through
  /-- it took too long -/
  | late
  | broken
  deriving DecidableEq, Repr

/-- one write -/
structure Write where
  /-- the end of the write before, or the start of the task -/
  since : ℕ
  /-- from when on a message waited, if one did -/
  available : Option ℕ
  /-- the task was cancelled or its queue closed by then -/
  leaving : Bool
  begins : ℕ
  what : Outgoing
  ended : Option (ℕ × Fate)
  deriving DecidableEq, Repr

/-- a write task: since when it waits, from when on a message does, its writes that have ended, and the one that has not -/
structure WriteTask where
  since : ℕ
  available : Option ℕ
  past : List Write
  current : Option Write
  deriving DecidableEq, Repr

/-- cancelled, or at the end of a queue that nobody can put anything into any more -/
def Client.isLeaving (c : Client) : Bool := c.cancelled || (!c.registered && c.queue.isEmpty)

/-- how a write under way ends with an act -/
def Act.fate : Act → Fate
  | .late _ => .late
  | .broken _ => .broken
  | _ => .through

namespace WriteTask

def start (now : ℕ) : WriteTask := ⟨now, none, [], none⟩

def writes (x : WriteTask) : List Write := x.past ++ x.current.toList

/-- a look into the queue -/
def look (now : ℕ) (queue : List String) (x : WriteTask) : WriteTask :=
  if x.available.isNone && !queue.isEmpty then { x with available := some now } else x

/-- a write begins -/
def begin (now : ℕ) (leaving : Bool) (what : Outgoing) (x : WriteTask) : WriteTask :=
  { x with current := some ⟨x.since, x.available, leaving, now, what, none⟩ }

/-- the write under way ends -/
def finish (now : ℕ) (fate : Fate) (x : WriteTask) : WriteTask :=
  { x with
    past := x.past ++ (x.current.map fun w => { w with ended := some (now, fate) }).toList
    current := none }

/-- the task waits again -/
def wait (now : ℕ) (x : WriteTask) : WriteTask := { x with since := now, available := none }

/-- what an act makes of a task, read off its client before and behind it -/
def after (now : ℕ) (a : Act) (c c' : Client) (x : WriteTask) : WriteTask :=
  match c.writer, c'.writer with
  | .waiting _, .waiting _ => x.look now c'.queue
  | .waiting _, .writing what _ => x.begin now c.isLeaving what
  | .writing .., .waiting _ => ((x.finish now a.fate).wait now).look now c'.queue
  | .writing .., .done => x.finish now a.fate
  | _, _ => x

end WriteTask

/-- the write task of client `i` behind an act -/
def taskAfter (i : ℕ) (s : St) (x : WriteTask) (a : Act) : WriteTask :=
  match s.clients[i]?, (step s a).clients[i]? with
  | some c, some c' => x.after s.now a c c'
  | _, _ => x

/-- the write task of client `i` behind a run -/
def taskIn (i : ℕ) : St → WriteTask → List Act → WriteTask
  | _, x, [] => x
  | s, x, a :: acts => taskIn i (step s a) (taskAfter i s x a) acts

/-! ## What is true of them -/

/-- a write that another can follow -/
def Write.GoesOn (w : Write) : Prop := w.what ≠ .close ∧ ∃ e, w.ended = some (e, .through)

/-- a write entirely written -/
def Write.isThrough (w : Write) : Bool := w.ended.any (·.2 = .through)

/-- the frame that it is -/
def Write.frame (w : Write) : ℕ × Outgoing := (w.begins, w.what)

/-- when the last of some writes ended -/
def lastEnd (t : ℕ) (ws : List Write) : ℕ := ((ws.getLast?.bind (·.ended)).map (·.1)).getD t

/-- a task that started at a time waits since then, or since the end of its last write, for the next; nothing follows a goodbye or
a write that was given up -/
def Linked (t : ℕ) (ws : List Write) : Prop :=
  ∀ front w back, ws = front ++ w :: back → w.since = lastEnd t front ∧ ∀ v ∈ front, v.GoesOn

/-- a write begins when a message is there, or at the end of the ping interval, whichever is first, and lasts no longer than the
write timeout -/
structure Write.Kept (l : Limits) (w : Write) : Prop where
  inTime : w.since ≤ w.begins ∧ w.begins ≤ w.since + l.pingInterval.millisUp
  /-- nothing is waited for while a message waits -/
  prompt : ∀ a, w.available = some a → w.begins = a
  message : ∀ text, w.what = .message text → w.available.isSome
  ping : w.what = .ping → w.begins = w.since + l.pingInterval.millisUp
  close : w.what = .close → w.leaving = true
  lasts : ∀ e fate, w.ended = some (e, fate) → w.begins ≤ e ∧ e ≤ w.begins + l.writeTimeout.millisUp ∧
    (fate = .late → e = w.begins + l.writeTimeout.millisUp)

/-- where a task is that started at a time -/
def WriteTask.At (l : Limits) (t now : ℕ) (x : WriteTask) (c : Client) : Prop :=
  match c.writer with
  | .waiting pingAt => x.current = none ∧ x.since = lastEnd t x.past ∧ (∀ v ∈ x.past, v.GoesOn) ∧
      pingAt = x.since + l.pingInterval.millisUp ∧ x.since ≤ now ∧ now ≤ pingAt ∧
      x.available = if c.queue = [] then none else some now
  | .writing what deadline => ∃ w, x.current = some w ∧ w.what = what ∧ w.ended = none ∧
      deadline = some (w.begins + l.writeTimeout.millisUp) ∧ w.begins ≤ now ∧ now ≤ w.begins + l.writeTimeout.millisUp
  | .done => x.current = none ∧ ∃ front w, x.past = front ++ [w] ∧ ∃ e fate, w.ended = some (e, fate) ∧
      (w.what = .close ∨ fate ≠ .through)

/-- a client and its write task, with the frames begun for it -/
structure Attends (l : Limits) (t now : ℕ) (c : Client) (fs : List (ℕ × Outgoing)) (x : WriteTask) : Prop where
  linked : Linked t x.writes
  kept : ∀ w ∈ x.writes, w.Kept l
  frames : fs = x.writes.map Write.frame
  written : c.written = (x.writes.filter Write.isThrough).map (·.what)
  place : x.At l t now c

section

variable {l : Limits} {t now : ℕ} {c c' : Client} {fs : List (ℕ × Outgoing)} {x : WriteTask} {ws : List Write} {w w' : Write}

theorem linked_nil : Linked t [] := by
  intro front w back h
  simp at h

theorem Linked.snoc (h : Linked t ws) (hsince : w.since = lastEnd t ws) (hgoesOn : ∀ v ∈ ws, v.GoesOn) :
    Linked t (ws ++ [w]) := by
  intro front v back hsplit
  rcases List.eq_nil_or_concat back with rfl | ⟨back, b, rfl⟩
  · obtain ⟨rfl, hlast⟩ := List.append_inj' hsplit rfl
    cases hlast
    exact ⟨hsince, hgoesOn⟩
  · rw [List.concat_eq_append, ← List.cons_append, ← List.append_assoc] at hsplit
    obtain ⟨hws, -⟩ := List.append_inj' hsplit rfl
    exact h front v back hws

theorem Linked.init (h : Linked t (ws ++ [w])) :
    Linked t ws ∧ w.since = lastEnd t ws ∧ ∀ v ∈ ws, v.GoesOn := by
  refine ⟨?_, h ws w [] rfl⟩
  rintro front v back rfl
  exact h front v (back ++ [w]) (by simp)

theorem lastEnd_snoc {e : ℕ} {fate : Fate} (h : w.ended = some (e, fate)) : lastEnd t (ws ++ [w]) = e := by
  simp [lastEnd, h]

theorem isThrough_of_open (h : w.ended = none) : w.isThrough = false := by
  rw [Write.isThrough, h]
  rfl

/-! ## One act -/

/-- a look into a queue that was empty, or held something already -/
theorem look_eq {queue : List String} (h : x.available = none ∨ x.available = some now ∧ queue ≠ []) :
    x.look now queue = { x with available := if queue = [] then none else some now } := by
  rw [WriteTask.look]
  cases queue with
  | nil =>
    rcases h with hnone | ⟨-, hne⟩
    · obtain ⟨since, available, past, current⟩ := x
      simp_all
    · exact absurd rfl hne
  | cons text rest =>
    rcases h with hnone | ⟨hsome, -⟩
    · simp [hnone]
    · obtain ⟨since, available, past, current⟩ := x
      simp_all

/-- the write task does nothing, and nothing is taken out of the queue -/
theorem Attends.rest (h : Attends l t now c fs x) (a : Act) (hwriter : c'.writer = c.writer)
    (hwritten : c'.written = c.written) (hqueue : c.queue ≠ [] → c'.queue ≠ []) :
    Attends l t now c' fs (x.after now a c c') := by
  have hplace := h.place
  cases hw : c.writer with
  | waiting pingAt =>
    simp only [WriteTask.At, hw] at hplace
    obtain ⟨hcurrent, hsince, hgoesOn, hping, hstart, hnow, havailable⟩ := hplace
    have hlook : x.after now a c c' = { x with available := if c'.queue = [] then none else some now } := by
      simp only [WriteTask.after, hwriter, hw]
      apply look_eq
      rw [havailable]
      split_ifs with hempty
      · exact Or.inl rfl
      · exact Or.inr ⟨rfl, hqueue hempty⟩
    rw [hlook]
    refine ⟨h.linked, h.kept, h.frames, hwritten.trans h.written, ?_⟩
    simp only [WriteTask.At, hwriter, hw]
    exact ⟨hcurrent, hsince, hgoesOn, hping, hstart, hnow, trivial⟩
  | writing what deadline =>
    have hafter : x.after now a c c' = x := by simp only [WriteTask.after, hwriter, hw]
    rw [hafter]
    refine ⟨h.linked, h.kept, h.frames, hwritten.trans h.written, ?_⟩
    simpa only [WriteTask.At, hwriter, hw] using hplace
  | done =>
    have hafter : x.after now a c c' = x := by simp only [WriteTask.after, hwriter, hw]
    rw [hafter]
    refine ⟨h.linked, h.kept, h.frames, hwritten.trans h.written, ?_⟩
    simpa only [WriteTask.At, hwriter, hw] using hplace

/-- a write begins -/
theorem Attends.begin (h : Attends l t now c fs x) (a : Act) (c' : Client) {pingAt : ℕ}
    (waits : c.writer = .waiting pingAt) {what : Outgoing}
    (hwriter : c'.writer = .writing what (some (now + l.writeTimeout.millisUp))) (hwritten : c'.written = c.written)
    (hmessage : ∀ text, what = .message text → c.queue ≠ []) (hping : what = .ping → pingAt ≤ now)
    (hclose : what = .close → c.isLeaving = true) :
    Attends l t now c' (fs ++ [(now, what)]) (x.after now a c c') := by
  have hplace := h.place
  simp only [WriteTask.At, waits] at hplace
  obtain ⟨hcurrent, hsince, hgoesOn, hpingAt, hstart, hnow, havailable⟩ := hplace
  have hwrites : x.writes = x.past := by rw [WriteTask.writes, hcurrent, Option.toList_none, List.append_nil]
  have hafter : x.after now a c c' = x.begin now c.isLeaving what := by simp only [WriteTask.after, waits, hwriter]
  have hbegun : (x.begin now c.isLeaving what).writes =
      x.past ++ [⟨x.since, x.available, c.isLeaving, now, what, none⟩] := rfl
  have hkept : Write.Kept l ⟨x.since, x.available, c.isLeaving, now, what, none⟩ := by
    refine { inTime := ⟨hstart, hpingAt ▸ hnow⟩, prompt := ?_, message := ?_, ping := ?_, close := hclose, lasts := ?_ }
    · intro b hb
      change x.available = some b at hb
      rw [havailable] at hb
      split_ifs at hb
      exact Option.some.inj hb
    · intro text htext
      change x.available.isSome = true
      rw [havailable, if_neg (hmessage text htext)]
      rfl
    · intro hwhat
      exact (hnow.antisymm (hping hwhat)).trans hpingAt
    · rintro e fate ⟨⟩
  rw [hafter]
  refine { linked := ?_, kept := ?_, frames := ?_, written := ?_, place := ?_ }
  · rw [hbegun]
    exact (hwrites ▸ h.linked).snoc hsince hgoesOn
  · intro w hw
    rw [hbegun, List.mem_append, List.mem_singleton] at hw
    rcases hw with hw | rfl
    · exact h.kept w (hwrites ▸ hw)
    · exact hkept
  · rw [hbegun, h.frames, hwrites, List.map_append]
    rfl
  · rw [hbegun, hwritten, h.written, hwrites, List.filter_append]
    simp [Write.isThrough]
  · simp only [WriteTask.At, hwriter]
    exact ⟨_, rfl, rfl, rfl, rfl, le_rfl, Nat.le_add_right _ _⟩

/-- the write under way ends -/
theorem Attends.finish (h : Attends l t now c fs x) {what : Outgoing} {deadline : Option ℕ}
    (writes : c.writer = .writing what deadline) (fate : Fate)
    (hlate : fate = .late → ∀ d, deadline = some d → d ≤ now) :
    ∃ w : Write, w.what = what ∧ w.ended = some (now, fate) ∧ (x.finish now fate).past = x.past ++ [w] ∧
      (x.finish now fate).current = none ∧ Linked t (x.past ++ [w]) ∧ (∀ v ∈ x.past ++ [w], v.Kept l) ∧
      fs = (x.past ++ [w]).map Write.frame ∧
      ((x.past ++ [w]).filter Write.isThrough).map (·.what) = c.written ++ if fate = .through then [what] else [] := by
  have hplace := h.place
  simp only [WriteTask.At, writes] at hplace
  obtain ⟨w, hcurrent, rfl, hopen, hdeadline, hbegun, hnow⟩ := hplace
  have hwrites : x.writes = x.past ++ [w] := by rw [WriteTask.writes, hcurrent, Option.toList_some]
  obtain ⟨hlinked, hsince, hgoesOn⟩ := (hwrites ▸ h.linked).init
  have hkept : w.Kept l := h.kept w (by simp [hwrites])
  refine ⟨{ w with ended := some (now, fate) }, rfl, rfl, by simp [WriteTask.finish, hcurrent], rfl,
    hlinked.snoc hsince hgoesOn, ?_, ?_, ?_⟩
  · intro v hv
    rcases List.mem_append.1 hv with hv | hv
    · exact h.kept v (by simp [hwrites, hv])
    · obtain rfl := List.mem_singleton.1 hv
      refine { inTime := hkept.inTime, prompt := hkept.prompt, message := hkept.message, ping := hkept.ping,
               close := hkept.close, lasts := ?_ }
      rintro e fate' he
      cases he
      exact ⟨hbegun, hnow, fun hfate => hnow.antisymm (hlate hfate _ hdeadline)⟩
  · rw [h.frames, hwrites, List.map_append, List.map_append]
    rfl
  · rw [h.written, hwrites]
    simp only [List.filter_append, List.map_append, List.filter_singleton, isThrough_of_open hopen]
    cases fate <;> simp [Write.isThrough]

/-- a write is through, and the task waits again -/
theorem Attends.wrote (h : Attends l t now c fs x) {a : Act} (c' : Client) (hfate : a.fate = .through) {what : Outgoing}
    {deadline : Option ℕ} (writes : c.writer = .writing what deadline) (hgoesOn : what ≠ .close)
    (hwriter : c'.writer = .waiting (now + l.pingInterval.millisUp)) (hwritten : c'.written = c.written ++ [what]) :
    Attends l t now c' fs (x.after now a c c') := by
  obtain ⟨w, rfl, hended, hpast, hcurrent, hlinked, hkept, hframes, hthrough⟩ :=
    h.finish writes .through (by rintro ⟨⟩)
  have hafter : x.after now a c c' =
      { since := now, available := if c'.queue = [] then none else some now, past := x.past ++ [w], current := none } := by
    simp only [WriteTask.after, writes, hwriter, hfate]
    rw [look_eq (Or.inl rfl)]
    simp only [WriteTask.wait, hpast, hcurrent]
  have hlinked' := hlinked.init
  rw [hafter]
  refine { linked := ?_, kept := ?_, frames := ?_, written := ?_, place := ?_ }
  · simpa [WriteTask.writes] using hlinked
  · simpa [WriteTask.writes] using hkept
  · simpa [WriteTask.writes] using hframes
  · rw [hwritten]
    simpa [WriteTask.writes] using hthrough.symm
  · simp only [WriteTask.At, hwriter]
    refine ⟨trivial, (lastEnd_snoc hended).symm, ?_, trivial, le_rfl, Nat.le_add_right _ _, trivial⟩
    intro v hv
    rcases List.mem_append.1 hv with hv | hv
    · exact hlinked'.2.2 v hv
    · rw [List.mem_singleton.1 hv]
      exact ⟨hgoesOn, now, hended⟩

/-- a goodbye ends, or a write is given up, and the task is over -/
theorem Attends.over (h : Attends l t now c fs x) (a : Act) (c' : Client) {what : Outgoing} {deadline : Option ℕ}
    (writes : c.writer = .writing what deadline) (hlate : a.fate = .late → ∀ d, deadline = some d → d ≤ now)
    (hlast : what = .close ∨ a.fate ≠ .through) (hwriter : c'.writer = .done)
    (hwritten : c'.written = c.written ++ if a.fate = .through then [what] else []) :
    Attends l t now c' fs (x.after now a c c') := by
  obtain ⟨w, rfl, hended, hpast, hcurrent, hlinked, hkept, hframes, hthrough⟩ := h.finish writes a.fate hlate
  have hafter : x.after now a c c' = x.finish now a.fate := by simp only [WriteTask.after, writes, hwriter]
  have hwrites : (x.finish now a.fate).writes = x.past ++ [w] := by
    rw [WriteTask.writes, hpast, hcurrent, Option.toList_none, List.append_nil]
  rw [hafter]
  refine { linked := hwrites ▸ hlinked, kept := hwrites ▸ hkept, frames := hwrites ▸ hframes, written := ?_, place := ?_ }
  · rw [hwritten, hwrites, hthrough]
  · simp only [WriteTask.At, hwriter]
    exact ⟨hcurrent, x.past, w, hpast, now, a.fate, hended, hlast⟩

/-- the clock goes on -/
theorem Attends.later (h : Attends l t now c fs x) {time : ℕ} (hle : now ≤ time)
    (hidle : ∀ pingAt, c.writer = .waiting pingAt → c.queue = []) (hdue : ∀ due, c.due? = some due → time ≤ due) :
    Attends l t time c fs x := by
  have hplace := h.place
  refine ⟨h.linked, h.kept, h.frames, h.written, ?_⟩
  cases hw : c.writer with
  | waiting pingAt =>
    simp only [WriteTask.At, hw, hidle pingAt hw, if_true] at hplace ⊢
    obtain ⟨hcurrent, hsince, hgoesOn, hping, hstart, -, havailable⟩ := hplace
    exact ⟨hcurrent, hsince, hgoesOn, hping, hstart.trans hle, hdue pingAt (by rw [Client.due?, hw]), havailable⟩
  | writing what deadline =>
    simp only [WriteTask.At, hw] at hplace ⊢
    obtain ⟨w, hcurrent, hwhat, hopen, rfl, hbegun, -⟩ := hplace
    exact ⟨w, hcurrent, hwhat, hopen, rfl, hbegun.trans hle, hdue _ (by rw [Client.due?, hw])⟩
  | done =>
    simp only [WriteTask.At, hw] at hplace ⊢
    exact hplace

end

theorem drop_queue (c : Client) : c.drop.queue = c.queue ∧ c.drop.written = c.written := by
  simp only [Client.drop]
  split_ifs <;> exact ⟨rfl, rfl⟩

theorem offer_queue (capacity : ℕ) (text : String) (c : Client) :
    (c.queue ≠ [] → (c.offer capacity text).queue ≠ []) ∧ (c.offer capacity text).written = c.written := by
  simp only [Client.offer]
  split_ifs
  · exact ⟨fun _ => by simp, rfl⟩
  · rw [(drop_queue c).1, (drop_queue c).2]
    exact ⟨id, rfl⟩

/-- **One act**, whatever it is to the client. -/
theorem step_attends {s : St} {a : Act} {i t : ℕ} {c c' : Client} {fs : List (ℕ × Outgoing)} {x : WriteTask}
    (hc : s.clients[i]? = some c) (h : Attends s.limits t s.now c fs x) (hstep : ClientStep s i a c c') :
    Attends s.limits t (step s a).now c' (fs ++ (c.begins c').toList.map fun what => (s.now, what))
      (x.after s.now a c c') := by
  have hnothing : c'.writer = c.writer → c'.written = c.written → (c.queue ≠ [] → c'.queue ≠ []) →
      Attends s.limits t s.now c' (fs ++ (c.begins c').toList.map fun what => (s.now, what)) (x.after s.now a c c') := by
    intro hwriter hwritten hqueue
    have hrest := h.rest a hwriter hwritten hqueue
    rw [begins_same hwriter]
    simpa using hrest
  rcases step_now s a with hnow | ⟨time, rfl, hcan, hnow⟩
  · rw [hnow]
    cases hstep with
    | idle quiet runs => exact hnothing rfl rfl id
    | offered said => exact hnothing (offer_writer _ _ c) (offer_queue _ _ c).2 (offer_queue _ _ c).1
    | stopped act => exact hnothing rfl rfl id
    | @took pingAt text rest act waits queued =>
      have hbegun := h.begin a { c with queue := rest, writer := s.begin (.message text) } waits rfl rfl
        (fun _ _ => by rw [queued]; simp) (by rintro ⟨⟩) (by rintro ⟨⟩)
      rw [begins_waiting waits rfl]
      exact hbegun
    | pinged act waits time =>
      have hbegun := h.begin a { c with writer := s.begin .ping } waits rfl rfl (by rintro _ ⟨⟩) (fun _ => time)
        (by rintro ⟨⟩)
      rw [begins_waiting waits rfl]
      exact hbegun
    | left act waits ended =>
      have hleaving : c.isLeaving = true := by
        rcases ended with hcancelled | ⟨hout, hempty⟩
        · simp [Client.isLeaving, hcancelled]
        · simp [Client.isLeaving, hout, hempty]
      have hbegun := h.begin a { c with writer := s.begin .close } waits rfl rfl (by rintro _ ⟨⟩) (by rintro ⟨⟩)
        (fun _ => hleaving)
      rw [begins_waiting waits rfl]
      exact hbegun
    | @wrote what deadline act writes goesOn =>
      subst act
      have hwrote := h.wrote (a := .wrote i) { c with writer := .waiting s.pingTime, written := c.written ++ [what] }
        rfl writes goesOn rfl rfl
      rw [begins_writing writes]
      simpa using hwrote
    | closed act writes =>
      subst act
      have hover := h.over (.wrote i) { c.drop with writer := .done, written := c.written ++ [.close] } writes
        (by rintro ⟨⟩) (Or.inl rfl) rfl rfl
      rw [begins_writing writes]
      simpa using hover
    | failed act writes =>
      subst act
      have hover := h.over (.broken i) { c.drop with writer := .done } writes (by rintro ⟨⟩)
        (Or.inr (by rintro ⟨⟩)) rfl (by simp [Act.fate, (drop_queue c).2])
      rw [begins_writing writes]
      simpa using hover
    | late act writes time =>
      subst act
      have hover := h.over (.late i) { c.drop with writer := .done } writes
        (by rintro - d ⟨⟩; exact time) (Or.inr (by rintro ⟨⟩)) rfl (by simp [Act.fate, (drop_queue c).2])
      rw [begins_writing writes]
      simpa using hover
    | hungUp act reads => exact hnothing (drop_writer c) (drop_queue c).2 (by rw [← (drop_queue c).1]; exact id)
    | endedRead act reads told => exact hnothing (drop_writer c) (drop_queue c).2 (by rw [← (drop_queue c).1]; exact id)
  · -- the clock goes on only while no message waits
    obtain rfl := clientStep_tick hstep
    obtain ⟨hbusy, hle, hdue⟩ := due_of_canTick hc hcan
    rw [hnow]
    refine (hnothing rfl rfl id).later hle ?_ hdue
    intro pingAt hw
    simp only [Client.isBusy, hw, Bool.or_eq_false_iff] at hbusy
    simpa using hbusy.2.1.1.2

/-- **A run.** -/
theorem run_attends {s : St} {i t : ℕ} {c : Client} {fs : List (ℕ × Outgoing)} {x : WriteTask}
    (hc : s.clients[i]? = some c) (h : Attends s.limits t s.now c fs x) (acts : List Act) :
    ∃ c', (run s acts).clients[i]? = some c' ∧
      Attends s.limits t (run s acts).now c' (fs ++ beginsIn i s acts) (taskIn i s x acts) := by
  induction acts generalizing s c fs x with
  | nil => exact ⟨c, hc, by rwa [beginsIn, List.append_nil]⟩
  | cons a acts ih =>
    obtain ⟨c', hc', hstep⟩ := step_client hc a
    have hnext := step_attends hc h hstep
    rw [← step_limits s a] at hnext
    obtain ⟨c'', hc'', hattends⟩ := ih hc' hnext
    have hafter : taskAfter i s x a = x.after s.now a c c' := by rw [taskAfter, hc, hc']
    have hbegins : beginsAt i s a = (c.begins c').toList.map fun what => (s.now, what) := by rw [beginsAt, hc, hc']
    refine ⟨c'', hc'', ?_⟩
    rw [taskIn, hafter, beginsIn, hbegins, ← List.append_assoc]
    rwa [step_limits] at hattends

end ServiceMonitor.Hub
