import ServiceMonitor.Proofs.Notifier.Joined

/-!
What is notified, and when, as events are published one after the other or at once.

A publisher that waits for the manager goes on when the slowest backend has ended, so that its next event finds nobody busy. One
that does not wait goes on at once, and the deliveries are under way side by side: each adds the same records to the log, those of its
begin in one block, whatever else happens.

- `acts_goOn`: where the publisher waits, what is recorded later is later.
- `act_beside`, `acts_beside`: where it does not, a delivery and everything else leave each other alone.
- `concurrent_delivery`: both, for backends that do not panic.
-/

namespace ServiceMonitor.Notifier

open Bus (Dispatch)

/-! ## Times -/

theorem deliver_times (t : ℕ) (e : Event) (bs : List Backend) :
    (∀ r ∈ (deliver t e bs).1, r.time = t) ∧ ∀ r ∈ (deliver t e bs).2, t < r.time := by
  constructor
  · intro r hr
    rw [deliver_eq] at hr
    obtain ⟨b, -, hb⟩ := List.mem_flatMap.1 hr
    rw [opening, List.mem_cons] at hb
    rcases hb with rfl | hb
    · rfl
    · split_ifs at hb with hdelay
      · rw [List.mem_singleton.1 hb, ended, hdelay]
        rfl
      · cases hb
  · intro r hr
    obtain ⟨b, -, hdelay, rfl⟩ := deliver_later t e hr
    exact Nat.lt_add_of_pos_right (Nat.pos_of_ne_zero hdelay)

theorem act_mode (s : St) (a : Act) : (s.act a).mode = s.mode := by
  cases a with
  | register b => rfl
  | publish e =>
    simp only [St.act, St.publish]
    split_ifs
    · rfl
    · cases hmode : s.mode <;> rfl
  | settle => exact (foldl_beginOne s.spawned { s with spawned := [] }).1
  | advance ms => rfl
  | close =>
    have hclose : ∀ (bs : List Backend) (s : St), (bs.foldl St.closeOne s).mode = s.mode := by
      intro bs
      induction bs with
      | nil => intro s; rfl
      | cons b bs ih => intro s; exact ih (s.closeOne b)
    exact hclose s.backends _

/-! ## A publisher that waits -/

/-- the log goes on with the clock -/
def GoesOn (s s' : St) : Prop :=
  ∃ rs, s'.log = s.log ++ rs ∧ s.now ≤ s'.now ∧ ∀ r ∈ rs, s.now ≤ r.time ∧ r.time ≤ s'.now

section

variable {s s' s'' : St}

theorem GoesOn.of_log (hlog : s'.log = s.log) (hnow : s.now ≤ s'.now) : GoesOn s s' :=
  ⟨[], by rw [hlog, List.append_nil], hnow, by simp⟩

theorem GoesOn.trans (h : GoesOn s s') (h' : GoesOn s' s'') : GoesOn s s'' := by
  obtain ⟨rs, hlog, hnow, htimes⟩ := h
  obtain ⟨rs', hlog', hnow', htimes'⟩ := h'
  refine ⟨rs ++ rs', by rw [hlog', hlog, List.append_assoc], hnow.trans hnow', ?_⟩
  intro r hr
  rcases List.mem_append.1 hr with hr | hr
  · exact ⟨(htimes r hr).1, (htimes r hr).2.trans hnow'⟩
  · exact ⟨hnow.trans (htimes' r hr).1, (htimes' r hr).2⟩

theorem closeOne_goOn (h : s.pending = []) (b : Backend) : GoesOn s (s.closeOne b) := by
  refine ⟨[⟨b, .closeBegin, s.now⟩, ⟨b, .closeEnd, s.now + b.closeDelay⟩], ?_, Nat.le_add_right _ _, ?_⟩
  · simp [St.closeOne, St.advanceTo, h]
  · intro r hr
    have hnow : (s.closeOne b).now = s.now + b.closeDelay := rfl
    rcases List.mem_pair.1 hr with rfl | rfl
    · exact ⟨le_rfl, hnow ▸ Nat.le_add_right _ _⟩
    · exact ⟨Nat.le_add_right _ _, hnow.ge⟩

theorem close_goOn (h : s.pending = []) (bs : List Backend) : GoesOn s (bs.foldl St.closeOne s) := by
  induction bs generalizing s with
  | nil => exact GoesOn.of_log rfl le_rfl
  | cons b bs ih =>
    have hpending : (s.closeOne b).pending = [] := by simp [St.closeOne, St.advanceTo, h]
    exact (closeOne_goOn h b).trans (ih hpending)

/-- the publisher goes on with the last record of the delivery -/
theorem publish_waits (hmode : s.mode = .sync) (hsub : s.subscribed = true) (e : Event) :
    s.publish e = { s with
      log := s.log ++ ((deliver s.now e s.backends).1 ++ (deliver s.now e s.backends).2)
      now := lastTime s.now (deliver s.now e s.backends).2 } := by
  simp [St.publish, hsub, hmode]

theorem publish_goOn (hmode : s.mode = .sync) (e : Event) : GoesOn s (s.publish e) := by
  cases hsub : s.subscribed with
  | false => exact GoesOn.of_log (by simp [St.publish, hsub]) (by simp [St.publish, hsub])
  | true =>
    obtain ⟨hfirst, hlater⟩ := deliver_times s.now e s.backends
    obtain ⟨hnow, hlast⟩ := lastTime_le s.now (deliver s.now e s.backends).2
    rw [publish_waits hmode hsub]
    refine ⟨_, rfl, hnow, ?_⟩
    intro r hr
    rcases List.mem_append.1 hr with hr | hr
    · rw [hfirst r hr]
      exact ⟨le_rfl, hnow⟩
    · exact ⟨(hlater r hr).le, hlast r hr⟩

/-- **One act** of a manager whose publishers wait. -/
theorem act_goOn (h : s.Prompt) (hmode : s.mode = .sync) (a : Act) : GoesOn s (s.act a) := by
  obtain ⟨hspawned, hpending⟩ := h hmode
  cases a with
  | register b => exact GoesOn.of_log rfl le_rfl
  | publish e => exact publish_goOn hmode e
  | settle =>
    rw [St.act, settle_of_spawned hspawned]
    exact GoesOn.of_log rfl le_rfl
  | advance ms => exact GoesOn.of_log (advanceTo_log_of_pending hpending _) (Nat.le_add_right _ _)
  | close => exact close_goOn (s := { s with subscribed := false, backends := [] }) hpending s.backends

/-- **Later is later**, where the publisher waits. -/
theorem acts_goOn (h : s.Prompt) (hmode : s.mode = .sync) (acts : List Act) : GoesOn s (acts.foldl St.act s) := by
  induction acts generalizing s with
  | nil => exact GoesOn.of_log rfl le_rfl
  | cons a acts ih =>
    exact (act_goOn h hmode a).trans (ih (act_prompt h a) ((act_mode s a).trans hmode))

theorem run_mode (mode : Dispatch) (acts : List Act) : (run mode acts).mode = mode := by
  induction acts using List.reverseRecOn with
  | nil => rfl
  | append_singleton acts a ih =>
    rw [run, List.foldl_append]
    exact (act_mode _ a).trans ih

/-- what is logged has happened -/
theorem run_past (acts : List Act) : ∀ r ∈ (run .sync acts).log, r.time ≤ (run .sync acts).now := by
  obtain ⟨rs, hlog, -, htimes⟩ := acts_goOn (s := start .sync) (fun _ => ⟨rfl, rfl⟩) rfl acts
  intro r hr
  apply (htimes r _).2
  rw [run, hlog] at hr
  simpa [start] using hr

/-- **Event after event**: each is handed to the backends when the slowest of them has ended with the one before. -/
theorem publish_each (hmode : s.mode = .sync) (hsub : s.subscribed = true) (hcalm : Calm s.backends) (es : List Event) :
    ∃ blocks : List (List Record), (es.foldl St.publish s).log = s.log ++ blocks.flatten ∧
      (es.foldl St.publish s).now = s.now + es.length * longest s.backends ∧ blocks.length = es.length ∧
      ∀ k e rs, es[k]? = some e → blocks[k]? = some rs →
        AllNotified (s.now + k * longest s.backends) e s.backends rs := by
  induction es generalizing s with
  | nil => exact ⟨[], by simp, by simp, rfl, by simp⟩
  | cons e es ih =>
    obtain ⟨hall, hlast⟩ := deliver_all s.now e hcalm
    have hpublish := publish_waits hmode hsub e
    generalize (deliver s.now e s.backends).1 ++ (deliver s.now e s.backends).2 = first at hall hpublish
    rw [hlast] at hpublish
    rw [List.foldl_cons, hpublish]
    obtain ⟨blocks, hlog, hnow, hlength, hblocks⟩ :=
      ih (s := { s with log := s.log ++ first, now := s.now + longest s.backends }) hmode hsub hcalm
    have htime : ∀ k, s.now + longest s.backends + k * longest s.backends = s.now + (k + 1) * longest s.backends := by
      intro k
      rw [Nat.succ_mul, Nat.add_assoc, Nat.add_comm (longest s.backends)]
    refine ⟨first :: blocks, ?_, ?_, ?_, ?_⟩
    · rw [hlog, List.flatten_cons, List.append_assoc]
    · rw [hnow, htime, List.length_cons]
    · rw [List.length_cons, List.length_cons, hlength]
    · intro k e' rs he hrs
      cases k with
      | zero =>
        cases he
        cases hrs
        rwa [Nat.zero_mul, Nat.add_zero]
      | succ k =>
        rw [← htime]
        exact hblocks k e' rs he hrs

/-! ## A publisher that does not wait -/

/-- events that are published at once are spawned -/
theorem publish_spawns (hmode : s.mode = .async) (hsub : s.subscribed = true) (es : List Event) :
    es.foldl St.publish s = { s with spawned := s.spawned ++ es } := by
  induction es generalizing s with
  | nil => simp
  | cons e es ih =>
    have hpublish : s.publish e = { s with spawned := s.spawned ++ [e] } := by simp [St.publish, hsub, hmode]
    rw [List.foldl_cons, hpublish, ih (s := { s with spawned := s.spawned ++ [e] }) hmode hsub]
    simp

/-- a manager beside one that has a delivery more: the first records of it stand together behind `before`, the later ones
are logged each at its time -/
structure Beside (before first later : List Record) (s s' : St) : Prop where
  mode : s'.mode = s.mode
  now : s'.now = s.now
  subscribed : s'.subscribed = s.subscribed
  backends : s'.backends = s.backends
  spawned : s'.spawned = s.spawned
  log : ∃ behind behind', s.log = before ++ behind ∧ s'.log = before ++ first ++ behind' ∧
    behind'.Perm (behind ++ later.filter (·.time ≤ s.now))
  pending : s'.pending.Perm (s.pending ++ later.filter (s.now < ·.time))

variable {before first later : List Record}

/-- more may be logged and be under way -/
theorem Beside.more (h : Beside before first later s s') (now soon : List Record) :
    Beside before first later { s with log := s.log ++ now, pending := s.pending ++ soon }
      { s' with log := s'.log ++ now, pending := s'.pending ++ soon } where
  mode := h.mode
  now := h.now
  subscribed := h.subscribed
  backends := h.backends
  spawned := h.spawned
  log := by
    obtain ⟨behind, behind', hlog, hlog', hbehind⟩ := h.log
    refine ⟨behind ++ now, behind' ++ now, ?_, ?_, ?_⟩
    · rw [hlog, List.append_assoc]
    · rw [hlog', List.append_assoc]
    · have hnow := hbehind.append_right now
      rw [List.append_assoc] at hnow
      rw [List.append_assoc]
      exact hnow.trans (List.perm_append_comm.append_left behind)
  pending := by
    have hpending := h.pending.append_right soon
    rw [List.append_assoc] at hpending
    rw [List.append_assoc]
    exact hpending.trans (List.perm_append_comm.append_left s.pending)

theorem Beside.log_snoc (h : Beside before first later s s') (r : Record) :
    Beside before first later { s with log := s.log ++ [r] } { s' with log := s'.log ++ [r] } := by
  have hmore := h.more [r] []
  simpa only [List.append_nil] using hmore

theorem Beside.beginOne (h : Beside before first later s s') (e : Event) :
    Beside before first later (s.beginOne e) (s'.beginOne e) := by
  have hmore := h.more (deliver s.now e s.backends).1 (deliver s.now e s.backends).2
  simpa only [St.beginOne, h.now, h.backends] using hmore

theorem Beside.beginAll (h : Beside before first later s s') (es : List Event) :
    Beside before first later (es.foldl St.beginOne s) (es.foldl St.beginOne s') := by
  induction es generalizing s s' with
  | nil => exact h
  | cons e es ih => exact ih (h.beginOne e)

@[simp]
theorem advanceTo_now (s : St) (t : ℕ) : (s.advanceTo t).now = t := rfl

/-- what is due up to now, and then up to a later time -/
theorem filter_time_split (rs : List Record) {n t : ℕ} (h : n ≤ t) :
    (rs.filter (·.time ≤ n) ++ (rs.filter (n < ·.time)).filter (·.time ≤ t)).Perm (rs.filter (·.time ≤ t)) := by
  have hold : (rs.filter (·.time ≤ t)).filter (·.time ≤ n) = rs.filter (·.time ≤ n) := by
    rw [List.filter_filter]
    refine List.filter_congr fun r _ => ?_
    rw [← Bool.decide_and, decide_eq_decide]
    omega
  have hnew : (rs.filter (·.time ≤ t)).filter (fun r => !decide (r.time ≤ n)) =
      (rs.filter (n < ·.time)).filter (·.time ≤ t) := by
    rw [List.filter_filter, List.filter_filter]
    refine List.filter_congr fun r _ => ?_
    rw [← decide_not, ← Bool.decide_and, ← Bool.decide_and, decide_eq_decide]
    omega
  rw [← hold, ← hnew]
  exact List.filter_append_perm _ _

/-- the clock brings the records of the delivery that are due -/
theorem Beside.advanceTo (h : Beside before first later s s') {t : ℕ} (ht : s.now ≤ t) :
    Beside before first later (s.advanceTo t) (s'.advanceTo t) where
  mode := h.mode
  now := rfl
  subscribed := h.subscribed
  backends := h.backends
  spawned := h.spawned
  log := by
    obtain ⟨behind, behind', hlog, hlog', hbehind⟩ := h.log
    have hsplit := filter_time_split later ht
    have hdue := h.pending.filter (·.time ≤ t)
    rw [List.filter_append] at hdue
    simp only [St.advanceTo, hlog, hlog']
    generalize s.pending.filter (·.time ≤ t) = due at hdue ⊢
    generalize s'.pending.filter (·.time ≤ t) = due' at hdue ⊢
    generalize (later.filter (s.now < ·.time)).filter (·.time ≤ t) = new at hdue hsplit
    have hsorted : ∀ l : List Record, (l.mergeSort fun a b => a.time ≤ b.time).Perm l := fun l => List.mergeSort_perm l _
    refine ⟨_, _, List.append_assoc _ _ _, List.append_assoc _ _ _, ?_⟩
    calc
      List.Perm (behind' ++ due'.mergeSort fun a b => a.time ≤ b.time)
          ((behind ++ later.filter (·.time ≤ s.now)) ++ (due ++ new)) := hbehind.append ((hsorted due').trans hdue)
      List.Perm _ ((behind ++ due) ++ (later.filter (·.time ≤ s.now) ++ new)) := by
        rw [List.append_assoc, List.append_assoc]
        exact (List.perm_append_comm_assoc _ due new).append_left behind
      List.Perm _ ((behind ++ due.mergeSort fun a b => a.time ≤ b.time) ++ later.filter (·.time ≤ t)) :=
        ((hsorted due).symm.append_left behind).append hsplit
  pending := by
    have hleft := h.pending.filter (t < ·.time)
    have hlate : (later.filter (s.now < ·.time)).filter (t < ·.time) = later.filter (t < ·.time) := by
      rw [List.filter_filter]
      refine List.filter_congr fun r _ => ?_
      rw [← Bool.decide_and, decide_eq_decide]
      omega
    rwa [List.filter_append, hlate] at hleft

theorem Beside.closeOne (h : Beside before first later s s') (b : Backend) :
    Beside before first later (s.closeOne b) (s'.closeOne b) := by
  have hbegan := h.log_snoc ⟨b, .closeBegin, s.now⟩
  have hwaited := hbegan.advanceTo (t := s.now + b.closeDelay) (Nat.le_add_right _ _)
  have hended := hwaited.log_snoc ⟨b, .closeEnd, s.now + b.closeDelay⟩
  simpa only [St.closeOne, h.now, advanceTo_now] using hended

theorem Beside.closeAll (h : Beside before first later s s') (bs : List Backend) :
    Beside before first later (bs.foldl St.closeOne s) (bs.foldl St.closeOne s') := by
  induction bs generalizing s s' with
  | nil => exact h
  | cons b bs ih => exact ih (h.closeOne b)

/-- **One act** leaves a delivery that is under way alone, and the other way round. -/
theorem act_beside (hmode : s.mode = .async) (h : Beside before first later s s') (a : Act) :
    Beside before first later (s.act a) (s'.act a) := by
  cases a with
  | register b => exact { h with backends := congrArg (· ++ [b]) h.backends }
  | publish e =>
    cases hsub : s.subscribed with
    | false =>
      have hdeaf : s.publish e = s ∧ s'.publish e = s' := by simp [St.publish, h.subscribed, hsub]
      rw [St.act, St.act, hdeaf.1, hdeaf.2]
      exact h
    | true =>
      have hspawns : s.act (.publish e) = { s with spawned := s.spawned ++ [e] } := publish_spawns hmode hsub [e]
      have hspawns' : s'.act (.publish e) = { s' with spawned := s'.spawned ++ [e] } :=
        publish_spawns (h.mode.trans hmode) (h.subscribed.trans hsub) [e]
      rw [hspawns, hspawns']
      exact { h with spawned := congrArg (· ++ [e]) h.spawned }
  | settle =>
    have hbegun : Beside before first later { s with spawned := [] } { s' with spawned := [] } := { h with spawned := rfl }
    simp only [St.act, St.settle, h.spawned]
    exact hbegun.beginAll s.spawned
  | advance ms =>
    simp only [St.act, h.now]
    exact h.advanceTo (Nat.le_add_right _ _)
  | close =>
    have hemptied : Beside before first later { s with subscribed := false, backends := [] }
        { s' with subscribed := false, backends := [] } := { h with subscribed := rfl, backends := rfl }
    simp only [St.act, St.close, h.backends]
    exact hemptied.closeAll s.backends

/-- **Side by side**, where the publisher does not wait. -/
theorem acts_beside (hmode : s.mode = .async) (h : Beside before first later s s') (acts : List Act) :
    Beside before first later (acts.foldl St.act s) (acts.foldl St.act s') := by
  induction acts generalizing s s' with
  | nil => exact h
  | cons a acts ih => exact ih ((act_mode s a).trans hmode) (act_beside hmode h a)

/-- a delivery that begins -/
theorem beginOne_beside (s : St) (e : Event) :
    Beside s.log (deliver s.now e s.backends).1 (deliver s.now e s.backends).2 s (s.beginOne e) := by
  obtain ⟨-, hlater⟩ := deliver_times s.now e s.backends
  have hnone : (deliver s.now e s.backends).2.filter (·.time ≤ s.now) = [] := by
    rw [List.filter_eq_nil_iff]
    intro r hr
    simpa using hlater r hr
  have hall : (deliver s.now e s.backends).2.filter (s.now < ·.time) = (deliver s.now e s.backends).2 :=
    List.filter_eq_self.2 fun r hr => decide_eq_true (hlater r hr)
  refine { mode := rfl, now := rfl, subscribed := rfl, backends := rfl, spawned := rfl, log := ⟨[], [], ?_⟩, pending := ?_ }
  · rw [hnone]
    simp [St.beginOne]
  · rw [hall]
    simp [St.beginOne]

/-- one of the events that are published at once begins with its delivery beside the others -/
theorem publish_beside (hmode : s.mode = .async) (hsub : s.subscribed = true) (e : Event) (es : List Event) :
    Beside s.settle.log (deliver s.now e s.backends).1 (deliver s.now e s.backends).2
      (es.foldl St.publish s).settle ((e :: es).foldl St.publish s).settle := by
  rw [publish_spawns hmode hsub, publish_spawns hmode hsub, St.settle, St.settle, St.settle]
  simp only [List.foldl_append, List.foldl_cons]
  apply Beside.beginAll
  obtain ⟨-, hnow, hbackends⟩ := foldl_beginOne s.spawned { s with spawned := [] }
  have hbegun := beginOne_beside (s.spawned.foldl St.beginOne { s with spawned := [] }) e
  rw [hnow, hbackends] at hbegun
  exact hbegun

/-! ## Both -/

/-- **Concurrent delivery.** Let the manager be subscribed, whatever has happened to it, and let none of its backends panic. Where
publishers wait, a publisher's events are handed to the backends one after the other: each is published when the slowest backend
has ended with the one before, and the last call returns when it has ended with the last one. Everything that is logged before or
behind is earlier or later. Where they do not wait, the call returns at once, and whatever else is published at that time and
happens later, the log has just the records of the delivery more that are due: what is recorded at once stands together, with
all backends in the order they were registered, behind what had been spawned before, and the rest follows each at its time. In
both cases all backends begin at the time of the call, as they were registered, and each ends after its own delay. -/
theorem concurrent_delivery (mode : Dispatch) (acts : List Act) :
    let s := run mode acts
    s.subscribed = true → Calm s.backends →
      (mode = .sync → ∀ es : List Event, ∃ blocks : List (List Record),
        (es.foldl St.publish s).now = s.now + es.length * longest s.backends ∧
        (es.foldl St.publish s).log = s.log ++ blocks.flatten ∧ blocks.length = es.length ∧
        (∀ k e rs, es[k]? = some e → blocks[k]? = some rs →
          AllNotified (s.now + k * longest s.backends) e s.backends rs) ∧
        (∀ r ∈ s.log, r.time ≤ s.now) ∧
        ∀ more : List Act, ∃ later, (more.foldl St.act (es.foldl St.publish s)).log = s.log ++ blocks.flatten ++ later ∧
          ∀ r ∈ later, s.now + es.length * longest s.backends ≤ r.time) ∧
      (mode = .async → ∀ e : Event, (s.publish e).now = s.now ∧ (s.publish e).log = s.log ∧
        ∃ first later, AllNotified s.now e s.backends (first ++ later) ∧ (∀ r ∈ first, r.time = s.now) ∧
          (∀ r ∈ later, s.now < r.time) ∧ ∀ (es : List Event) (more : List Act),
            let without := more.foldl St.act (es.foldl St.publish s).settle
            let published := more.foldl St.act (es.foldl St.publish (s.publish e)).settle
            published.now = without.now ∧ ∃ behind behind', without.log = s.settle.log ++ behind ∧
              published.log = s.settle.log ++ first ++ behind' ∧
              behind'.Perm (behind ++ later.filter (·.time ≤ without.now))) := by
  intro s hsub hcalm
  have hmode : s.mode = mode := run_mode mode acts
  constructor
  · rintro rfl es
    obtain ⟨blocks, hlog, hnow, hlength, hblocks⟩ := publish_each hmode hsub hcalm es
    -- publishing is one of the acts, so what holds of every run holds behind the events
    have hrun : es.foldl St.publish s = run .sync (acts ++ es.map .publish) := by
      rw [run, List.foldl_append, List.foldl_map]
      rfl
    have hprompt : (es.foldl St.publish s).Prompt := hrun ▸ run_prompt _ _
    have hsync : (es.foldl St.publish s).mode = .sync := hrun ▸ run_mode _ _
    refine ⟨blocks, hnow, hlog, hlength, hblocks, run_past acts, fun more => ?_⟩
    obtain ⟨later, hmore, -, htimes⟩ := acts_goOn hprompt hsync more
    refine ⟨later, by rw [hmore, hlog], ?_⟩
    intro r hr
    rw [← hnow]
    exact (htimes r hr).1
  · rintro rfl e
    have hpublish : s.publish e = { s with spawned := s.spawned ++ [e] } := publish_spawns hmode hsub [e]
    obtain ⟨hfirst, hlater⟩ := deliver_times s.now e s.backends
    refine ⟨by rw [hpublish], by rw [hpublish], _, _, (deliver_all s.now e hcalm).1, hfirst, hlater, ?_⟩
    intro es more
    have hsettled : (es.foldl St.publish s).settle.mode = .async := by
      rw [publish_spawns hmode hsub]
      exact (foldl_beginOne _ _).1.trans hmode
    have hbeside := acts_beside hsettled (publish_beside hmode hsub e es) more
    exact ⟨hbeside.now, hbeside.log⟩

/-- a backend that fails and one that is slower -/
def pair : List Backend := [slow (.fails .closed), steady]

theorem concurrent_delivery_pair :
    let s := fun mode => run mode (pair.map Act.register)
    (∀ mode, (s mode).subscribed = true ∧ Calm (s mode).backends) ∧
    ([news, news].foldl St.publish (s .sync)).now = 20 ∧
    (∃ rs rs', ([news, news].foldl St.publish (s .sync)).log = rs ++ rs' ∧ AllNotified 0 news pair rs ∧
      AllNotified 10 news pair rs') ∧
    ((s .async).publish news).now = 0 ∧
    (∃ first later behind, AllNotified 0 news pair (first ++ later) ∧
      (((s .async).publish news).settle.act (.advance 7)).log = first ++ behind ∧
      behind.Perm (later.filter (·.time ≤ 7))) ∧
    (([news, news].foldl St.publish (s .async)).settle.log.filter (·.moment.isBegin)) =
      pair.map (began 0 news) ++ pair.map (began 0 news) := by
  intro s
  have hready : ∀ mode, (s mode).subscribed = true ∧ Calm (s mode).backends := by
    intro mode
    refine ⟨rfl, fun b hb => ?_⟩
    rcases List.mem_pair.1 hb with rfl | rfl <;> decide
  obtain ⟨hsync, -⟩ := concurrent_delivery .sync (pair.map Act.register) (hready .sync).1 (hready .sync).2
  obtain ⟨-, hasync⟩ := concurrent_delivery .async (pair.map Act.register) (hready .async).1 (hready .async).2
  obtain ⟨blocks, hnow, hlog, hlength, hblocks, -⟩ := hsync rfl [news, news]
  obtain ⟨hnow', -, first, later, hall, -, -, hmore⟩ := hasync rfl news
  obtain ⟨rs₁, rs₂, rfl⟩ := List.length_eq_two.1 hlength
  have htwo : [rs₁, rs₂].flatten = rs₁ ++ rs₂ := by simp
  obtain ⟨-, behind, behind', hwithout, hpublished, hbehind⟩ := hmore [] [.advance 7]
  have hempty : (s .async).settle.log = [] := rfl
  -- without the event nothing is logged
  have hnone : behind = [] := by
    have hlog' : ((s .async).settle.act (.advance 7)).log = [] := advanceTo_log_of_pending rfl 7
    exact (List.append_eq_nil_iff.1 (hwithout.symm.trans hlog')).2
  rw [hempty, List.nil_append] at hpublished
  rw [hnone, List.nil_append] at hbehind
  refine ⟨hready, hnow, ⟨rs₁, rs₂, ?_, hblocks 0 news rs₁ rfl rfl, hblocks 1 news rs₂ rfl rfl⟩, hnow',
    ⟨first, later, behind', hall, hpublished, hbehind⟩, by decide⟩
  exact hlog.trans htwo

end

end ServiceMonitor.Notifier
