import ServiceMonitor.Proofs.Notifier.Delivery

/-!
What a backend that panics does to the others.

- `publish_log`: in either mode, and whatever else is under way, an event that is published adds the records of its delivery
  to the log.
- `one_panic`: if one backend panics, those that would end behind it do not end, and if it panics at once, those registered
  behind it do not even begin.
- `panic_cuts_off`: so a panic is not what a returned error is to the others.
-/

namespace ServiceMonitor.Notifier

open Bus (Dispatch)

/-! ## Runs of the manager -/

/-- what can happen to a manager -/
inductive Act where
  | register (b : Backend)
  | publish (e : Event)
  /-- the spawned deliveries begin -/
  | settle
  /-- the clock goes on -/
  | advance (ms : ℕ)
  | close

def St.act (s : St) : Act → St
  | .register b => s.register b
  | .publish e => s.publish e
  | .settle => s.settle
  | .advance ms => s.advanceTo (s.now + ms)
  | .close => s.close.1

def run (mode : Dispatch) (acts : List Act) : St := acts.foldl St.act (start mode)

/-- a publisher that waits leaves nothing under way -/
def St.Prompt (s : St) : Prop := s.mode = .sync → s.spawned = [] ∧ s.pending = []

section

variable {s : St}

/-- deliveries that begin leave the rest of the manager alone -/
theorem foldl_beginOne (es : List Event) (s : St) :
    (es.foldl St.beginOne s).mode = s.mode ∧ (es.foldl St.beginOne s).now = s.now ∧
      (es.foldl St.beginOne s).backends = s.backends := by
  induction es generalizing s with
  | nil => exact ⟨rfl, rfl, rfl⟩
  | cons e es ih => exact ih (s.beginOne e)

theorem settle_of_spawned (h : s.spawned = []) : s.settle = s := by
  obtain ⟨mode, now, subscribed, backends, spawned, pending, log⟩ := s
  subst h
  rfl

theorem advanceTo_log_of_pending (h : s.pending = []) (until_ : ℕ) : (s.advanceTo until_).log = s.log := by
  simp [St.advanceTo, h]

theorem closeOne_prompt (h : s.Prompt) (b : Backend) : (s.closeOne b).Prompt := by
  intro hmode
  obtain ⟨hspawned, hpending⟩ := h hmode
  exact ⟨hspawned, by simp [St.closeOne, St.advanceTo, hpending]⟩

theorem close_prompt (h : s.Prompt) (bs : List Backend) : (bs.foldl St.closeOne s).Prompt := by
  induction bs generalizing s with
  | nil => exact h
  | cons b bs ih => exact ih (closeOne_prompt h b)

theorem act_prompt (h : s.Prompt) (a : Act) : (s.act a).Prompt := by
  cases a with
  | register b => exact h
  | publish e =>
    simp only [St.act, St.publish]
    split_ifs
    · exact h
    · cases hmode : s.mode with
      | async => rintro ⟨⟩
      | sync => exact fun _ => h hmode
  | settle =>
    intro hmode
    have hsync : s.mode = .sync := (foldl_beginOne s.spawned { s with spawned := [] }).1.symm.trans hmode
    rw [St.act, settle_of_spawned (h hsync).1]
    exact h hsync
  | advance ms =>
    intro hmode
    obtain ⟨hspawned, hpending⟩ := h hmode
    exact ⟨hspawned, by simp [St.act, St.advanceTo, hpending]⟩
  | close => exact close_prompt (s := { s with subscribed := false, backends := [] }) h s.backends

theorem run_prompt (mode : Dispatch) (acts : List Act) : (run mode acts).Prompt := by
  induction acts using List.reverseRecOn with
  | nil => exact fun _ => ⟨rfl, rfl⟩
  | append_singleton acts a ih =>
    rw [run, List.foldl_append]
    exact act_prompt ih a

/-- **One event.** Publishing an event adds the records of its delivery to what is logged without it, in either mode. -/
theorem publish_log (e : Event) (h : s.Prompt) (hsub : s.subscribed = true) {until_ : ℕ}
    (hlate : ∀ b ∈ s.backends, s.now + b.delay ≤ until_) :
    ((s.publish e).settle.advanceTo until_).log.Perm
      ((s.settle.advanceTo until_).log ++ ((deliver s.now e s.backends).1 ++ (deliver s.now e s.backends).2)) := by
  have hdue := deliver_due s.now e hlate
  cases hmode : s.mode with
  | sync =>
    obtain ⟨hspawned, hpending⟩ := h hmode
    have hpublish : (s.publish e).spawned = [] ∧ (s.publish e).pending = [] ∧
        (s.publish e).log = s.log ++ (deliver s.now e s.backends).1 ++ (deliver s.now e s.backends).2 := by
      simp [St.publish, hsub, hmode, hspawned, hpending]
    obtain ⟨hspawned', hpending', hlog⟩ := hpublish
    rw [settle_of_spawned hspawned, settle_of_spawned hspawned', advanceTo_log_of_pending hpending,
      advanceTo_log_of_pending hpending', hlog, List.append_assoc]
  | async =>
    have hpublish : s.publish e = { s with spawned := s.spawned ++ [e] } := by simp [St.publish, hsub, hmode]
    have hsettle : (s.publish e).settle = s.settle.beginOne e := by
      rw [hpublish, St.settle, List.foldl_append]
      rfl
    obtain ⟨-, hnow, hbackends⟩ := foldl_beginOne s.spawned { s with spawned := [] }
    have hnow' : s.settle.now = s.now := hnow
    have hbackends' : s.settle.backends = s.backends := hbackends
    have hduefilter : (deliver s.now e s.backends).2.filter (·.time ≤ until_) = (deliver s.now e s.backends).2 :=
      List.filter_eq_self.2 fun r hr => decide_eq_true (hdue r hr)
    rw [hsettle, St.advanceTo, St.advanceTo, St.beginOne, hnow', hbackends']
    simp only [List.filter_append, hduefilter, List.append_assoc]
    generalize (deliver s.now e s.backends).1 = now
    generalize (deliver s.now e s.backends).2 = later
    generalize s.settle.pending.filter (·.time ≤ until_) = due
    refine List.Perm.append_left _ ?_
    calc
      List.Perm (now ++ (due ++ later).mergeSort fun a b => a.time ≤ b.time) (now ++ (due ++ later)) :=
        (List.mergeSort_perm _ _).append_left now
      List.Perm _ (due ++ (now ++ later)) := List.perm_append_comm_assoc now due later
      List.Perm _ ((due.mergeSort fun a b => a.time ≤ b.time) ++ (now ++ later)) :=
        (List.mergeSort_perm _ _).symm.append_right (now ++ later)

/-- **One panic.** Let one of the backends panic, at once or after its delay, and the others return, with errors or without.
In either mode, behind every run, an event that is published adds to the log: all backends begin, or, if the one panics at
once, those registered up to it; those end, each after its own delay, that have a shorter delay than the one that panics, or its
delay and were registered before it; and nothing else. -/
theorem one_panic (mode : Dispatch) (acts : List Act) (e : Event) {bs bs' : List Backend} {b : Backend} {until_ : ℕ}
    (hpanics : b.ending = .panics) (hothers : ∀ a ∈ bs ++ bs', a.ending ≠ .panics)
    (hlate : ∀ a ∈ bs ++ b :: bs', (run mode acts).now + a.delay ≤ until_) :
    let s := run mode acts
    s.subscribed = true → s.backends = bs ++ b :: bs' →
      ∃ rs, ((s.publish e).settle.advanceTo until_).log.Perm ((s.settle.advanceTo until_).log ++ rs) ∧
        rs.filter (·.moment.isBegin) = (if b.delay = 0 then bs ++ [b] else bs ++ b :: bs').map (began s.now e) ∧
        (rs.filter (·.moment.isEnd)).Perm
          ((bs.filter (·.delay ≤ b.delay) ++ b :: bs'.filter (·.delay < b.delay)).map (ended s.now e)) ∧
        ∀ r ∈ rs, r.moment.isBegin = true ∨ r.moment.isEnd = true := by
  intro s hsub hbackends
  have hlog := publish_log e (run_prompt mode acts) hsub (hbackends ▸ hlate)
  obtain ⟨hbegins, hends, hnothing⟩ := deliver_notified s.now e s.backends
  refine ⟨_, hlog, ?_, ?_, hnothing⟩
  · have hfirst : ∀ a ∈ bs, a.panicsAtOnce = false := by
      intro a ha
      simp [Backend.panicsAtOnce, Backend.panics, hothers a (List.mem_append_left bs' ha)]
    have hafter : ∀ a ∈ bs', a.panicsAtOnce = false := by
      intro a ha
      simp [Backend.panicsAtOnce, Backend.panics, hothers a (List.mem_append_right bs ha)]
    rw [hbegins, hbackends, upTo_append hfirst, upTo, upTo_eq_self hafter, Backend.panicsAtOnce, Backend.panics, hpanics]
    by_cases hb : b.delay = 0 <;> simp [hb]
  · obtain ⟨front, back, hsplit, hperm⟩ := byDelay_split bs bs' b
    have hfront : ∀ a ∈ front, a.panics = false := by
      intro a ha
      have hmem : a ∈ bs ++ bs' := by
        rcases List.mem_append.1 (hperm.mem_iff.1 ha) with ha | ha
        · exact List.mem_append_left bs' (List.mem_filter.1 ha).1
        · exact List.mem_append_right bs (List.mem_filter.1 ha).1
      simpa [Backend.panics] using hothers a hmem
    have hb : b.panics = true := by rw [Backend.panics, hpanics]; rfl
    rw [hends, hbackends, hsplit, upTo_append hfront, upTo, hb, if_pos rfl]
    refine List.Perm.map _ (List.Perm.trans ?_ List.perm_middle.symm)
    exact (List.perm_append_singleton b front).trans (hperm.cons b)

end

/-! ## A panic is not an error -/

/-- it answers at once -/
def shaky (ending : Ending) : Backend := ⟨"shaky", 0, ending, 0, none, false⟩

/-- it answers before `steady` does -/
def slow (ending : Ending) : Backend := ⟨"slow", 5, ending, 0, none, false⟩

def steady : Backend := ⟨"steady", 10, .returns, 0, none, false⟩

def news : Event := ⟨.recovered "nas", .epoch⟩

theorem one_panic_slow :
    let s := run .async [.register (slow .panics), .register steady, .register (shaky .returns)]
    (slow .panics).ending = .panics ∧ (∀ a ∈ [] ++ [steady, shaky .returns], a.ending ≠ .panics) ∧
    (∀ a ∈ [] ++ slow .panics :: [steady, shaky .returns], s.now + a.delay ≤ 10) ∧
    s.subscribed = true ∧ s.backends = [] ++ slow .panics :: [steady, shaky .returns] ∧
    ∃ rs, ((s.publish news).settle.advanceTo 10).log.Perm ((s.settle.advanceTo 10).log ++ rs) ∧
      rs.filter (·.moment.isBegin) = [slow .panics, steady, shaky .returns].map (began 0 news) ∧
      (rs.filter (·.moment.isEnd)).Perm ([slow .panics, shaky .returns].map (ended 0 news)) ∧
      ∀ r ∈ rs, r.moment.isBegin = true ∨ r.moment.isEnd = true := by
  have hothers : ∀ a ∈ [] ++ [steady, shaky .returns], a.ending ≠ .panics := by decide
  have hlate : ∀ a ∈ [] ++ slow .panics :: [steady, shaky .returns],
      (run .async [.register (slow .panics), .register steady, .register (shaky .returns)]).now + a.delay ≤ 10 := by decide
  exact ⟨rfl, hothers, hlate, rfl, rfl, one_panic .async _ news rfl hothers hlate rfl rfl⟩

/-- the records of an event handed to two backends, a while later -/
def logOf (mode : Dispatch) (b b' : Backend) : List Record :=
  (((run mode [.register b, .register b']).publish news).settle.advanceTo 100).log

/-- **A panic cuts the others off.** Whether one backend returns or fails, another begins at once and ends after its own delay.
If the one panics in place of that, the other does not end, and if it panics at once, the other does not even begin. -/
theorem panic_cuts_off :
    (∀ mode, ∀ ending ∈ [.returns, .fails .closed],
      logOf mode (shaky ending) steady =
        [began 0 news (shaky ending), ended 0 news (shaky ending), began 0 news steady, ended 0 news steady] ∧
      logOf mode (slow ending) steady =
        [began 0 news (slow ending), began 0 news steady, ended 0 news (slow ending), ended 0 news steady]) ∧
    ∀ mode,
      logOf mode (shaky .panics) steady = [began 0 news (shaky .panics), ended 0 news (shaky .panics)] ∧
      logOf mode (slow .panics) steady = [began 0 news (slow .panics), began 0 news steady, ended 0 news (slow .panics)] := by
  constructor <;> intro mode <;> cases mode <;>
    simp [logOf, run, start, St.act, St.register, St.publish, St.settle, St.beginOne, St.advanceTo, deliver, beginAll, endAll,
      byDelay, List.mergeSort, shaky, slow, steady, began, ended]

end ServiceMonitor.Notifier
