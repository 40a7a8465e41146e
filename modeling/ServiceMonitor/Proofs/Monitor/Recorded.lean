import ServiceMonitor.Proofs.Bus.Recorder
import ServiceMonitor.Proofs.Monitor.Published

/-!
A monitor that publishes on a synchronous bus, and what a recorder on it gets.

Each worker publishes in its own task: it goes on only when every subscriber has ended with its change (`Feed.step`).
Workers of different targets publish at the same time, turn by turn in any order, so the recorder gets their changes
mixed; those of one host come from one worker.

- `step_fed`: what the recorder has noted of a host, and is still due of the worker that publishes, is what the log
  holds of the host.
- `recorded_attempts`: what the recorder gets of a host is what the watch makes of the attempts of its worker.
-/

namespace ServiceMonitor.Monitor

open Bus (Code turn due Tame)

/-! ## A monitor on a bus -/

/-- what the monitor did so far, the bus, and what the subscribers have still to do with the change of each worker -/
structure Feed where
  acts : List Act
  bus : Bus.St
  sending : ℕ → Code

/-- one thing that happens -/
inductive Move where
  | monitor (a : Act)
  /-- a subscriber that worker `i` waits for goes on -/
  | send (i : ℕ)

/-- the change that an act makes the monitor publish -/
def published? (c : Setup) (s : St) (a : Act) : Option Change := ((step c s a).log.drop s.log.length).head?.map (·.2)

namespace Feed

def start (bus : Bus.St) : Feed := ⟨[], bus, fun _ => []⟩

/-- the monitor's own state -/
def monitor (c : Setup) (f : Feed) : St := Monitor.run c (Monitor.start c) f.acts

/-- the n-th change is published with the n-th time stamp; its worker does not go on before every subscriber is
through -/
def step (c : Setup) (stamp : ℕ → Timestamp) (f : Feed) : Move → Feed
  | .monitor (.go i) =>
    match f.sending i, published? c (f.monitor c) (.go i) with
    | [], none => { f with acts := f.acts ++ [.go i] }
    | [], some ch =>
      let (bus, code) := f.bus.publish ⟨ch, stamp (f.monitor c).log.length⟩ []
      ⟨f.acts ++ [.go i], bus, Function.update f.sending i code⟩
    | _ :: _, _ => f
  | .monitor a => { f with acts := f.acts ++ [a] }
  | .send i =>
    match f.sending i with
    | [] => f
    | instr :: code =>
      { f with
        bus := (turn f.bus instr code).1
        sending := Function.update f.sending i (turn f.bus instr code).2 }

def run (c : Setup) (stamp : ℕ → Timestamp) (f : Feed) (moves : List Move) : Feed := moves.foldl (step c stamp) f

end Feed

/-! ## What an act publishes -/

theorem published?_append {c : Setup} {s : St} {a : Act} {change : Option Change}
    (h : (step c s a).log = s.log ++ (change.map fun ch => (s.now, ch)).toList) : published? c s a = change := by
  rw [published?, h, List.drop_left]
  cases change <;> rfl

/-- a worker that goes on publishes at most one change, on its own host, and then is reporting -/
theorem go_published (c : Setup) (s : St) (j : ℕ) :
    (step c s (.go j)).log = s.log ++ ((published? c s (.go j)).map fun ch => (s.now, ch)).toList ∧
      ∀ ch, published? c s (.go j) = some ch →
        (∃ t, c.targets[j]? = some t ∧ ch.host = t.host) ∧
          ((step c s (.go j)).workerAt j).phase.isReporting = true := by
  rcases step_go_cases c s j with ⟨t, w, ht, hw, -, hstep⟩ | ⟨-, hstep⟩
  · have hlog : (step c s (.go j)).log =
        s.log ++ ((w.go c.policy (c.hold s.log.length) t s.now s.tracker).2.2.map fun ch => (s.now, ch)).toList := by
      rw [hstep]
    rw [published?_append hlog]
    refine ⟨hlog, fun ch hch => ?_⟩
    have hworker : (step c s (.go j)).workerAt j = (w.go c.policy (c.hold s.log.length) t s.now s.tracker).1 :=
      workerAt_set hw (by rw [hstep])
    rcases go_cases c.policy (c.hold s.log.length) t s.now s.tracker w with ⟨_, r, rs, next, busy, -, hgo⟩ | ⟨-, hgo⟩
    · rw [hgo] at hch hworker
      exact ⟨⟨t, ht, tell_host hch⟩, by rw [hworker]; rfl⟩
    · rw [hgo] at hch
      cases hch
  · have hlog : (step c s (.go j)).log = s.log ++ ((none : Option Change).map fun ch => (s.now, ch)).toList := by
      rw [hstep]; simp
    rw [published?_append hlog]
    exact ⟨hlog, by rintro ch ⟨⟩⟩

theorem other_log {c : Setup} {s : St} {a : Act} (ha : ∀ j, a ≠ .go j) : (step c s a).log = s.log := by
  cases a with
  | go j => exact absurd rfl (ha j)
  | start => simp only [step]; split <;> rfl
  | stop => rfl
  | quit j => simp only [step]; split; split_ifs <;> rfl; rfl
  | tick time => simp only [step]; split_ifs <;> rfl

/-- nothing but its own next step takes a worker away from its reports -/
theorem reporting_stays {c : Setup} {s : St} {a : Act} {j : ℕ} (ha : a ≠ .go j)
    (hidle : s.lifecycle = .idle → s.workers = []) (hr : (s.workerAt j).phase.isReporting = true) :
    ((step c s a).workerAt j).phase.isReporting = true := by
  cases a with
  | start =>
    cases hl : s.lifecycle with
    | idle => simp [St.workerAt, hidle hl, Worker.spawned, Phase.isReporting] at hr
    | running => simpa [step, hl] using hr
    | stopped => simpa [step, hl] using hr
  | stop => exact hr
  | tick time => simp only [step]; split_ifs <;> exact hr
  | go k =>
    have hne : k ≠ j := by rintro rfl; exact ha rfl
    rcases step_go_cases c s k with ⟨t, w, -, -, -, hstep⟩ | ⟨-, hstep⟩
    · rw [hstep, workerAt_set_ne hne rfl]; exact hr
    · rw [hstep]; exact hr
  | quit k =>
    simp only [step]
    cases hw : s.workers[k]? with
    | none => exact hr
    | some w =>
      by_cases hq : s.mustQuit w = true
      · by_cases hne : k = j
        · subst hne
          rw [workerAt_eq hw] at hr
          simp only [St.mustQuit, Bool.and_eq_true] at hq
          rw [waiting_not_reporting hq.2] at hr
          cases hr
        · simp only [hq, if_true]
          rw [workerAt_set_ne hne rfl]; exact hr
      · simpa [hq] using hr

/-! ## The recorder and the log -/

/-- what the recorder is due of worker `j` is on the host of its target -/
def OnHost (c : Setup) (label : String) (j : ℕ) (code : Code) : Prop :=
  ∀ e ∈ due label code, ∃ t, c.targets[j]? = some t ∧ e.host = t.host

/-- what the recorder has of a host, and is due of its worker, is what the log holds of it -/
structure Fed (c : Setup) (label : String) (i : ℕ) (t : Target) (f : Feed) : Prop where
  records : f.bus.Records label
  tame : ∀ j, Tame label (f.sending j)
  hosts : ∀ j, OnHost c label j (f.sending j)
  busy : f.sending i ≠ [] → ((f.monitor c).workerAt i).phase.isReporting = true
  told : ((f.bus.noted label).filter (·.host = t.host) ++ due label (f.sending i)).map (·.change) =
    changesOf t.host (f.monitor c).log

section

variable {c : Setup} {label : String} {i j : ℕ} {t : Target} {f : Feed}

theorem start_fed {b : Bus.St} (hb : b.Records label)
    (hnoted : b.noted label = []) : Fed c label i t (.start b) where
  records := hb
  tame _ := trivial
  hosts _ := by simp [OnHost, Feed.start, due]
  busy h := absurd rfl h
  told := by
    simp only [Feed.start, hnoted]
    rfl

theorem monitor_snoc (c : Setup) (f : Feed) (a : Act) (b : Bus.St) (sending : ℕ → Code) :
    Feed.monitor c ⟨f.acts ++ [a], b, sending⟩ = step c (f.monitor c) a := by
  simp [Feed.monitor, Monitor.run]

/-- the monitor does something that publishes nothing -/
theorem Fed.silent (h : Fed c label i t f) (a : Act)
    (hidle : (f.monitor c).lifecycle = .idle → (f.monitor c).workers = [])
    (hlog : (step c (f.monitor c) a).log = (f.monitor c).log) (hfree : a = .go i → f.sending i = []) :
    Fed c label i t { f with acts := f.acts ++ [a] } where
  records := h.records
  tame := h.tame
  hosts := h.hosts
  busy hsend := by
    rw [monitor_snoc]
    exact reporting_stays (fun ha => hsend (hfree ha)) hidle (h.busy hsend)
  told := by
    rw [monitor_snoc, hlog]
    exact h.told

/-- worker `j`, free to go on, publishes a change -/
theorem Fed.publish (h : Fed c label i t f) (hosts : (c.targets.map (·.host)).Nodup) (ht : c.targets[i]? = some t)
    (hidle : (f.monitor c).lifecycle = .idle → (f.monitor c).workers = [])
    (hfree : f.sending j = []) {ch : Change} (hch : published? c (f.monitor c) (.go j) = some ch) (time : Timestamp) :
    Fed c label i t
      ⟨f.acts ++ [.go j], (f.bus.publish ⟨ch, time⟩ []).1,
        Function.update f.sending j (f.bus.publish ⟨ch, time⟩ []).2⟩ := by
  obtain ⟨hbus, htame, hdue⟩ := Bus.publish_due h.records ⟨ch, time⟩
  obtain ⟨hlog, hpublished⟩ := go_published c (f.monitor c) j
  obtain ⟨⟨t', ht', hhost⟩, hreporting⟩ := hpublished ch hch
  rw [hch] at hlog
  have hmine : OnHost c label j (f.bus.publish ⟨ch, time⟩ []).2 := by
    intro e he
    rw [hdue] at he
    rw [List.mem_singleton.1 he]
    exact ⟨t', ht', hhost⟩
  refine ⟨by rw [hbus]; exact h.records, ?_, ?_, ?_, ?_⟩
  · exact (Function.forall_update_iff f.sending fun _ code => Tame label code).2 ⟨htame, fun k _ => h.tame k⟩
  · exact (Function.forall_update_iff f.sending (OnHost c label)).2 ⟨hmine, fun k _ => h.hosts k⟩
  · rw [monitor_snoc]
    dsimp only
    by_cases hk : i = j
    · subst hk; exact fun _ => hreporting
    · rw [Function.update_of_ne hk]
      exact fun hsend => reporting_stays (by rintro ⟨⟩; exact hk rfl) hidle (h.busy hsend)
  · rw [monitor_snoc, hlog, changesOf_append, hbus]
    dsimp only
    by_cases hk : i = j
    · subst hk
      obtain rfl : t = t' := Option.some.inj (ht.symm.trans ht')
      have htold := h.told
      rw [hfree] at htold
      rw [Function.update_self, hdue, ← htold]
      simp [changesOf, due, hhost]
    · have hne := host_ne hosts ht ht' (Ne.symm hk)
      rw [Function.update_of_ne hk, h.told]
      simp [changesOf, hhost, hne]

/-- a subscriber that worker `j` waits for goes on -/
theorem Fed.send (h : Fed c label i t f) (hosts : (c.targets.map (·.host)).Nodup) (ht : c.targets[i]? = some t)
    {instr : Bus.Instr} {code : Code} (hcode : f.sending j = instr :: code) :
    Fed c label i t
      ⟨f.acts, (turn f.bus instr code).1, Function.update f.sending j (turn f.bus instr code).2⟩ := by
  obtain ⟨hrecords, htame, es, hnoted, hdue⟩ := Bus.turn_recorder h.records (hcode ▸ h.tame j)
  rw [← hcode] at hdue
  have hes : ∀ e ∈ es, ∃ t', c.targets[j]? = some t' ∧ e.host = t'.host := fun e he =>
    h.hosts j e (hdue ▸ List.mem_append_left _ he)
  refine ⟨hrecords, ?_, ?_, ?_, ?_⟩
  · exact (Function.forall_update_iff f.sending fun _ code => Tame label code).2 ⟨htame, fun k _ => h.tame k⟩
  · exact (Function.forall_update_iff f.sending (OnHost c label)).2
      ⟨fun e he => h.hosts j e (hdue ▸ List.mem_append_right _ he), fun k _ => h.hosts k⟩
  · dsimp only
    by_cases hk : i = j
    · subst hk; exact fun _ => h.busy (by rw [hcode]; exact List.cons_ne_nil _ _)
    · rw [Function.update_of_ne hk]; exact h.busy
  · have htold := h.told
    simp only [hnoted, List.filter_append]
    by_cases hk : i = j
    · subst hk
      have hall : es.filter (fun e => e.host = t.host) = es := by
        refine List.filter_eq_self.2 fun e he => ?_
        obtain ⟨t', ht', hhost⟩ := hes e he
        obtain rfl : t = t' := Option.some.inj (ht.symm.trans ht')
        exact decide_eq_true hhost
      rw [Function.update_self, hall, List.append_assoc, ← hdue]
      exact htold
    · have hnone : es.filter (fun e => e.host = t.host) = [] := by
        refine List.filter_eq_nil_iff.2 fun e he => ?_
        obtain ⟨t', ht', hhost⟩ := hes e he
        have hne := host_ne hosts ht ht' (Ne.symm hk)
        simpa [hhost] using hne
      rw [Function.update_of_ne hk, hnone, List.append_nil]
      exact htold

/-- **One move.** What the recorder has and is due of a host stays what the log holds of it. -/
theorem step_fed (h : Fed c label i t f) (hosts : (c.targets.map (·.host)).Nodup) (ht : c.targets[i]? = some t)
    (stamp : ℕ → Timestamp) (move : Move) :
    Fed c label i t (f.step c stamp move) := by
  have hidle := (run_follows hosts ht f.acts).idle
  have hsilent (a : Act) (ha : ∀ j, a ≠ .go j) : Fed c label i t { f with acts := f.acts ++ [a] } :=
    h.silent a hidle (other_log ha) fun hgo => absurd hgo (ha i)
  cases move with
  | send j =>
    simp only [Feed.step]
    cases hcode : f.sending j with
    | nil => exact h
    | cons instr code => exact h.send hosts ht hcode
  | monitor a =>
    cases a with
    | go j =>
      simp only [Feed.step]
      cases hfree : f.sending j with
      | cons instr code => exact h
      | nil =>
        cases hch : published? c (f.monitor c) (.go j) with
        | some ch => exact h.publish hosts ht hidle hfree hch _
        | none =>
          have hlog := (go_published c (f.monitor c) j).1
          rw [hch, Option.map_none, Option.toList_none, List.append_nil] at hlog
          exact h.silent _ hidle hlog (by rintro ⟨⟩; exact hfree)
    | start => exact hsilent .start (by simp)
    | stop => exact hsilent .stop (by simp)
    | quit j => exact hsilent (.quit j) (by simp)
    | tick time => exact hsilent (.tick time) (by simp)

theorem run_fed (h : Fed c label i t f) (hosts : (c.targets.map (·.host)).Nodup) (ht : c.targets[i]? = some t)
    (stamp : ℕ → Timestamp) (moves : List Move) :
    Fed c label i t (f.run c stamp moves) := by
  induction moves generalizing f with
  | nil => exact h
  | cons move moves ih => exact ih (step_fed h hosts ht stamp move)

end

/-! ## What the recorder gets -/

/-- **Recorded attempts.** Let the hosts of the targets be distinct, and let a recorder be subscribed to a synchronous bus
among any subscribers that leave the bus alone, panicking or not. However the workers, their subscribers, the clock and
a stop then take turns:
- the attempts of a target's worker end as its provider has it;
- what the recorder gets of the target's host is what the watch makes of these attempts one after the other, as far as
  they are told;
- and that is all of it whenever the worker is not in the middle of its reports. -/
theorem recorded_attempts (c : Setup) (hosts : (c.targets.map (·.host)).Nodup) {i : ℕ} {t : Target}
    (ht : c.targets[i]? = some t) {b : Bus.St} {label : String} (hb : b.Records label) (hnew : b.noted label = [])
    (stamp : ℕ → Timestamp) (moves : List Move) :
    let f := Feed.run c stamp (.start b) moves
    let as := attempts c i (start c) f.acts
    let expected := (Watch.run c.policy.skipFirst t as .start).2
    let received := ((f.bus.noted label).filter (·.host = t.host)).map (·.change)
    Genuine c.policy t .start as ∧ received <+: expected ∧
      (((f.monitor c).workerAt i).phase.isReporting = false → received = expected) := by
  intro f as expected received
  have hfed : Fed c label i t f := run_fed (start_fed hb hnew) hosts ht stamp moves
  have hfollows : Follows c i t as (f.monitor c) := run_follows hosts ht f.acts
  obtain ⟨m, -, -, hrun⟩ := hfollows.expected
  have htold := hfed.told
  rw [List.map_append] at htold
  have hexpected : expected = received ++ (due label (f.sending i)).map (·.change) ++
      (Watch.tellAll c.policy.skipFirst t ((f.monitor c).workerAt i).phase.pending m).2 := by
    simp only [expected, received, hrun, Watch.andThen, htold]
  refine ⟨hfollows.genuine, ?_, fun hphase => ?_⟩
  · rw [hexpected, List.append_assoc]
    exact List.prefix_append _ _
  · have hfree : f.sending i = [] := by
      by_contra hsend
      rw [hfed.busy hsend] at hphase
      cases hphase
    rw [hexpected, hfree, pending_of_not_reporting hphase]
    simp [due, Watch.tellAll]

/-- refuses the first list call and answers the others -/
def nas : Target where
  host := "nas"
  provider :=
    { source := "docker"
      pushes := false
      list := fun n => ⟨0, if n = 0 then .error (.connection "refused") else .ok [⟨"db", .running, ""⟩]⟩
      subscribe := fun _ => ⟨0, .error .unsupported⟩ }
  strategy := .poll

/-- pushes nothing for a while -/
def edge : Target where
  host := "edge"
  provider :=
    { source := "systemd"
      pushes := true
      list := fun _ => ⟨0, .ok []⟩
      subscribe := fun _ => ⟨0, .ok [(90000, .closed)]⟩ }
  strategy := .push

def two : Setup := ⟨[nas, edge], { Policy.standard with skipFirst := false }, fun _ _ => 0⟩

/-- it panics in the middle of what it does -/
def shaky : Bus.Program := fun _ _ => [.note, .panic, .note]

def shakyBus : Bus.St := ((Bus.start .sync).subscribe "shaky" Kind.all shaky).1

/-- a recorder between two subscribers that panic at every event -/
def flanked : Bus.St :=
  ((shakyBus.subscribe "recorder" Kind.all Bus.recording).1.subscribe "late" Kind.all shaky).1

/-- the first poll of one target fails and the second goes well, while the other target opens its stream -/
def twoPolls : List Move :=
  [(1, .monitor .start), (6, .monitor (.go 1)), (4, .monitor (.go 0)), (9, .send 0), (1, .monitor (.go 0)),
    (1, .monitor (.tick 60000)), (3, .monitor (.go 0)), (9, .send 0), (1, .monitor (.go 0)), (9, .send 0),
    (1, .monitor (.go 0))].flatMap fun m => List.replicate m.1 m.2

theorem shaky_leaves_alone : ∀ n e, ∀ a ∈ shaky n e, a.isQuiet = true := by
  simp [shaky, Bus.Action.isQuiet]

theorem shakyBus_quiet : shakyBus.Quiet "recorder" := by
  refine ⟨rfl, ⟨_, rfl, fun g hg => ?_⟩, by simp [shakyBus, Bus.start, Bus.St.subscribe, Bus.St.register]⟩
  have hg : g ∈ Bus.Registry.oneOfEach 0 (⟨"shaky", 0, shaky⟩ : Bus.Handler) := hg
  simp only [Bus.Registry.oneOfEach, List.mem_cons, List.not_mem_nil, or_false] at hg
  rcases hg with rfl | rfl | rfl <;> exact ⟨by decide, shaky_leaves_alone⟩

theorem flanked_records : flanked.Records "recorder" ∧ flanked.noted "recorder" = [] := by
  obtain ⟨hrecords, hnew⟩ := Bus.subscribe_records shakyBus_quiet
  obtain ⟨hflanked, hsame⟩ := Bus.subscribe_beside hrecords "late" Kind.all (by decide) shaky_leaves_alone
  exact ⟨hflanked, hsame.trans hnew⟩

/-- the recorder gets all three changes between the subscribers that panic -/
theorem recorded_attempts_nas :
    (two.targets.map (·.host)).Nodup ∧ two.targets[0]? = some nas ∧ flanked.Records "recorder" ∧
      flanked.noted "recorder" = [] ∧
    let f := Feed.run two (fun _ => default) (.start flanked) twoPolls
    let received := ((f.bus.noted "recorder").filter (·.host = nas.host)).map (·.change)
    received = (Watch.run two.policy.skipFirst nas (attempts two 0 (start two) f.acts) .start).2 ∧
      received.map (·.kind) = [.hostUnreachable, .hostRecovered, .serviceStateChanged] := by
  obtain ⟨hrecords, hnew⟩ := flanked_records
  have h := recorded_attempts two (by decide) (i := 0) (t := nas) rfl hrecords hnew (fun _ => default) twoPolls
  exact ⟨by decide, rfl, hrecords, hnew, h.2.2 (by decide +kernel), by decide +kernel⟩

end ServiceMonitor.Monitor
