import ServiceMonitor.Proofs.Monitor.NextCall

/-!
The answer to a list call is applied in whole.

A worker that has an answer tells the tracker all that there is to tell of it, report by report, before it does anything
else. Other workers may go on in between, and so may the clock while something is published, but a stop does not keep it
from any of the reports.

- `turn_effect`: a turn of a worker changes the tracker and the log by what it tells, and by nothing else.
- `run_together`: if nobody else tells anything of the host meanwhile, all its turns together do what the reports do.
- `step_owes`, `run_owes`: what is still to be told is told in order, and the clock waits for it.
- `tellAll_listed`: a listing that is told leaves the last known state of each service, and publishes what a watcher of
  the host expects of it; `tellAll_failure`: a failure that is told changes the record of its host only.
-/

namespace ServiceMonitor.Monitor

/-! ## What a worker tells -/

/-- what worker `i` tells the tracker in an act -/
def toldBy (i : ℕ) (s : St) : Act → List Report
  | .go j => if j = i ∧ s.isReady (s.workerAt i) then (s.workerAt i).phase.pending.take 1 else []
  | _ => []

/-- what worker `i` tells the tracker in a run, in order -/
def toldIn (c : Setup) (i : ℕ) : St → List Act → List Report
  | _, [] => []
  | s, a :: acts => toldBy i s a ++ toldIn c i (step c s a) acts

/-- how long the publishing of what worker `i` tells in a run takes -/
def heldIn (c : Setup) (i : ℕ) (t : Target) : St → List Act → ℕ
  | _, [] => 0
  | s, a :: acts => ((toldBy i s a).map (c.holds t s)).sum + heldIn c i t (step c s a) acts

/-- what reports make of the tracker, and the changes that they have it say -/
def Worker.tellAll (t : Target) : List Report → Tracker → Tracker × List Change
  | [], tracker => (tracker, [])
  | r :: rs, tracker =>
    let (tracker, change) := tell t tracker r
    let (tracker, changes) := tellAll t rs tracker
    (tracker, change.toList ++ changes)

/-- from `s` on, worker `i` of target `t` tells the reports `rs` first. Behind any acts it has told all of them, or it
has some left and the clock has not gone on beyond `ends` but for the publishing of those that are told; each of its
turns does to the tracker and to the log what the report that it tells does, and nothing else; and as long as nobody else
tells anything of the host, what has become of the host is what its reports make of it -/
structure Applies (c : Setup) (i : ℕ) (t : Target) (s : St) (ends : ℕ) (rs : List Report) : Prop where
  whole : ∀ acts, (∃ more, toldIn c i s acts = rs ++ more) ∨
    ∃ rest, rest ≠ [] ∧ toldIn c i s acts ++ rest = rs ∧ (run c s acts).now ≤ max s.now ends + heldIn c i t s acts
  effect : ∀ acts, let before := run c s acts
    let after := step c before (.go i)
    let told := Worker.tellAll t (toldBy i before (.go i)) before.tracker
    after.tracker = told.1 ∧ after.log = before.log ++ told.2.map fun ch => (before.now, ch)
  together : ∀ acts, (∀ j t', j ≠ i → c.targets[j]? = some t' → t'.host = t.host → toldIn c j s acts = []) →
    let told := Worker.tellAll t (toldIn c i s acts) s.tracker
    SameOn t.host (run c s acts).tracker told.1 ∧
      changesOf t.host (run c s acts).log = changesOf t.host s.log ++ told.2

/-- the last known state that is listed of a service, if any -/
def lastListed (os : List Observation) (name : String) : Option ServiceMonitor.Lifecycle :=
  (os.filter fun o => o.name = name ∧ o.state ≠ .unknown).getLast?.map (·.state)

/-- what a watcher of a target knows that reads a tracker -/
def watcherOf (t : Target) (tracker : Tracker) : Watch :=
  ⟨false, tracker.reachability t.host = .unreachable, fun name => tracker.lifecycle ⟨t.host, name, t.provider.source⟩⟩

/-- a listing is reconciled: the host is reached, each service has the last known state listed or else the one it had,
nothing else is touched, and what is published is the recovery of the host and then the changes in the order of the
listing, each from the state known just before it -/
structure Reconciles (t : Target) (os : List Observation) (before after : Tracker) (changes : List Change) : Prop where
  entries : ∀ name, after.lifecycle ⟨t.host, name, t.provider.source⟩ =
    (lastListed os name).getD (before.lifecycle ⟨t.host, name, t.provider.source⟩)
  otherEntries : ∀ k : ServiceKey, ¬(k.host = t.host ∧ k.source = t.provider.source) →
    after.lifecycle k = before.lifecycle k
  host : ∀ h, after.reachability h = if t.host = h then .reachable else before.reachability h
  changes : changes = (Watch.andThen ((watcherOf t before).reach t) (Watch.seeAll before.skipFirst t os)).2

/-- a target is missed: nothing changes but the record of its host -/
structure Misses (t : Target) (reason : String) (before after : Tracker) (changes : List Change) : Prop where
  services : after.services = before.services
  host : ∀ h, after.reachability h = if t.host = h then .unreachable else before.reachability h
  changes : changes = if before.reachability t.host = .unreachable then [] else [.unreachable t.host reason]

section

variable {c : Setup} {i : ℕ} {t : Target} {s : St} {free : ℕ} {rs : List Report}

theorem tellAll_failure (t : Target) (reason : String) (tracker : Tracker) :
    Misses t reason tracker (Worker.tellAll t [.failure reason] tracker).1
      (Worker.tellAll t [.failure reason] tracker).2 := by
  refine { services := ?_, host := fun h => Tracker.failure_reachability tracker t.host reason h, changes := ?_ }
  · change (tracker.failure t.host reason).1.services = tracker.services
    unfold Tracker.failure
    split <;> rfl
  · change (tracker.failure t.host reason).2.toList ++ [] = _
    rw [List.append_nil, Tracker.failure_snd]
    split_ifs <;> rfl

theorem watcherOf_agrees (t : Target) (tracker : Tracker) : Agrees t (watcherOf t tracker) tracker :=
  ⟨decide_eq_true_iff, fun _ => rfl⟩

theorem Agrees.tellAll {w : Watch} {tracker : Tracker} (h : Agrees t w tracker) (rs : List Report) :
    (Worker.tellAll t rs tracker).2 = (w.tellAll tracker.skipFirst t rs).2 := by
  induction rs generalizing w tracker with
  | nil => rfl
  | cons r rs ih =>
    obtain ⟨hagrees, hsays⟩ := h.tell r
    have hrest := ih hagrees
    rw [tell_skipFirst] at hrest
    simp only [Worker.tellAll, Watch.tellAll, Watch.andThen, hsays, hrest]

theorem lastListed_cons (o : Observation) (os : List Observation) (name : String) :
    lastListed (o :: os) name =
      (lastListed os name).or (if o.name = name ∧ o.state ≠ .unknown then some o.state else none) := by
  by_cases h : o.name = name ∧ o.state ≠ .unknown
  · rw [lastListed, List.filter_cons_of_pos (by simpa using h), if_pos h, List.getLast?_cons, Option.map_some,
      lastListed]
    cases (os.filter _).getLast? <;> rfl
  · rw [lastListed, List.filter_cons_of_neg (by simpa using h), if_neg h, Option.or_none, lastListed]

/-- what observations leave of the services -/
theorem tellAll_entries (t : Target) (os : List Observation) (tracker : Tracker) (k : ServiceKey) :
    (Worker.tellAll t (os.map .observe) tracker).1.lifecycle k =
      if k.host = t.host ∧ k.source = t.provider.source then (lastListed os k.name).getD (tracker.lifecycle k)
      else tracker.lifecycle k := by
  induction os generalizing tracker with
  | nil => simp [Worker.tellAll, lastListed]
  | cons o os ih =>
    have hkey : Tracker.keyOf t.host t.provider.source o = k ↔
        (k.host = t.host ∧ k.source = t.provider.source) ∧ o.name = k.name := by
      obtain ⟨host, name, source⟩ := k
      simp only [Tracker.keyOf, ServiceKey.mk.injEq]
      grind
    rw [List.map_cons, Worker.tellAll, ih, Worker.tell, Tracker.observe_lifecycle, lastListed_cons]
    simp only [hkey]
    by_cases hmine : k.host = t.host ∧ k.source = t.provider.source
    · simp only [hmine, and_self, true_and, if_true]
      cases lastListed os k.name with
      | some state => rfl
      | none => by_cases ho : o.name = k.name ∧ o.state ≠ .unknown <;> simp [ho]
    · rw [if_neg hmine, if_neg hmine, if_neg fun h => hmine h.1.1]

theorem tellAll_reachability (t : Target) (os : List Observation) (tracker : Tracker) (h : String) :
    (Worker.tellAll t (os.map .observe) tracker).1.reachability h = tracker.reachability h := by
  induction os generalizing tracker with
  | nil => rfl
  | cons o os ih =>
    rw [List.map_cons, Worker.tellAll, ih]
    exact Tracker.observe_reachability tracker t.host t.provider.source o h

/-- **A listing that is told** is reconciled. -/
theorem tellAll_listed (t : Target) (os : List Observation) (tracker : Tracker) :
    Reconciles t os tracker (Worker.tellAll t (.success :: os.map .observe) tracker).1
      (Worker.tellAll t (.success :: os.map .observe) tracker).2 := by
  have hfirst : (Worker.tellAll t (.success :: os.map .observe) tracker).1 =
      (Worker.tellAll t (os.map .observe) (tracker.success t.host).1).1 := rfl
  refine { entries := fun name => ?_, otherEntries := fun k hk => ?_, host := fun h => ?_, changes := ?_ }
  · rw [hfirst, tellAll_entries, if_pos ⟨rfl, rfl⟩, Tracker.success_lifecycle]
  · rw [hfirst, tellAll_entries, if_neg hk, Tracker.success_lifecycle]
  · rw [hfirst, tellAll_reachability, Tracker.success_reachability]
  · rw [(watcherOf_agrees t tracker).tellAll, Watch.tellAll, Watch.tellAll_observe]
    rfl

/-! ## One turn -/

/-- **One turn** changes the tracker and the log by what is told in it. -/
theorem turn_effect (ht : c.targets[i]? = some t) (s : St) :
    (step c s (.go i)).tracker = (Worker.tellAll t (toldBy i s (.go i)) s.tracker).1 ∧
      (step c s (.go i)).log =
        s.log ++ (Worker.tellAll t (toldBy i s (.go i)) s.tracker).2.map fun ch => (s.now, ch) := by
  rcases step_go_cases c s i with ⟨t', w, ht', hw, hready, hstep⟩ | ⟨hnone, hstep⟩
  · obtain rfl : t = t' := Option.some.inj (ht.symm.trans ht')
    obtain rfl : s.workerAt i = w := workerAt_eq hw
    have htold : toldBy i s (.go i) = (s.workerAt i).phase.pending.take 1 := by simp [toldBy, hready]
    rcases go_cases c.policy (c.hold s.log.length) t s.now s.tracker (s.workerAt i) with
      ⟨free, r, rs, next, busy, hphase, hgo⟩ | ⟨hpending, hgo⟩
    · have hr : toldBy i s (.go i) = [r] := by rw [htold, hphase]; rfl
      rw [hstep, hgo, hr]
      refine ⟨rfl, ?_⟩
      cases hchange : (Worker.tell t s.tracker r).2 <;> simp [Worker.tellAll, hchange]
    · rw [hstep, hgo, htold, hpending]
      exact ⟨rfl, rfl⟩
  · have htold : toldBy i s (.go i) = [] := by
      cases hphase : (s.workerAt i).phase with
      | reporting free reports next =>
        have hpresent := worker_present (s := s) (i := i) (by simp [hphase])
        simp [toldBy, hnone t _ ht hpresent]
      | _ => simp [toldBy, hphase, Phase.pending]
    rw [hstep, htold]
    exact ⟨rfl, by simp [Worker.tellAll]⟩

/-! ## Turns together -/

theorem tellAll_append (t : Target) (rs rs' : List Report) (tracker : Tracker) :
    Worker.tellAll t (rs ++ rs') tracker =
      ((Worker.tellAll t rs' (Worker.tellAll t rs tracker).1).1,
        (Worker.tellAll t rs tracker).2 ++ (Worker.tellAll t rs' (Worker.tellAll t rs tracker).1).2) := by
  induction rs generalizing tracker with
  | nil => rfl
  | cons r rs ih => simp only [List.cons_append, Worker.tellAll, ih, List.append_assoc]

theorem tellAll_sameOn {a b : Tracker} (h : SameOn t.host a b) (rs : List Report) :
    (Worker.tellAll t rs a).2 = (Worker.tellAll t rs b).2 ∧
      SameOn t.host (Worker.tellAll t rs a).1 (Worker.tellAll t rs b).1 := by
  induction rs generalizing a b with
  | nil => exact ⟨rfl, h⟩
  | cons r rs ih =>
    obtain ⟨hchange, hsame⟩ := tell_sameOn h r
    obtain ⟨hchanges, hall⟩ := ih hsame
    exact ⟨by simp only [Worker.tellAll, hchange, hchanges], hall⟩

theorem tellAll_sameOn_other {t' : Target} {host : String} (hne : t'.host ≠ host) (rs : List Report)
    (tracker : Tracker) : SameOn host (Worker.tellAll t' rs tracker).1 tracker := by
  induction rs generalizing tracker with
  | nil => exact .refl host tracker
  | cons r rs ih => exact (ih _).trans (tell_sameOn_other (.refl host tracker) hne r)

theorem tellAll_host (t : Target) (rs : List Report) (tracker : Tracker) :
    ∀ ch ∈ (Worker.tellAll t rs tracker).2, ch.host = t.host := by
  induction rs generalizing tracker with
  | nil => exact fun _ h => absurd h List.not_mem_nil
  | cons r rs ih =>
    intro ch hch
    rcases List.mem_append.1 hch with hch | hch
    · exact tell_host (Option.mem_toList.1 hch)
    · exact ih _ ch hch

/-- changes of one host, all made at one time -/
theorem changesOf_map {host : String} {chs : List Change} (now : ℕ) (h : ∀ ch ∈ chs, ch.host = host) (other : String) :
    changesOf other (chs.map fun ch => (now, ch)) = if host = other then chs else [] := by
  rw [changesOf, List.map_map, Function.comp_def, List.map_id']
  split_ifs with heq
  · exact List.filter_eq_self.2 fun ch hch => decide_eq_true ((h ch hch).trans heq)
  · exact List.filter_eq_nil_iff.2 fun ch hch => by simpa [h ch hch] using heq

/-- **One act**, as far as a host is concerned of which nobody else tells anything. -/
theorem step_together (ht : c.targets[i]? = some t) (s : St) (a : Act)
    (hothers : ∀ j t', j ≠ i → c.targets[j]? = some t' → t'.host = t.host → toldBy j s a = []) :
    SameOn t.host (step c s a).tracker (Worker.tellAll t (toldBy i s a) s.tracker).1 ∧
      changesOf t.host (step c s a).log = changesOf t.host s.log ++ (Worker.tellAll t (toldBy i s a) s.tracker).2 := by
  have still {s' : St} (htold : toldBy i s a = []) (htracker : s'.tracker = s.tracker) (hlog : s'.log = s.log) :
      SameOn t.host s'.tracker (Worker.tellAll t (toldBy i s a) s.tracker).1 ∧
        changesOf t.host s'.log = changesOf t.host s.log ++ (Worker.tellAll t (toldBy i s a) s.tracker).2 := by
    rw [htold, htracker, hlog]
    exact ⟨.refl _ _, (List.append_nil _).symm⟩
  cases a with
  | go j =>
    by_cases hj : j = i
    · subst hj
      obtain ⟨htracker, hlog⟩ := turn_effect ht s
      rw [htracker, hlog, changesOf_append, changesOf_map s.now (tellAll_host t _ _), if_pos rfl]
      exact ⟨.refl _ _, rfl⟩
    · have htold : toldBy i s (.go j) = [] := if_neg fun h => hj h.1
      cases ht' : c.targets[j]? with
      | none =>
        have hstep : step c s (.go j) = s := by simp only [step, ht']
        exact still htold (by rw [hstep]) (by rw [hstep])
      | some t' =>
        obtain ⟨htracker, hlog⟩ := turn_effect ht' s
        by_cases hhost : t'.host = t.host
        · rw [hothers j t' hj ht' hhost] at htracker hlog
          exact still htold htracker (hlog.trans (List.append_nil _))
        · rw [htold, htracker, hlog, changesOf_append, changesOf_map s.now (tellAll_host t' _ _), if_neg hhost]
          exact ⟨tellAll_sameOn_other hhost _ _, rfl⟩
  | start => exact still rfl (by simp only [step]; split <;> rfl) (by simp only [step]; split <;> rfl)
  | stop => exact still rfl rfl rfl
  | quit j =>
    refine still rfl ?_ ?_ <;> simp only [step] <;> split <;> [split_ifs; rfl; split_ifs; rfl] <;> rfl
  | tick time => refine still rfl ?_ ?_ <;> simp only [step] <;> split_ifs <;> rfl

/-- **A run**, as far as a host is concerned of which nobody else tells anything. -/
theorem run_together (ht : c.targets[i]? = some t) (acts : List Act)
    (hothers : ∀ j t', j ≠ i → c.targets[j]? = some t' → t'.host = t.host → toldIn c j s acts = []) :
    SameOn t.host (run c s acts).tracker (Worker.tellAll t (toldIn c i s acts) s.tracker).1 ∧
      changesOf t.host (run c s acts).log =
        changesOf t.host s.log ++ (Worker.tellAll t (toldIn c i s acts) s.tracker).2 := by
  induction acts generalizing s with
  | nil => exact ⟨.refl _ _, (List.append_nil _).symm⟩
  | cons a acts ih =>
    have hsplit j t' (hj : j ≠ i) (ht' : c.targets[j]? = some t') (hhost : t'.host = t.host) :=
      List.append_eq_nil_iff.1 (hothers j t' hj ht' hhost)
    obtain ⟨hone, hlog⟩ := step_together ht s a fun j t' hj ht' hhost => (hsplit j t' hj ht' hhost).1
    obtain ⟨hrest, hmore⟩ := ih (s := step c s a) fun j t' hj ht' hhost => (hsplit j t' hj ht' hhost).2
    obtain ⟨hchanges, hall⟩ := tellAll_sameOn hone (toldIn c i (step c s a) acts)
    rw [toldIn, tellAll_append]
    refine ⟨hrest.trans hall, ?_⟩
    rw [show run c s (a :: acts) = run c (step c s a) acts from rfl, hmore, hlog, hchanges, List.append_assoc]

/-! ## What is still to be told -/

/-- when a worker goes on, and what it is to tell before it does anything else -/
def Worker.owes? (w : Worker) : Option (ℕ × List Report) :=
  match w.phase with
  | .polling _ ends answer =>
    if w.startup && Worker.isPermanent answer then none else some (ends, Worker.reportsOf answer)
  | .resyncing _ ends answer => some (ends, Worker.reportsOf answer)
  | .reporting free reports _ => some (free, reports)
  | _ => none

theorem owes_waits {w : Worker} (h : w.owes? = some (free, rs)) :
    w.phase.due? = some free ∧ w.phase ≠ .fresh ∧ w.phase.isWaiting = false := by
  obtain ⟨phase, startup, failures, lists, subscribes⟩ := w
  cases phase with
  | polling due ends answer =>
    simp only [Worker.owes?] at h
    split_ifs at h
    cases h
    exact ⟨rfl, by simp, rfl⟩
  | resyncing stream ends answer => cases h; exact ⟨rfl, by simp, rfl⟩
  | reporting free reports next => cases h; exact ⟨rfl, by simp, rfl⟩
  | _ => cases h

/-- a worker that has something to tell stays as it is, whatever others do -/
theorem step_elsewhere (hsound : s.Sound) (h : (s.workerAt i).owes? = some (free, rs)) {a : Act}
    (hgo : ¬(a = .go i ∧ s.isReady (s.workerAt i) = true)) : (step c s a).workerAt i = s.workerAt i := by
  obtain ⟨-, hfresh, hwaits⟩ := owes_waits h
  have hpresent := worker_present hfresh
  cases step_workers c s a with
  | same workers => rw [St.workerAt, workers, St.workerAt]
  | ticks _ workers => rw [St.workerAt, workers, St.workerAt]
  | spawns idle => rw [hsound idle] at hpresent; cases hpresent
  | @goes j t' w _ worker ready workers =>
    refine workerAt_set_ne (fun hj => hgo ?_) workers
    subst hj
    rw [workerAt_eq worker]
    exact ⟨rfl, ready⟩
  | @quits j w worker must workers =>
    refine workerAt_set_ne (fun hj => ?_) workers
    subst hj
    rw [workerAt_eq worker, waits_of_mustQuit must] at hwaits
    cases hwaits

/-- what is still to be told of an answer, or of reports that are begun -/
theorem owes_cases {w : Worker} (h : w.owes? = some (free, rs)) :
    (∃ next, w.phase = .reporting free rs next) ∨
      w.phase.pending = [] ∧ ∃ answer, w.phase.attempt? = some (.listed answer) ∧
        ∀ p t now, (w.proceed p t now).owes? = some (now, rs) := by
  obtain ⟨phase, startup, failures, lists, subscribes⟩ := w
  cases phase with
  | polling due ends answer =>
    simp only [Worker.owes?] at h
    split_ifs at h with hpermanent
    cases h
    refine Or.inr ⟨rfl, answer, rfl, fun p t now => ?_⟩
    simp only [Worker.proceed, if_neg hpermanent, Worker.owes?]
  | resyncing stream ends answer =>
    cases h
    exact Or.inr ⟨rfl, answer, rfl, fun p t now => rfl⟩
  | reporting free reports next =>
    cases h
    exact Or.inl ⟨next, rfl⟩
  | _ => cases h

/-- **One act.** What is to be told stays to be told, or the first of it is told. -/
theorem step_owes (ht : c.targets[i]? = some t) (hsound : s.Sound) (h : (s.workerAt i).owes? = some (free, rs))
    (hrs : rs ≠ []) (a : Act) :
    (toldBy i s a = [] ∧ ∃ free', ((step c s a).workerAt i).owes? = some (free', rs) ∧
      max (step c s a).now free' ≤ max s.now free) ∨
    ∃ r rest, rs = r :: rest ∧ toldBy i s a = [r] ∧ free ≤ s.now ∧ (step c s a).now = s.now ∧
      ((step c s a).workerAt i).owes? = some (s.now + c.holds t s r, rest) := by
  obtain ⟨hdue, hfresh, -⟩ := owes_waits h
  by_cases hgo : a = .go i ∧ s.isReady (s.workerAt i) = true
  · obtain ⟨rfl, hready⟩ := hgo
    have hfree : free ≤ s.now := by simpa [St.isReady, hdue] using hready
    rcases owes_cases h with ⟨next, hphase⟩ | ⟨hpending, answer, hanswer, hproceed⟩
    · obtain ⟨r, rest, rfl⟩ := List.exists_cons_of_ne_nil hrs
      obtain ⟨-, hnow, hworker⟩ := report_told ht hphase hfree
      refine Or.inr ⟨r, rest, rfl, by simp [toldBy, hready, hphase, Phase.pending], hfree, hnow, ?_⟩
      rw [hworker]
      rfl
    · have hended : endedBy i s (.go i) = [.listed answer] := by
        simp [endedBy, worker_present hfresh, hready, hanswer]
      obtain ⟨-, hnow, hworker⟩ := step_attempt ht hended
      refine Or.inl ⟨by simp [toldBy, hpending], s.now, by rw [hworker]; exact hproceed _ _ _, ?_⟩
      rw [hnow, max_self]
      exact Nat.le_max_left _ _
  · refine Or.inl ⟨?_, free, by rw [step_elsewhere hsound h hgo]; exact h, ?_⟩
    · cases a with
      | go j =>
        have hother : ¬(j = i ∧ s.isReady (s.workerAt i) = true) := by simpa using hgo
        exact if_neg hother
      | _ => rfl
    · rcases step_now c s a with hnow | ⟨time, rfl, hcan, hstep⟩
      · rw [hnow]
      · obtain ⟨-, -, hle⟩ := tick_waits hcan hdue hfresh
        rw [hstep]
        exact (max_le hle le_rfl).trans (le_max_right _ _)

/-- **A run.** What is to be told is told, in order, and the clock waits for it. -/
theorem run_owes (ht : c.targets[i]? = some t) (hsound : s.Sound) (h : (s.workerAt i).owes? = some (free, rs))
    (acts : List Act) : (∃ more, toldIn c i s acts = rs ++ more) ∨
      ∃ rest, rest ≠ [] ∧ toldIn c i s acts ++ rest = rs ∧
        (run c s acts).now ≤ max s.now free + heldIn c i t s acts := by
  induction acts generalizing s free rs with
  | nil =>
    by_cases hrs : rs = []
    · subst hrs
      exact Or.inl ⟨[], rfl⟩
    · exact Or.inr ⟨rs, hrs, rfl, Nat.le_max_left _ _⟩
  | cons a acts ih =>
    by_cases hrs : rs = []
    · subst hrs
      exact Or.inl ⟨_, rfl⟩
    rcases step_owes ht hsound h hrs a with ⟨htold, free', howes, hle⟩ | ⟨r, rest, rfl, htold, hfree, hnow, howes⟩
    · simp only [toldIn, heldIn, htold]
      rcases ih (step_sound hsound a) howes with hall | ⟨rest, hrest, hpart, htime⟩
      · exact Or.inl hall
      · refine Or.inr ⟨rest, hrest, hpart, htime.trans ?_⟩
        simpa using hle
    · simp only [toldIn, heldIn, htold]
      rcases ih (step_sound hsound a) howes with ⟨more, hall⟩ | ⟨left, hleft, hpart, htime⟩
      · exact Or.inl ⟨more, by rw [hall]; rfl⟩
      · refine Or.inr ⟨left, hleft, by rw [List.append_assoc, hpart]; rfl, htime.trans ?_⟩
        rw [hnow, max_eq_right (Nat.le_add_right _ _), max_eq_left hfree]
        simp [Nat.add_assoc]

/-- **All of an answer** is applied, unless it ends the task because there is no point in going on. -/
theorem answer_applied (ht : c.targets[i]? = some t) (hsound : s.Sound) {answer : ListAnswer} {ends : ℕ}
    (hanswer : (s.workerAt i).phase.attempt? = some (.listed answer)) (hdue : (s.workerAt i).phase.due? = some ends)
    (hpermanent : Worker.isPermanent answer = false) : Applies c i t s ends (Worker.reportsOf answer) := by
  have howes : (s.workerAt i).owes? = some (ends, Worker.reportsOf answer) := by
    generalize s.workerAt i = w at hanswer hdue
    obtain ⟨phase, startup, failures, lists, subscribes⟩ := w
    cases phase with
    | polling due ends answer => cases hanswer; cases hdue; simp [Worker.owes?, hpermanent]
    | resyncing stream ends answer => cases hanswer; cases hdue; rfl
    | listening item rest => cases item <;> cases hanswer
    | _ => cases hanswer
  exact ⟨run_owes ht hsound howes, fun acts => turn_effect ht (run c s acts), fun acts => run_together ht acts⟩

end

end ServiceMonitor.Monitor
