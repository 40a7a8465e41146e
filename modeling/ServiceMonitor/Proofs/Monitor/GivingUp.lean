import ServiceMonitor.Proofs.Monitor.NextCall

/-!
When a task gives up.

A task that is told at the very first attempt that its backend will never answer ends without a word; a subscription
that is not supported does not count as one. `resigned` says so of the attempts of a worker, and `Begun` carries the
flag for it through the phases.

- `proceed_begun`, `run_begun`: the flag is up as long as nothing is known of the backend, and a task that has not
  resigned has not ended. `run_alive`: nor does it end once it has heard of the backend.
- `run_untouched`: a worker that has resigned has left no trace of its host.
- `task_gives_up`: so a task ends by itself exactly if it resigns, and every other failure is recorded and followed by
  another call.
- `task_ends_untimed`: under a policy without a delay it ends at the first wait.
-/

namespace ServiceMonitor.Monitor

/-! ## First answers -/

/-- the target is subscribed to, as long as that works -/
def Target.subscribes (t : Target) : Bool := t.strategy = .push && t.provider.pushes

/-- nothing is known of the backend: nothing was attempted, or a subscription that is not supported -/
def undecided : List Attempt → Bool
  | [] | [.opened (.error .unsupported)] => true
  | _ => false

/-- the first answers say that the backend will never answer -/
def resigned (t : Target) : List Attempt → Bool
  | .listed (.error e) :: _ => !t.subscribes && e.isPermanent
  | .opened (.error .unsupported) :: .listed (.error e) :: _ => t.subscribes && e.isPermanent
  | .opened (.error (.opening e)) :: _ => t.subscribes && e.isPermanent
  | _ => false

section

variable {t : Target} {as : List Attempt}

/-- what is decided stays so -/
theorem undecided_append (h : undecided as = false) (more : List Attempt) : undecided (as ++ more) = false := by
  rcases as with _ | ⟨a, _ | ⟨b, as⟩⟩
  · cases h
  · cases more with
    | nil => exact h
    | cons b more => simp [undecided]
  · simp [undecided]

/-- only the first answers count -/
theorem resigned_append (h : undecided as = false) (more : List Attempt) : resigned t (as ++ more) = resigned t as := by
  rcases as with _ | ⟨a, _ | ⟨b, as⟩⟩
  · cases h
  · rcases a with (_ | _) | ((_ | _ | _) | _) | _ | _
    all_goals first | rfl | cases h
  · rcases a with (_ | _) | ((_ | _ | _) | _) | _ | _ <;> rcases b with (_ | _) | _ | _ | _ <;> rfl

theorem undecided_cases (h : undecided as = true) : as = [] ∨ as = [.opened (.error .unsupported)] := by
  rcases as with _ | ⟨a, _ | ⟨b, as⟩⟩
  · exact Or.inl rfl
  · rcases a with _ | ((_ | _ | _) | _) | _ | _
    all_goals first | exact Or.inr rfl | cases h
  · simp [undecided] at h

end

/-! ## Phases and first answers -/

/-- what a phase says about the attempts so far -/
def Phase.Fits (t : Target) (as : List Attempt) : Phase → Prop
  | .fresh => as = []
  | .subscribing | .opening .. => undecided as = true → as = [] ∧ t.subscribes = true
  | .ticking _ | .polling .. => undecided as = true → t.subscribes = !as.isEmpty
  | .resyncing .. | .listening .. | .reporting .. | .pausing _ => undecided as = false
  | .done => True

/-- the first answers were given before this phase -/
def Phase.isBehind : Phase → Bool
  | .resyncing .. | .listening .. | .reporting .. | .pausing _ => true
  | _ => false

/-- a worker of target `t` that was not stopped, behind its attempts: it has ended if it has resigned, and else knows
whether anything is known of the backend -/
structure Begun (t : Target) (as : List Attempt) (w : Worker) : Prop where
  done : w.phase = .done ↔ resigned t as = true
  startup : w.phase ≠ .done → w.startup = undecided as
  fits : w.phase.Fits t as

section

variable {p : Policy} {t : Target} {as : List Attempt} {w : Worker}

theorem begun_spawned (t : Target) : Begun t [] .spawned := ⟨by simp [Worker.spawned, resigned], fun _ => rfl, rfl⟩

/-- a worker that goes on to another phase, without an answer or with one that decides nothing -/
theorem Begun.of_running {w' : Worker} (hresigned : resigned t as = false) (hdone : w'.phase ≠ .done)
    (hstartup : w'.startup = undecided as) (hfits : w'.phase.Fits t as) : Begun t as w' :=
  ⟨by simp [hdone, hresigned], fun _ => hstartup, hfits⟩

theorem fits_of_decided (h : undecided as = false) {phase : Phase} (hfresh : phase ≠ .fresh) : phase.Fits t as := by
  cases phase <;> simp_all [Phase.Fits]

theorem Begun.resigned_eq (h : Begun t as w) (hdone : w.phase ≠ .done) : resigned t as = false := by
  simpa using mt h.done.2 hdone

/-- a worker that goes on where the first answers do not count any more -/
theorem Begun.decided (h : Begun t as w) (hdone : w.phase ≠ .done) (hund : undecided as = false) {w' : Worker}
    {more : List Attempt} (hstartup : w'.startup = w.startup) (hdone' : w'.phase ≠ .done)
    (hfresh' : w'.phase ≠ .fresh) :
    Begun t (as ++ more) w' := by
  have hmore := undecided_append hund more
  refine .of_running ((resigned_append hund more).trans (h.resigned_eq hdone)) hdone' ?_ (fits_of_decided hmore hfresh')
  rw [hstartup, h.startup hdone, hund, hmore]

/-- a list call of a worker that polls is over -/
theorem Begun.polled (h : Begun t as w) {next : Tick} {ends : ℕ} {answer : ListAnswer}
    (hphase : w.phase = .polling next ends answer) :
    undecided (as ++ [.listed answer]) = false ∧
      resigned t (as ++ [.listed answer]) = (w.startup && Worker.isPermanent answer) := by
  have hdone : w.phase ≠ .done := by simp [hphase]
  have hfits := h.fits
  rw [hphase, Phase.Fits] at hfits
  rw [h.startup hdone]
  cases hund : undecided as with
  | false =>
    rw [resigned_append hund, h.resigned_eq hdone]
    exact ⟨undecided_append hund _, rfl⟩
  | true =>
    have hsub := hfits hund
    rcases undecided_cases hund with rfl | rfl <;> cases answer <;>
      simp_all [undecided, resigned, Worker.isPermanent]

/-- a subscription attempt is over -/
theorem Begun.opened (h : Begun t as w) {ends : ℕ} {answer : OpenAnswer} (hphase : w.phase = .opening ends answer) :
    (undecided (as ++ [.opened answer]) = true ↔ as = [] ∧ answer = .error .unsupported) ∧
      resigned t (as ++ [.opened answer]) =
        (w.startup && match answer with | .error e => e.isPermanent | .ok _ => false) := by
  have hdone : w.phase ≠ .done := by simp [hphase]
  have hfits := h.fits
  rw [hphase, Phase.Fits] at hfits
  rw [h.startup hdone]
  cases hund : undecided as with
  | false =>
    rw [resigned_append hund, h.resigned_eq hdone, undecided_append hund]
    refine ⟨?_, rfl⟩
    constructor
    · rintro ⟨⟩
    · rintro ⟨rfl, -⟩; cases hund
  | true =>
    obtain ⟨rfl, hsub⟩ := hfits hund
    rcases answer with (_ | cause | _) | _ <;>
      simp [undecided, resigned, hsub, SubscriptionError.isPermanent, SubscriptionError.cause?]

/-- behind the first answers only a policy without a delay ends a worker -/
theorem proceed_behind (delays : p.HasDelays) (t : Target)
    (now : ℕ) (hbehind : w.phase.isBehind = true) (htold : w.phase.pending = []) :
    (w.proceed p t now).startup = w.startup ∧ (w.proceed p t now).phase ≠ .done ∧
      (w.proceed p t now).phase ≠ .fresh := by
  obtain ⟨phase, startup, failures, lists, subscribes⟩ := w
  cases phase with
  | resyncing stream ends answer => simp [Worker.proceed]
  | listening item rest =>
    cases item with
    | none => simp [Worker.proceed]
    | some item =>
      obtain ⟨due, item⟩ := item
      cases item <;> simp [Worker.proceed, Worker.fail]
  | reporting free reports next =>
    simp only [Phase.pending] at htold
    subst htold
    cases next with
    | tick due => simp [Worker.proceed]
    | listen stream => cases stream <;> simp [Worker.proceed, Phase.listen]
    | reopen =>
      simp only [Worker.proceed, Worker.reopen]
      split_ifs with hex
      · simp
      · obtain ⟨delay, hdelay⟩ := delays.next hex
        simp [hdelay]
  | pausing until_ => simp [Worker.proceed]
  | _ => cases hbehind

/-- **One phase.** Where delays are defined, a worker that goes on has ended if the answer makes it resign. -/
theorem proceed_begun (delays : p.HasDelays)
    (h : Begun t as w) (now : ℕ) (htold : w.phase.pending = []) :
    Begun t (as ++ w.phase.attempt?.toList) (w.proceed p t now) := by
  obtain ⟨phase, startup, failures, lists, subscribes⟩ := w
  have hfits := h.fits
  cases phase with
  | fresh =>
    obtain rfl : as = [] := hfits
    have hstartup := h.startup (by simp)
    simp only [Worker.proceed, Phase.attempt?, Option.toList_none, List.append_nil]
    split_ifs with hsub
    · exact .of_running rfl (by simp) hstartup fun _ => ⟨rfl, hsub⟩
    · exact .of_running rfl (by simp) hstartup fun _ => by simpa [Target.subscribes] using hsub
  | ticking due =>
    simp only [Phase.attempt?, Option.toList_none, List.append_nil]
    exact .of_running (h.resigned_eq (by simp)) (by simp [Worker.proceed]) (h.startup (by simp)) hfits
  | polling due ends answer =>
    obtain ⟨hund, hres⟩ := h.polled rfl
    simp only [Worker.proceed, Phase.attempt?, Option.toList_some]
    split_ifs with hperm
    · exact ⟨by simp [hres, hperm], fun hne => absurd rfl hne, trivial⟩
    · exact .of_running (by simpa [hres] using hperm) (by simp) hund.symm hund
  | subscribing =>
    simp only [Phase.attempt?, Option.toList_none, List.append_nil]
    exact .of_running (h.resigned_eq (by simp)) (by simp [Worker.proceed, Worker.subscribe]) (h.startup (by simp)) hfits
  | opening ends answer =>
    obtain ⟨hund, hres⟩ := h.opened rfl
    have hstartup := h.startup (by simp)
    simp only [Phase.attempt?, Option.toList_some]
    cases answer with
    | ok stream =>
      have hund' : undecided (as ++ [.opened (.ok stream)]) = false := by simpa using mt hund.1
      exact .of_running (by simpa using hres) (by simp [Worker.proceed, Worker.list]) hund'.symm hund'
    | error e =>
      by_cases hu : e = .unsupported
      · subst hu
        refine .of_running (by simpa [SubscriptionError.isPermanent, SubscriptionError.cause?] using hres)
          (by simp [Worker.proceed]) (hstartup.trans ?_) fun h' => ?_
        · -- behind the first attempt nothing is known yet, behind another one it still is
          cases has : undecided as with
          | false => exact (undecided_append has _).symm
          | true => exact (hund.2 ⟨(hfits has).1, rfl⟩).symm
        · obtain ⟨rfl, -⟩ := hund.1 h'
          exact (hfits rfl).2
      · have hund' : undecided (as ++ [.opened (.error e)]) = false := by simpa [hu] using hund
        rw [proceed_opening_error hu]
        split_ifs with hperm
        · exact ⟨by simp [hres, hperm], fun hne => absurd rfl hne, trivial⟩
        · exact .of_running (by simpa [hres] using hperm) (by simp) hund'.symm hund'
  | done => simpa [Phase.attempt?, Worker.proceed] using h
  | _ =>
    obtain ⟨hstartup, hdone, hfresh⟩ := proceed_behind delays t now (by rfl) htold
    exact h.decided (by simp) hfits hstartup hdone hfresh

end

/-! ## Runs -/

section

variable {c : Setup} {i : ℕ} {t : Target} {s s' : St} {acts : List Act}

/-- **A run** that is not stopped. A worker has ended if its first answers made it resign. -/
theorem run_begun (delays : c.policy.HasDelays)
    (ht : c.targets[i]? = some t) (hacts : .stop ∉ acts) :
    Begun t (attempts c i (start c) acts) ((run c (start c) acts).workerAt i) := by
  induction acts using List.reverseRecOn with
  | nil => exact begun_spawned t
  | append_singleton acts a ih =>
    simp only [List.mem_append, List.mem_singleton, not_or] at hacts
    have h := ih hacts.1
    rw [attempts_snoc, run_snoc]
    have hstep := step_worker ht (run_sound c acts) a
    generalize endedBy i (run c (start c) acts) a = ended at hstep
    cases hstep with
    | rests worker => rw [worker, List.append_nil]; exact h
    | other _ _ _ worker => rw [worker, List.append_nil]; exact h
    | tells _ phase worker =>
      rw [worker, List.append_nil]
      refine .of_running (h.resigned_eq (by simp [phase])) (by simp) (h.startup (by simp [phase])) ?_
      have hfits := h.fits
      rw [phase] at hfits
      exact hfits
    | proceeds _ told worker =>
      rw [worker]
      exact proceed_begun delays h _ told
    | quits must =>
      simp only [St.mustQuit, Bool.and_eq_true, decide_eq_true_eq] at must
      exact absurd must.1 (run_unstopped (by simp [start]) hacts.1)

/-- a worker that has heard of its backend and has not ended does not end later, unless the monitor is stopped -/
theorem run_alive (delays : c.policy.HasDelays) (ht : c.targets[i]? = some t) {more : List Act}
    (hacts : .stop ∉ acts ++ more) (hund : undecided (attempts c i (start c) acts) = false)
    (halive : ((run c (start c) acts).workerAt i).phase ≠ .done) :
    ((run c (run c (start c) acts) more).workerAt i).phase ≠ .done := by
  intro hdone
  have hbegun := run_begun delays ht fun hstop => hacts (List.mem_append_left _ hstop)
  have hlater := run_begun delays ht hacts
  rw [attempts_append, run_append] at hlater
  have hresigned := hlater.done.1 hdone
  rw [resigned_append hund, hbegun.resigned_eq halive] at hresigned
  cases hresigned

/-- a started monitor that is not stopped has one worker for each target -/
theorem run_staffed (hacts : .stop ∉ acts) (hstart : .start ∈ acts) :
    (run c (start c) acts).workers.length = c.targets.length := by
  suffices h : (run c (start c) acts).lifecycle = .running →
      (run c (start c) acts).workers.length = c.targets.length from h (by simp [run_lifecycle, hacts, hstart])
  clear hacts hstart
  induction acts using List.reverseRecOn with
  | nil => rintro ⟨⟩
  | append_singleton acts a ih =>
    rw [run_snoc]
    generalize run c (start c) acts = s at ih
    cases a with
    | start => cases hl : s.lifecycle <;> simp_all [step]
    | stop => rintro ⟨⟩
    | go j =>
      rcases step_go_cases c s j with ⟨t, w, -, -, -, hstep⟩ | ⟨-, hstep⟩ <;> rw [hstep]
      · simpa using ih
      · exact ih
    | quit j =>
      simp only [step]
      split
      · split_ifs
        · simpa using ih
        · exact ih
      · exact ih
    | tick time => simp only [step]; split_ifs <;> exact ih

/-- the tasks that run are those that have not resigned -/
theorem run_runningTasks (delays : c.policy.HasDelays)
    (hacts : .stop ∉ acts) (hstart : .start ∈ acts) :
    (run c (start c) acts).runningTasks =
      (c.targets.zipIdx.filter fun x => !resigned x.1 (attempts c x.2 (start c) acts)).length := by
  have hlen := run_staffed (c := c) hacts hstart
  have hsame : (run c (start c) acts).workers.map (fun w => !w.phase.isDone) =
      c.targets.zipIdx.map fun x => !resigned x.1 (attempts c x.2 (start c) acts) := by
    apply List.ext_getElem
    · simp [hlen]
    intro j hj hj'
    rw [List.length_map] at hj
    have ht : c.targets[j]? = some c.targets[j] := List.getElem?_eq_getElem (hlen ▸ hj)
    have hw : (run c (start c) acts).workerAt j = (run c (start c) acts).workers[j] :=
      workerAt_eq (List.getElem?_eq_getElem hj)
    have hdone := (run_begun delays ht hacts).done
    rw [hw, ← isDone_iff] at hdone
    simp only [List.getElem_map, List.getElem_zipIdx, Nat.zero_add, Bool.not_inj_iff]
    exact Bool.eq_iff_iff.2 hdone
  rw [St.runningTasks, ← List.countP_eq_length_filter, ← List.countP_eq_length_filter]
  have hcount := congrArg (List.countP id) hsame
  rwa [List.countP_map, List.countP_map, Function.id_comp, Function.id_comp] at hcount

/-! ## No trace -/

/-- nothing is published or recorded of a host -/
structure Untouched (host : String) (s : St) : Prop where
  log : changesOf host s.log = []
  hosts : ∀ e ∈ s.tracker.hosts, e.1 ≠ host
  services : ∀ e ∈ s.tracker.services, e.1.host ≠ host

theorem mem_put {κ α : Type} [DecidableEq κ] {k : κ} {v : α} {table : List (κ × α)} {e : κ × α}
    (h : e ∈ Tracker.put k v table) : e.1 = k ∨ e ∈ table := by
  induction table with
  | nil => exact Or.inl (by simpa [Tracker.put] using congrArg Prod.fst (List.mem_singleton.1 h))
  | cons x xs ih =>
    simp only [Tracker.put] at h
    split_ifs at h
    · rcases List.mem_cons.1 h with rfl | h
      · exact Or.inl rfl
      · exact Or.inr (List.mem_cons_of_mem _ h)
    · rcases List.mem_cons.1 h with rfl | h
      · exact Or.inr List.mem_cons_self
      · exact (ih h).imp_right (List.mem_cons_of_mem _)

/-- a report makes entries of its own host only -/
theorem tell_entries (t : Target) (tracker : Tracker) (r : Report) :
    (∀ e ∈ (Worker.tell t tracker r).1.hosts, e.1 = t.host ∨ e ∈ tracker.hosts) ∧
      ∀ e ∈ (Worker.tell t tracker r).1.services, e.1.host = t.host ∨ e ∈ tracker.services := by
  have same (tracker : Tracker) : (∀ e ∈ tracker.hosts, e.1 = t.host ∨ e ∈ tracker.hosts) ∧
      ∀ e ∈ tracker.services, e.1.host = t.host ∨ e ∈ tracker.services :=
    ⟨fun _ he => Or.inr he, fun _ he => Or.inr he⟩
  cases r with
  | success =>
    simp only [Worker.tell, Tracker.success]
    split
    · exact same tracker
    all_goals exact ⟨fun _ he => mem_put he, fun _ he => Or.inr he⟩
  | failure reason =>
    simp only [Worker.tell, Tracker.failure]
    split
    · exact same tracker
    · exact ⟨fun _ he => mem_put he, fun _ he => Or.inr he⟩
  | observe o =>
    simp only [Worker.tell, Tracker.observe]
    split_ifs
    · exact same tracker
    all_goals exact ⟨fun _ he => Or.inr he, fun _ he => (mem_put he).imp_left fun hkey => by rw [hkey]⟩

/-- a report on another host leaves no trace of this one -/
theorem Untouched.other {host : String} (h : Untouched host s) {t' : Target} (hne : t'.host ≠ host) (r : Report)
    (tracker : s'.tracker = (Worker.tell t' s.tracker r).1)
    (log : s'.log = s.log ++ ((Worker.tell t' s.tracker r).2.map fun ch => (s.now, ch)).toList) :
    Untouched host s' := by
  obtain ⟨hhosts, hservices⟩ := tell_entries t' s.tracker r
  refine ⟨?_, fun e he => ?_, fun e he => ?_⟩
  · rw [log, changesOf_append, h.log]
    cases htell : (Worker.tell t' s.tracker r).2 with
    | none => rfl
    | some ch => simp [changesOf, tell_host htell, hne]
  · rw [tracker] at he
    rcases hhosts e he with heq | he
    · rw [heq]; exact hne
    · exact h.hosts e he
  · rw [tracker] at he
    rcases hservices e he with heq | he
    · rw [heq]; exact hne
    · exact h.services e he

/-- **No trace.** As long as nothing is known of the backend, and where the task has resigned, nothing is published or
recorded of a host that no other target has. -/
theorem run_untouched (delays : c.policy.HasDelays)
    (ht : c.targets[i]? = some t) (apart : Alone c i t) (hacts : .stop ∉ acts)
    (h : undecided (attempts c i (start c) acts) = true ∨ resigned t (attempts c i (start c) acts) = true) :
    Untouched t.host (run c (start c) acts) := by
  induction acts using List.reverseRecOn with
  | nil => exact ⟨rfl, by simp [run, start, Tracker.start], by simp [run, start, Tracker.start]⟩
  | append_singleton acts a ih =>
    simp only [List.mem_append, List.mem_singleton, not_or] at hacts
    have hbegun := run_begun delays ht hacts.1
    rw [attempts_snoc] at h
    -- what was decided before would be decided now
    have hbefore : undecided (attempts c i (start c) acts) = true ∨
        resigned t (attempts c i (start c) acts) = true := by
      cases hund : undecided (attempts c i (start c) acts) with
      | true => exact Or.inl rfl
      | false => simpa [undecided_append hund, resigned_append hund] using h
    have hs := ih hacts.1 hbefore
    rw [run_snoc]
    have hstep := step_worker ht (run_sound c acts) a
    generalize endedBy i (run c (start c) acts) a = ended at hstep
    have same {s' : St} (tracker : s'.tracker = (run c (start c) acts).tracker)
        (log : s'.log = (run c (start c) acts).log) :
        Untouched t.host s' := by
      refine ⟨by rw [log]; exact hs.log, ?_, ?_⟩ <;> rw [tracker]
      exacts [hs.hosts, hs.services]
    cases hstep with
    | rests _ tracker log => exact same tracker log
    | @other j t' ne target r _ tracker log => exact hs.other (apart j t' target ne) r tracker log
    | tells _ phase =>
      -- a worker that has something to report knows of the backend, and has not resigned
      have hfits := hbegun.fits
      rw [phase] at hfits
      have hund : undecided (attempts c i (start c) acts) = false := hfits
      have hres := hbegun.resigned_eq (by simp [phase])
      simp [hund, hres] at hbefore
    | proceeds _ _ _ tracker log => exact same tracker log
    | quits _ _ tracker log => exact same tracker log

/-- a task that resigns has not changed anything before -/
theorem silent_turn (delays : c.policy.HasDelays) (ht : c.targets[i]? = some t) {before : List Act}
    (hbefore : .stop ∉ before) (after : List Act)
    (h : resigned t (attempts c i (start c) (before ++ .go i :: after)) = true) :
    (step c (run c (start c) before) (.go i)).tracker = (run c (start c) before).tracker ∧
      (step c (run c (start c) before) (.go i)).log = (run c (start c) before).log := by
  have hbegun := run_begun delays ht hbefore
  generalize run c (start c) before = s at hbegun ⊢
  rcases step_go_cases c s i with ⟨t', w, -, hw, -, hstep⟩ | ⟨-, hstep⟩
  · rcases go_cases c.policy (c.hold s.log.length) t' s.now s.tracker w with ⟨_, _, _, _, _, hphase, -⟩ | ⟨-, hgo⟩
    · -- with something to report it would have heard of the backend, and not resigned
      rw [workerAt_eq hw] at hbegun
      have hfits := hbegun.fits
      rw [hphase] at hfits
      have hres := hbegun.resigned_eq (by simp [hphase])
      rw [attempts_append, resigned_append hfits, hres] at h
      cases h
    · rw [hstep, hgo]
      exact ⟨rfl, List.append_nil _⟩
  · rw [hstep]
    exact ⟨rfl, rfl⟩

/-- the worker takes its next turn as soon as its time has come, unless the monitor is stopped; one that waits on a
stream on which nothing comes any more has no such time -/
def GoesOn (c : Setup) (i : ℕ) (s : St) : Prop :=
  (∃ rest, (s.workerAt i).phase = .listening none rest) ∨
    ∃ due, (s.workerAt i).phase.due? = some due ∧ ∀ more, .stop ∉ more → max s.now due < (run c s more).now →
      ∃ before after, more = before ++ .go i :: after ∧ (run c s before).workerAt i = s.workerAt i ∧
        (run c s before).now = max s.now due

/-- a worker that has not ended goes on -/
theorem run_goesOn (ht : c.targets[i]? = some t) (hacts : .stop ∉ acts) (hstart : .start ∈ acts)
    (hdone : ((run c (start c) acts).workerAt i).phase ≠ .done) : GoesOn c i (run c (start c) acts) := by
  have hrunning : (run c (start c) acts).lifecycle ≠ .stopped := run_unstopped (by simp [start]) hacts
  have hw : (run c (start c) acts).workers[i]? = some ((run c (start c) acts).workerAt i) := by
    obtain ⟨hi, -⟩ := List.getElem?_eq_some_iff.1 ht
    have hlen := run_staffed (c := c) hacts hstart
    have hget := List.getElem?_eq_getElem (hlen ▸ hi : i < (run c (start c) acts).workers.length)
    rw [hget, workerAt_eq hget]
  cases hdue : ((run c (start c) acts).workerAt i).phase.due? with
  | none =>
    refine Or.inl ?_
    cases hphase : ((run c (start c) acts).workerAt i).phase with
    | listening item rest =>
      cases item with
      | none => exact ⟨rest, rfl⟩
      | some item => rw [hphase] at hdue; cases hdue
    | done => exact absurd hphase hdone
    | _ => rw [hphase] at hdue; cases hdue
  | some due =>
    exact Or.inr ⟨due, hdue, fun more hmore hlate => turn_taken ht (run_sound c acts) hrunning hw hdue hmore hlate⟩

end

/-- **When a task gives up.** Let every delay of the policy be defined, and let the monitor not be stopped.
- The task has ended exactly if its first answers made it resign: it polls from the start and its first list call
  answers that the backend is unavailable; it subscribes and its first attempt answers so; or subscriptions are not
  supported and the list call behind that answers so.
- Then it has recorded and published nothing: none of its turns has changed the tracker or the log, and where no other
  target has its host there is no entry and no change of the host at all. It makes no call any more. The tasks that
  have not resigned go on, and are those that are counted as running.
- A task that has not resigned goes on: it takes its next turn when its time has come.
- And it goes on retrying: a failure, be it that the backend is unavailable, is reported at once, and once that is
  published the worker is back on its stream or makes its next call, at a time that the clock does not pass. -/
theorem task_gives_up (c : Setup) (delays : c.policy.HasDelays) {i : ℕ} {t : Target} (ht : c.targets[i]? = some t)
    (acts : List Act) (hacts : .stop ∉ acts) :
    let s := run c (start c) acts
    let w := s.workerAt i
    let gone := resigned t (attempts c i (start c) acts)
    (w.phase = .done ↔ gone = true) ∧
    (gone = true →
      (∀ before after, acts = before ++ .go i :: after →
        let s' := run c (start c) before
        (step c s' (.go i)).tracker = s'.tracker ∧ (step c s' (.go i)).log = s'.log) ∧
      (Alone c i t → Untouched t.host s) ∧
      ∀ more, callsIn c i s more = [] ∧ attempts c i s more = []) ∧
    (.start ∈ acts →
      s.runningTasks = (c.targets.zipIdx.filter fun x => !resigned x.1 (attempts c x.2 (start c) acts)).length ∧
      (gone = false → GoesOn c i s)) ∧
    (∀ before a reason, acts = before ++ [.go i] → endedBy i (run c (start c) before) (.go i) = [a] →
      a.failure? = some reason → gone = false → ∃ next, w.phase = .reporting s.now [.failure reason] next) ∧
    (∀ reason next, w.phase = .reporting s.now [.failure reason] next →
      let s' := step c s (.go i)
      s'.tracker.reachability t.host = .unreachable ∧ ∃ free, (s'.workerAt i).phase = .reporting free [] next) ∧
    ∀ free next, w.phase = .reporting free [] next → (∃ stream, next = .listen stream) ∨
      ∃ x, w.nextCall? c.policy s.now = some x ∧ CallsNext c i s x := by
  intro s w gone
  have hbegun : Begun t (attempts c i (start c) acts) w := run_begun delays ht hacts
  refine ⟨hbegun.done, fun hgone => ⟨?_, fun apart => ?_, fun more => ?_⟩, fun hstart => ⟨?_, fun hgone => ?_⟩,
    ?_, ?_, ?_⟩
  · rintro before after rfl
    exact silent_turn delays ht (by simp_all) after hgone
  · exact run_untouched delays ht apart hacts (Or.inr hgone)
  · exact (ended_stays ht (run_sound c acts) (hbegun.done.2 hgone) more).2
  · exact run_runningTasks delays hacts hstart
  · exact run_goesOn ht hacts hstart fun hdone => by simp [gone, hbegun.done.1 hdone] at hgone
  · rintro before a reason rfl hended hfailed hgone
    have hs : s = step c (run c (start c) before) (.go i) := run_snoc c _ before _
    obtain ⟨ha, hnow, hworker⟩ := step_attempt ht hended
    have hw : w = _ := (congrArg (St.workerAt · i) hs).trans hworker
    have hdone : w.phase ≠ .done := by
      intro hdone
      simp [gone, hbegun.done.1 hdone] at hgone
    rw [hw] at hdone ⊢
    rw [hs, hnow]
    exact proceed_failed ha hfailed hdone
  · intro reason next hphase s'
    obtain ⟨htracker, -, hworker⟩ := report_told ht hphase le_rfl
    refine ⟨?_, _, congrArg Worker.phase hworker⟩
    simp [s', htracker, Worker.tell, Tracker.failure_reachability]
  · intro free next hphase
    refine (nextCall_of_told delays s.now hphase).imp_right ?_
    rintro ⟨x, hx⟩
    exact ⟨x, hx, next_call ht (run_sound c acts) hx⟩

/-! ## Four backends that are not available -/

/-- a backend that is not available -/
def unavailable : ProviderError := .unavailable "no such agent"

/-- a target whose provider has no subscriptions, as it turns out, and then nothing at all -/
def bare : Target where
  host := "shed"
  provider :=
    { source := "agent"
      pushes := true
      list := fun _ => ⟨0, .error unavailable⟩
      subscribe := fun _ => ⟨0, .error .unsupported⟩ }
  strategy := .push

/-- a target that is polled, and not available from the second time on -/
def fading : Target where
  host := "nas"
  provider :=
    { source := "agent"
      pushes := false
      list := fun n => ⟨0, if n = 0 then .ok [] else .error unavailable⟩
      subscribe := fun _ => ⟨0, .error .unsupported⟩ }
  strategy := .poll

/-- a target whose stream is lost, and which is not available from then on -/
def torn : Target where
  host := "edge"
  provider :=
    { source := "agent"
      pushes := true
      list := fun _ => ⟨0, .ok []⟩
      subscribe := fun n => ⟨0, if n = 0 then .ok [(200, .closed)] else .error (.opening unavailable)⟩ }
  strategy := .push

/-- the reason that is reported of it -/
def noAgent : String := (SubscriptionError.opening unavailable).message

/-- a poll every second -/
def everySecond : Config.MonitorSettings := ⟨1, true, 5, .async⟩

/-- two that are not available at the very first attempt, and two that are not any more -/
def halfGone : Setup := ⟨[gone, bare, fading, torn], everySecond.policy, fun _ _ => 0⟩

/-- until the attempt to open the lost stream again fails -/
def reopened : List Act :=
  [(1, .start), (2, .go 0), (5, .go 1), (5, .go 2), (6, .go 3), (1, .tick 100), (1, .go 0), (1, .tick 200), (3, .go 3),
    (1, .tick 1000), (4, .go 2), (1, .tick 1200), (2, .go 3)].flatMap fun (n, a) => List.replicate n a

/-- the first two tasks end and leave no trace; the other two go on, and the lost stream will be asked for once more -/
theorem task_gives_up_halfGone :
    let acts := reopened ++ [.go 3]
    let s := run halfGone (start halfGone) acts
    halfGone.policy.HasDelays ∧ .stop ∉ acts ∧ .start ∈ acts ∧
    ((s.workerAt 0).phase = .done ∧ Untouched gone.host s ∧ ∀ more, callsIn halfGone 0 s more = []) ∧
    ((s.workerAt 1).phase = .done ∧ Untouched bare.host s) ∧
    (s.runningTasks = 2 ∧ GoesOn halfGone 2 s) ∧
    (∃ next, (s.workerAt 3).phase = .reporting 1200 [.failure noAgent] next) ∧
    let s' := step halfGone s (.go 3)
    s'.tracker.reachability torn.host = .unreachable ∧
      CallsNext halfGone 3 s' (3200, .subscribe 2) := by
  intro acts s
  have delays : halfGone.policy.HasDelays := settings_hasDelays everySecond
  have hstop : .stop ∉ acts := by decide +kernel
  have hstart : .start ∈ acts := by decide +kernel
  have hosts : (halfGone.targets.map (·.host)).Nodup := by decide +kernel
  have h0 : resigned gone (attempts halfGone 0 (start halfGone) acts) = true := by decide +kernel
  have h1 : resigned bare (attempts halfGone 1 (start halfGone) acts) = true := by decide +kernel
  have h2 : resigned fading (attempts halfGone 2 (start halfGone) acts) = false := by decide +kernel
  have h3 : resigned torn (attempts halfGone 3 (start halfGone) acts) = false := by decide +kernel
  have hcount : (halfGone.targets.zipIdx.filter fun x =>
      !resigned x.1 (attempts halfGone x.2 (start halfGone) acts)).length = 2 := by decide +kernel
  have hended : (endedBy 3 (run halfGone (start halfGone) reopened) (.go 3)).map Attempt.failure? = [some noAgent] := by
    decide +kernel
  have hnow : s.now = 1200 := by decide +kernel
  have hcall : ((step halfGone s (.go 3)).workerAt 3).nextCall? halfGone.policy (step halfGone s (.go 3)).now =
      some (3200, .subscribe 2) := by decide +kernel
  have first := task_gives_up halfGone delays (i := 0) (t := gone) rfl acts hstop
  have second := task_gives_up halfGone delays (i := 1) (t := bare) rfl acts hstop
  have third := task_gives_up halfGone delays (i := 2) (t := fading) rfl acts hstop
  have fourth := task_gives_up halfGone delays (i := 3) (t := torn) rfl acts hstop
  have fifth := task_gives_up halfGone delays (i := 3) (t := torn) rfl (acts ++ [.go 3]) (by decide +kernel)
  have hs : run halfGone (start halfGone) acts = s := rfl
  have hs' : run halfGone (start halfGone) (acts ++ [.go 3]) = step halfGone s (.go 3) := run_snoc _ _ _ _
  rw [hs] at first second third fourth
  rw [hs'] at fifth
  clear_value s
  obtain ⟨hdone0, hgone0, -⟩ := first
  obtain ⟨hdone1, hgone1, -⟩ := second
  obtain ⟨-, -, hrun, -⟩ := third
  obtain ⟨-, -, -, hfails, htells, -⟩ := fourth
  obtain ⟨-, -, -, -, -, hback⟩ := fifth
  obtain ⟨-, htrace0, hcalls0⟩ := hgone0 h0
  obtain ⟨-, htrace1, -⟩ := hgone1 h1
  obtain ⟨hrunning, hgoes⟩ := hrun hstart
  obtain ⟨a, hended, hfailed⟩ := List.map_eq_singleton_iff.1 hended
  obtain ⟨next, hnext⟩ := hfails reopened a noAgent rfl hended hfailed h3
  obtain ⟨hdown, free, htold⟩ := htells noAgent next hnext
  rw [hnow] at hnext
  refine ⟨delays, hstop, hstart, ⟨hdone0.2 h0, htrace0 (alone_of_nodup hosts rfl), fun more => (hcalls0 more).1⟩,
    ⟨hdone1.2 h1, htrace1 (alone_of_nodup hosts rfl)⟩, ⟨hrunning.trans hcount, hgoes h2⟩, ⟨next, hnext⟩, hdown, ?_⟩
  rcases hback free next htold with ⟨stream, rfl⟩ | ⟨x, hx, hmakes⟩
  · rw [Worker.nextCall?, htold] at hcall
    cases hcall
  · obtain rfl := Option.some.inj (hx.symm.trans hcall)
    exact hmakes

/-! ## A policy without a delay -/

/-- a target that is down for now -/
def refusing : Target where
  host := "attic"
  provider :=
    { source := "agent"
      pushes := true
      list := fun _ => ⟨0, .ok []⟩
      subscribe := fun _ => ⟨0, .error (.opening (.connection "refused"))⟩ }
  strategy := .push

/-- its first delay would be the longest span there is, which no double holds -/
def untimed : Setup :=
  ⟨[refusing], { Policy.standard with backoff := ⟨.longest, .longest, Double.ofNat 2, 5⟩ }, fun _ _ => 0⟩

/-- **Without a delay a task ends.** The first attempt fails in passing, and the task that has to wait for the next one ends
there, although its answers did not make it resign. -/
theorem task_ends_untimed :
    let acts := .start :: List.replicate 5 (.go 0)
    let s := run untimed (start untimed) acts
    .stop ∉ acts ∧
      (attempts untimed 0 (start untimed) acts).map Attempt.failure? =
        [some (SubscriptionError.opening (.connection "refused")).message] ∧
      resigned refusing (attempts untimed 0 (start untimed) acts) = false ∧
      (s.workerAt 0).phase = .done ∧ s.runningTasks = 0 ∧ untimed.policy.backoff.next? 0 = none := by
  intro acts s
  have hdone : (s.workerAt 0).phase.isDone = true := by decide +kernel
  refine ⟨?_, ?_, ?_, isDone_iff.1 hdone, ?_⟩
  all_goals decide +kernel

end ServiceMonitor.Monitor
