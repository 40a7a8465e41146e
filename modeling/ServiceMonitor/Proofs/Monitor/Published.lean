import ServiceMonitor.Proofs.Monitor.WorkerStep

/-!
What a run publishes for one host.

The workers of all targets share one tracker and one log. `Follows` says how the reference watch of one target sees
the state: it knows what the tracker has recorded for the host, and what it expects of the attempts so far is what the
log holds of the host and then what the worker has still to report. A worker of another target leaves this alone
because its host is another one.

- `step_follows`: an act keeps it, with the attempts that the act ends.
- `run_follows_alone`: so does a run from the start, if no other target has the host; `run_follows` if all hosts are apart.
-/

namespace ServiceMonitor.Monitor

/-! ## The provider's script -/

/-- calls made are attempts ended, but for the one under way, which has the provider's answer -/
def Placed (p : Policy) (t : Target) (x : Place) (w : Worker) : Prop :=
  match w.phase with
  | .polling _ _ answer => w.lists = x.lists + 1 ∧ w.subscribes = x.opens ∧ x.Admits p t (.listed answer)
  | .opening _ answer => w.lists = x.lists ∧ w.subscribes = x.opens + 1 ∧ x.Admits p t (.opened answer)
  | .resyncing stream _ answer =>
    w.lists = x.lists + 1 ∧ w.subscribes = x.opens ∧ x.Admits p t (.listed answer) ∧ x.stream = stream.map (·.2) ∧
      w.startup = false
  | .listening item rest => w.lists = x.lists ∧ w.subscribes = x.opens ∧ x.stream = (item.toList ++ rest).map (·.2)
  | .reporting _ _ (.listen rest) => w.lists = x.lists ∧ w.subscribes = x.opens ∧ x.stream = rest.map (·.2)
  | .done => True
  | _ => w.lists = x.lists ∧ w.subscribes = x.opens

theorem list_admitted {p : Policy} {t : Target} {x : Place} {w : Worker} (h : w.lists = x.lists) (now : ℕ) :
    x.Admits p t (.listed (w.list p t now).1.2) := by
  rw [Place.Admits, Worker.list, h]
  exact limited_snd p _ now 0 _

theorem subscribe_admitted {p : Policy} {t : Target} {x : Place} {w : Worker} (h : w.subscribes = x.opens) (now : ℕ) :
    x.Admits p t (.opened (p.limited (.opening (.timeout p.timeout)) now (t.provider.subscribe w.subscribes)).2) := by
  rw [Place.Admits, h]
  exact limited_snd p _ now 0 _

/-- the attempt of a phase that is over has the provider's answer, and what comes next is placed behind it -/
theorem proceed_placed {p : Policy} {t : Target} {x : Place} {w : Worker} (h : Placed p t x w) (now : ℕ) :
    (∀ a ∈ w.phase.attempt?, x.Admits p t a) ∧
      Placed p t (w.phase.attempt?.toList.foldl Place.next x) (w.proceed p t now) := by
  obtain ⟨phase, startup, failures, lists, subscribes⟩ := w
  cases phase with
  | fresh =>
    refine ⟨by simp [Phase.attempt?], ?_⟩
    simp only [Worker.proceed]
    split <;> exact h
  | ticking due =>
    obtain ⟨hl, hs⟩ := h
    exact ⟨by simp [Phase.attempt?], congrArg (· + 1) hl, hs, list_admitted hl now⟩
  | polling due ends answer =>
    obtain ⟨hl, hs, ha⟩ := h
    refine ⟨by simpa [Phase.attempt?] using ha, ?_⟩
    simp only [Worker.proceed]
    split
    · trivial
    · exact ⟨hl, hs⟩
  | subscribing =>
    obtain ⟨hl, hs⟩ := h
    exact ⟨by simp [Phase.attempt?], hl, congrArg (· + 1) hs, subscribe_admitted hs now⟩
  | opening ends answer =>
    obtain ⟨hl, hs, ha⟩ := h
    refine ⟨by simpa [Phase.attempt?] using ha, ?_⟩
    cases answer with
    | ok stream =>
      exact ⟨congrArg (· + 1) hl, hs, list_admitted (x := x.next (.opened (.ok stream))) hl now, rfl, rfl⟩
    | error e =>
      by_cases hu : e = .unsupported
      · subst hu
        exact ⟨hl, hs⟩
      · rw [proceed_opening_error hu]
        split
        · trivial
        · exact ⟨hl, hs⟩
  | resyncing stream ends answer =>
    obtain ⟨hl, hs, ha, hx, hstart⟩ := h
    exact ⟨by simpa [Phase.attempt?] using ha, hl, hs, hx⟩
  | listening item rest =>
    obtain ⟨hl, hs, hx⟩ := h
    cases item with
    | none => exact ⟨by simp [Phase.attempt?], hl, hs, hx⟩
    | some item =>
      obtain ⟨due, item⟩ := item
      simp only [Option.toList_some, List.singleton_append, List.map_cons] at hx
      refine ⟨by simp [Phase.attempt?, Place.Admits, hx], ?_⟩
      cases item with
      | observation o => exact ⟨hl, hs, by simp [Phase.attempt?, Place.next, hx]⟩
      | fault e => exact ⟨hl, hs⟩
      | closed => exact ⟨hl, hs⟩
  | reporting free reports next =>
    refine ⟨by simp [Phase.attempt?], ?_⟩
    cases reports with
    | cons r rs => cases next <;> exact h
    | nil =>
      cases next with
      | tick due => exact h
      | listen stream =>
        obtain ⟨hl, hs, hx⟩ := h
        cases stream with
        | nil => exact ⟨hl, hs, hx⟩
        | cons item rest => exact ⟨hl, hs, hx⟩
      | reopen =>
        obtain ⟨phase, hw, hphase⟩ :=
          reopen_cases p now ⟨.reporting free [] .reopen, startup, failures, lists, subscribes⟩
        simp only [Worker.proceed, hw]
        rcases hphase with rfl | rfl | ⟨_, rfl⟩
        · exact h
        · trivial
        · exact h
  | pausing until_ => exact ⟨by simp [Phase.attempt?], h⟩
  | done => exact ⟨by simp [Phase.attempt?], trivial⟩

/-! ## The watch and the state -/

/-- the changes of one host in a log -/
def changesOf (host : String) (log : List (ℕ × Change)) : List Change := (log.map (·.2)).filter (·.host = host)

@[simp] theorem changesOf_append (host : String) (log log' : List (ℕ × Change)) :
    changesOf host (log ++ log') = changesOf host log ++ changesOf host log' := by
  simp [changesOf]

/-- the watch of target `t`, observed by worker `i`, behind attempts and beside a state -/
structure Follows (c : Setup) (i : ℕ) (t : Target) (as : List Attempt) (s : St) : Prop where
  idle : s.lifecycle = .idle → s.workers = []
  skipFirst : s.tracker.skipFirst = c.policy.skipFirst
  expected : ∃ m : Watch, Agrees t m s.tracker ∧ m.startup = (s.workerAt i).startup ∧
    Watch.run c.policy.skipFirst t as .start =
      Watch.andThen (m, changesOf t.host s.log) (Watch.tellAll c.policy.skipFirst t (s.workerAt i).phase.pending)
  genuine : Genuine c.policy t .start as
  placed : Placed c.policy t (as.foldl Place.next .start) (s.workerAt i)

section

variable {c : Setup} {i : ℕ} {t t' : Target} {as : List Attempt} {s s' : St}

theorem start_follows (c : Setup) (i : ℕ) (t : Target) : Follows c i t [] (start c) where
  idle _ := rfl
  skipFirst := rfl
  expected := ⟨.start, agrees_start t _, rfl, rfl⟩
  genuine := trivial
  placed := ⟨rfl, rfl⟩

/-- an act that nobody takes part in -/
theorem Follows.of_eq (h : Follows c i t as s) (hidle : s'.lifecycle = .idle → s'.workers = [])
    (htracker : s'.tracker = s.tracker) (hlog : s'.log = s.log) (hworker : s'.workerAt i = s.workerAt i) :
    Follows c i t as s' where
  idle := hidle
  skipFirst := by rw [htracker]; exact h.skipFirst
  expected := by rw [htracker, hlog, hworker]; exact h.expected
  genuine := h.genuine
  placed := by rw [hworker]; exact h.placed

/-- a report of the worker itself -/
theorem Follows.report (h : Follows c i t as s) {free busy : ℕ} {r : Report} {rs : List Report} {next : Next}
    (hphase : (s.workerAt i).phase = .reporting free (r :: rs) next) (hidle : s'.lifecycle = .idle → s'.workers = [])
    (hworker : s'.workerAt i = { s.workerAt i with phase := .reporting busy rs next })
    (htracker : s'.tracker = (Worker.tell t s.tracker r).1)
    (hlog : s'.log = s.log ++ ((Worker.tell t s.tracker r).2.map fun ch => (s.now, ch)).toList) :
    Follows c i t as s' where
  idle := hidle
  skipFirst := by rw [htracker, tell_skipFirst]; exact h.skipFirst
  expected := by
    obtain ⟨m, hm, hstart, hrun⟩ := h.expected
    obtain ⟨hagree, hsays⟩ := hm.tell r
    rw [h.skipFirst] at hagree hsays
    refine ⟨_, by rw [htracker]; exact hagree, ?_, ?_⟩
    · rw [Watch.tell_startup, hworker]; exact hstart
    · have hchanges : changesOf t.host s'.log = changesOf t.host s.log ++ (m.tell c.policy.skipFirst t r).2 := by
        rw [hlog, changesOf_append, ← hsays]
        congr 1
        cases htell : (Worker.tell t s.tracker r).2 with
        | none => rfl
        | some ch => simp [changesOf, tell_host htell]
      rw [hrun, hphase, hworker, hchanges]
      simp only [Phase.pending, Watch.tellAll, Watch.andThen, List.append_assoc]
  genuine := h.genuine
  placed := by
    have hplaced := h.placed
    rw [hworker]
    simp only [Placed, hphase] at hplaced ⊢
    cases next <;> exact hplaced

/-- a phase of the worker itself -/
theorem Follows.proceed (h : Follows c i t as s) (hphase : (s.workerAt i).phase.pending = [])
    (hidle : s'.lifecycle = .idle → s'.workers = []) (hworker : s'.workerAt i = (s.workerAt i).proceed c.policy t s.now)
    (htracker : s'.tracker = s.tracker) (hlog : s'.log = s.log) :
    Follows c i t (as ++ (s.workerAt i).phase.attempt?.toList) s' where
  idle := hidle
  skipFirst := by rw [htracker]; exact h.skipFirst
  expected := by
    obtain ⟨m, hm, hstart, hrun⟩ := h.expected
    have hresync : ∀ stream ends answer, (s.workerAt i).phase = .resyncing stream ends answer →
        (s.workerAt i).startup = false := by
      intro stream ends answer hp
      have := h.placed
      simp only [Placed, hp] at this
      exact this.2.2.2.2
    have hnext := proceed_expected c.policy t s.now c.policy.skipFirst m (s.workerAt i) hstart hphase hresync
    refine ⟨{ m with startup := ((s.workerAt i).proceed c.policy t s.now).startup }, ?_, by rw [hworker], ?_⟩
    · rw [htracker]; exact ⟨hm.down, hm.known⟩
    · rw [hworker, hlog]
      rw [hphase] at hrun
      simp only [Watch.andThen, Watch.tellAll, List.append_nil] at hrun
      simp only [Watch.andThen, ← hnext, Watch.afterPhase]
      cases (s.workerAt i).phase.attempt? with
      | none => simpa using hrun
      | some a => rw [Option.toList_some, Watch.run_snoc, hrun]; rfl
  genuine := by
    have hadmits := (proceed_placed h.placed s.now).1
    cases ha : (s.workerAt i).phase.attempt? with
    | none => simpa using h.genuine
    | some a => exact (genuine_snoc _ _ _ _ _).2 ⟨h.genuine, hadmits a ha⟩
  placed := by
    rw [hworker, List.foldl_append]
    exact (proceed_placed h.placed s.now).2

/-- a report of a worker whose host is another one -/
theorem Follows.other (h : Follows c i t as s) (hne : t'.host ≠ t.host) (r : Report)
    (hidle : s'.lifecycle = .idle → s'.workers = [])
    (hworker : s'.workerAt i = s.workerAt i) (htracker : s'.tracker = (Worker.tell t' s.tracker r).1)
    (hlog : s'.log = s.log ++ ((Worker.tell t' s.tracker r).2.map fun ch => (s.now, ch)).toList) :
    Follows c i t as s' where
  idle := hidle
  skipFirst := by rw [htracker, tell_skipFirst]; exact h.skipFirst
  expected := by
    obtain ⟨m, hm, hstart, hrun⟩ := h.expected
    refine ⟨m, by rw [htracker]; exact hm.tell_other hne r, by rw [hworker]; exact hstart, ?_⟩
    have hchanges : changesOf t.host s'.log = changesOf t.host s.log := by
      rw [hlog, changesOf_append]
      cases htell : (Worker.tell t' s.tracker r).2 with
      | none => simp [changesOf]
      | some ch => simp [changesOf, tell_host htell, hne]
    rw [hworker, hchanges]
    exact hrun
  genuine := h.genuine
  placed := by rw [hworker]; exact h.placed

/-- the worker itself is stopped -/
theorem Follows.quit (h : Follows c i t as s) (hwaits : (s.workerAt i).phase.isWaiting = true)
    (hidle : s'.lifecycle = .idle → s'.workers = [])
    (hworker : s'.workerAt i = (s.workerAt i).quit) (htracker : s'.tracker = s.tracker) (hlog : s'.log = s.log) :
    Follows c i t (as ++ [.abandoned]) s' where
  idle := hidle
  skipFirst := by rw [htracker]; exact h.skipFirst
  expected := by
    obtain ⟨m, hm, hstart, hrun⟩ := h.expected
    have hphase := pending_of_not_reporting (waiting_not_reporting hwaits)
    refine ⟨m, by rw [htracker]; exact hm, by rw [hworker]; exact hstart, ?_⟩
    rw [Watch.run_snoc, hrun, hphase, hworker, hlog]
    simp only [Watch.andThen, Watch.tellAll, Watch.after, Worker.quit, Phase.pending, List.append_nil]
  genuine := (genuine_snoc _ _ _ _ _).2 ⟨h.genuine, trivial⟩
  placed := by rw [hworker]; trivial

/-! ## Steps and runs -/

/-- **One act.** The watch goes on with the attempts that the act ends. -/
theorem step_follows {ended : List Attempt} (alone : Alone c i t) (hidle : s'.Sound)
    (hstep : WorkerStep c i t s s' ended) (h : Follows c i t as s) :
    Follows c i t (as ++ ended) s' := by
  cases hstep with
  | rests worker tracker log =>
    rw [List.append_nil]
    exact h.of_eq hidle tracker log worker
  | other ne target r worker tracker log =>
    rw [List.append_nil]
    exact h.other (alone _ _ target ne) r hidle worker tracker log
  | tells _ phase worker tracker log =>
    rw [List.append_nil]
    exact h.report phase hidle worker tracker log
  | proceeds _ told worker tracker log => exact h.proceed told hidle worker tracker log
  | quits must worker tracker log => exact h.quit (waits_of_mustQuit must) hidle worker tracker log

/-- **A run from the start.** The watch of a target that is the only one of its host follows it with its attempts. -/
theorem run_follows_alone (alone : Alone c i t) (ht : c.targets[i]? = some t) (acts : List Act) :
    Follows c i t (attempts c i (start c) acts) (run c (start c) acts) :=
  run_worker ht (start_follows c i t) (step_follows alone) acts

theorem run_follows (hosts : (c.targets.map (·.host)).Nodup) (ht : c.targets[i]? = some t) (acts : List Act) :
    Follows c i t (attempts c i (start c) acts) (run c (start c) acts) :=
  run_follows_alone (alone_of_nodup hosts ht) ht acts

end

end ServiceMonitor.Monitor
