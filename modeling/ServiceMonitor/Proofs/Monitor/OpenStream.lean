import ServiceMonitor.Proofs.Monitor.Published

/-!
A worker on an open stream.

Behind an opened subscription a worker makes one list call, tells its outcome, and then tells what the stream yields, until
it is lost. `sinceOpened` are its attempts since then, and `OnStream` says for each phase what they are and whether the
watch of the target has the host down: the list call and every item go into the same record, so an item brings a host up
whose list call has failed.

- `run_onStream`: every run keeps `OnStream`.
- `listening_reachable`: on an open stream a host is recorded reachable as soon as its list call has succeeded or one item
  has been yielded.
- `reachable_without_snapshot`: so it can be recorded reachable while what happened before the stream was opened is not
  known.
-/

namespace ServiceMonitor.Monitor

/-! ## Attempts since the subscription was opened -/

/-- the attempt opened a subscription -/
def Attempt.opens : Attempt → Bool
  | .opened (.ok _) => true
  | _ => false

/-- the attempt is a list call that succeeded -/
def Attempt.lists : Attempt → Bool
  | .listed (.ok _) => true
  | _ => false

/-- an attempt behind others that were made since a subscription was opened -/
def attemptSince (since : Option (List Attempt)) (a : Attempt) : Option (List Attempt) :=
  if a.opens then some [] else since.map (· ++ [a])

/-- the attempts since the last subscription was opened; none before the first -/
def sinceOpened (as : List Attempt) : Option (List Attempt) := as.foldl attemptSince none

/-- a list call has succeeded since the last subscription was opened -/
def resynced (as : List Attempt) : Bool := (sinceOpened as).any fun since => since.any Attempt.lists

/-- a stream has yielded observations -/
def yields (os : List Observation) : List Attempt := os.map fun o => .pushed (.observation o)

theorem sinceOpened_snoc (as : List Attempt) (a : Attempt) :
    sinceOpened (as ++ [a]) = attemptSince (sinceOpened as) a := by
  rw [sinceOpened, List.foldl_append]; rfl

theorem sinceOpened_yields {as : List Attempt} {answer : ListAnswer} {os : List Observation}
    (h : sinceOpened as = some (.listed answer :: yields os)) (o : Observation) :
    sinceOpened (as ++ [.pushed (.observation o)]) = some (.listed answer :: yields (os ++ [o])) := by
  rw [sinceOpened_snoc, h, attemptSince, yields, yields, List.map_append]
  rfl

theorem resynced_eq {as : List Attempt} {answer : ListAnswer} {os : List Observation}
    (h : sinceOpened as = some (.listed answer :: yields os)) : resynced as = answer.isOk := by
  have hitems : (yields os).any Attempt.lists = false := by simp [yields, Attempt.lists]
  rw [resynced, h, Option.any_some, List.any_cons, hitems, Bool.or_false]
  cases answer <;> rfl

/-! ## The watch behind these attempts -/

namespace Watch

variable (skipFirst : Bool) (t : Target) (w : Watch)

theorem see_down (o : Observation) : (w.see skipFirst t o).1.down = w.down := by
  simp only [see]; split_ifs <;> rfl

theorem seeAll_down (os : List Observation) : (w.seeAll skipFirst t os).1.down = w.down := by
  induction os generalizing w with
  | nil => rfl
  | cons o os ih => rw [seeAll, andThen, ih, see_down]

theorem after_listed_down (answer : ListAnswer) (h : w.startup = false) :
    (w.after skipFirst t (.listed answer)).1.down = !answer.isOk := by
  cases answer with
  | ok os => simp only [after, andThen, seeAll_down, reach]; rfl
  | error e => simp only [after, h, Bool.false_eq_true, false_and, if_false, miss]; rfl

theorem after_observation_down (o : Observation) :
    (w.after skipFirst t (.pushed (.observation o))).1.down = false := by
  simp only [after, andThen, see_down, reach]

end Watch

/-! ## Phases behind an opened subscription -/

/-- the worker waits on an open stream -/
def Phase.isListening : Phase → Bool
  | .listening .. => true
  | _ => false

/-- a subscription is open, and the list call behind it has begun -/
def Phase.isOnStream : Phase → Bool
  | .resyncing .. | .reporting _ _ (.listen _) | .listening .. => true
  | _ => false

theorem listening_of_isListening {phase : Phase} (h : phase.isListening = true) :
    ∃ item rest, phase = .listening item rest := by
  cases phase with
  | listening item rest => exact ⟨item, rest, rfl⟩
  | _ => cases h

/-- what going on is to a worker that is on a stream before or behind it, with the attempt that is over -/
inductive StreamStep (now : ℕ) (w w' : Worker) : Prop
  /-- a subscription was opened, and the list call begins -/
  | opens {stream : Stream} {ends ends' : ℕ} {answer : ListAnswer} (phase : w.phase = .opening ends (.ok stream))
    (ended : w.phase.attempt?.toList = [.opened (.ok stream)]) (next : w'.phase = .resyncing stream ends' answer)
    (lists : w.lists < w'.lists)
  /-- the list call is over -/
  | lists {stream : Stream} {ends : ℕ} (answer : ListAnswer) (phase : w.phase = .resyncing stream ends answer)
    (ended : w.phase.attempt?.toList = [.listed answer])
    (next : w'.phase = .reporting now (Worker.reportsOf answer) (.listen stream))
  /-- an observation was yielded -/
  | yields {due : ℕ} {rest : Stream} (o : Observation) (phase : w.phase = .listening (some (due, .observation o)) rest)
    (ended : w.phase.attempt?.toList = [.pushed (.observation o)])
    (next : w'.phase = .reporting now [.success, .observe o] (.listen rest))
  /-- what there was to tell is told, and the next item is waited for -/
  | waits {free : ℕ} {stream rest : Stream} {item : Option (ℕ × Item)} (phase : w.phase = .reporting free [] (.listen stream))
    (ended : w.phase.attempt?.toList = []) (next : w'.phase = .listening item rest)
  /-- nothing comes any more -/
  | silent {rest : Stream} (phase : w.phase = .listening none rest) (ended : w.phase.attempt?.toList = [])
    (next : w'.phase = w.phase)
  | leaves (next : w'.phase.isOnStream = false)

/-- a worker that has told everything and goes on -/
theorem proceed_stream {w : Worker} (p : Policy) (t : Target) (now : ℕ) (htold : w.phase.pending = []) :
    StreamStep now w (w.proceed p t now) := by
  obtain ⟨phase, startup, failures, lists, subscribes⟩ := w
  cases phase with
  | fresh =>
    refine .leaves ?_
    simp only [Worker.proceed]
    split <;> rfl
  | ticking due => exact .leaves rfl
  | polling due ends answer =>
    refine .leaves ?_
    simp only [Worker.proceed]
    split <;> rfl
  | subscribing => exact .leaves rfl
  | opening ends answer =>
    cases answer with
    | ok stream => exact .opens rfl rfl rfl (Nat.lt_succ_self lists)
    | error e =>
      refine .leaves ?_
      by_cases hu : e = .unsupported
      · subst hu; rfl
      · rw [proceed_opening_error hu]
        split <;> rfl
  | resyncing stream ends answer => exact .lists answer rfl rfl rfl
  | listening item rest =>
    cases item with
    | none => exact .silent rfl rfl rfl
    | some item =>
      obtain ⟨due, item⟩ := item
      cases item with
      | observation o => exact .yields o rfl rfl rfl
      | fault e => exact .leaves rfl
      | closed => exact .leaves rfl
  | reporting free reports next =>
    simp only [Phase.pending] at htold
    subst htold
    cases next with
    | tick due => exact .leaves rfl
    | listen stream =>
      cases stream with
      | nil => exact .waits rfl rfl rfl
      | cons item rest => exact .waits rfl rfl rfl
    | reopen =>
      obtain ⟨phase, hw, hphase⟩ :=
        reopen_cases p now ⟨.reporting free [] .reopen, startup, failures, lists, subscribes⟩
      refine .leaves ?_
      simp only [Worker.proceed, hw]
      rcases hphase with rfl | rfl | ⟨_, rfl⟩ <;> rfl
  | pausing until_ => exact .leaves rfl
  | done => exact .leaves rfl

/-! ## The attempts behind an opened subscription -/

/-- the attempts since the subscription was opened, by the phase of the worker, and the watch behind them -/
def OnStream (skipFirst : Bool) (t : Target) (as : List Attempt) (phase : Phase) : Prop :=
  match phase with
  | .resyncing .. => sinceOpened as = some [] ∧ (Watch.run skipFirst t as .start).1.startup = false
  | .reporting _ _ (.listen _) | .listening .. =>
    ∃ answer os, sinceOpened as = some (.listed answer :: yields os) ∧
      ((Watch.run skipFirst t as .start).1.down = false ↔ answer.isOk = true ∨ os ≠ [])
  | _ => True

section

variable {c : Setup} {i : ℕ} {t : Target} {as : List Attempt} {s : St} {skipFirst : Bool}

theorem OnStream.of_left {phase : Phase} (h : phase.isOnStream = false) : OnStream skipFirst t as phase := by
  unfold OnStream
  split <;> trivial

theorem proceed_onStream {w : Worker} (h : OnStream skipFirst t as w.phase) (p : Policy) (now : ℕ)
    (htold : w.phase.pending = []) : OnStream skipFirst t (as ++ w.phase.attempt?.toList) (w.proceed p t now).phase := by
  cases proceed_stream p t now htold with
  | opens phase ended next =>
    rw [next, ended]
    refine ⟨sinceOpened_snoc as _, ?_⟩
    rw [Watch.run_snoc]
    rfl
  | lists answer phase ended next =>
    rw [phase] at h
    obtain ⟨hsince, hstart⟩ := h
    rw [next, ended]
    refine ⟨answer, [], ?_, ?_⟩
    · rw [sinceOpened_snoc, hsince]
      rfl
    · rw [Watch.run_snoc, Watch.andThen, Watch.after_listed_down _ _ _ _ hstart]
      simp
  | yields o phase ended next =>
    rw [phase] at h
    obtain ⟨answer, os, hsince, -⟩ := h
    rw [next, ended]
    refine ⟨answer, os ++ [o], sinceOpened_yields hsince o, ?_⟩
    rw [Watch.run_snoc, Watch.andThen, Watch.after_observation_down]
    simp
  | waits phase ended next =>
    rw [phase] at h
    rw [next, ended, List.append_nil]
    exact h
  | silent phase ended next =>
    rw [next, ended, List.append_nil]
    exact h
  | leaves next => exact OnStream.of_left next

/-- an act keeps it -/
theorem step_onStream {s' : St} {ended : List Attempt} (hstep : WorkerStep c i t s s' ended)
    (h : OnStream c.policy.skipFirst t as (s.workerAt i).phase) :
    OnStream c.policy.skipFirst t (as ++ ended) (s'.workerAt i).phase := by
  cases hstep with
  | rests worker => rw [worker, List.append_nil]; exact h
  | other _ _ _ worker => rw [worker, List.append_nil]; exact h
  | @tells _ _ _ _ next _ phase worker =>
    rw [phase] at h
    rw [worker, List.append_nil]
    cases next <;> exact h
  | proceeds _ told worker => rw [worker]; exact proceed_onStream h c.policy s.now told
  | quits _ worker => rw [worker]; trivial

theorem run_onStream (ht : c.targets[i]? = some t) (acts : List Act) :
    OnStream c.policy.skipFirst t (attempts c i (start c) acts) ((run c (start c) acts).workerAt i).phase :=
  run_worker (P := fun as s => OnStream c.policy.skipFirst t as (s.workerAt i).phase) ht trivial
    (fun _ hstep h => step_onStream hstep h) acts

/-! ## The host in the tracker -/

/-- the report is on the host itself -/
def Report.isOnHost : Report → Bool
  | .success | .failure _ => true
  | .observe _ => false

/-- behind the list call of an open stream something is recorded of the host, or about to be -/
def Heard (reachability : Reachability) (phase : Phase) : Prop :=
  match phase with
  | .reporting _ reports (.listen _) => reachability ≠ .unknown ∨ ∃ r ∈ reports, r.isOnHost = true
  | .listening .. => reachability ≠ .unknown
  | _ => True

/-- a report on its own host makes something known of it -/
theorem tell_heard {r : Report} (h : r.isOnHost = true) (t : Target) (tracker : Tracker) :
    (Worker.tell t tracker r).1.reachability t.host ≠ .unknown := by
  cases r with
  | success => simp [Worker.tell, Tracker.success_reachability]
  | failure reason => simp [Worker.tell, Tracker.failure_reachability]
  | observe o => cases h

/-- no report makes anything unknown again -/
theorem tell_keeps_heard {tracker : Tracker} {host : String} (h : tracker.reachability host ≠ .unknown) (t : Target)
    (r : Report) : (Worker.tell t tracker r).1.reachability host ≠ .unknown := by
  cases r with
  | success => rw [Worker.tell, Tracker.success_reachability]; split_ifs <;> simp [h]
  | failure reason => rw [Worker.tell, Tracker.failure_reachability]; split_ifs <;> simp [h]
  | observe o => simpa [Worker.tell] using h

theorem Heard.mono {r r' : Reachability} {phase : Phase} (h : Heard r phase) (hr : r ≠ .unknown → r' ≠ .unknown) :
    Heard r' phase := by
  cases phase with
  | reporting free reports next =>
    cases next with
    | listen rest => exact h.imp_left hr
    | tick due => trivial
    | reopen => trivial
  | listening item rest => exact hr h
  | _ => trivial

theorem reportsOf_isOnHost (answer : ListAnswer) : ∃ r ∈ Worker.reportsOf answer, r.isOnHost = true := by
  cases answer with
  | ok os => exact ⟨.success, by simp [Worker.reportsOf], rfl⟩
  | error e => exact ⟨.failure e.message, by simp [Worker.reportsOf], rfl⟩

theorem Heard.of_left {r : Reachability} {phase : Phase} (h : phase.isOnStream = false) : Heard r phase := by
  unfold Heard
  split <;> trivial

theorem proceed_heard {w : Worker} {r : Reachability} (h : Heard r w.phase) (p : Policy) (now : ℕ)
    (htold : w.phase.pending = []) : Heard r (w.proceed p t now).phase := by
  cases proceed_stream p t now htold with
  | opens _ _ next => rw [next]; trivial
  | lists answer _ _ next =>
    rw [next]
    exact Or.inr (reportsOf_isOnHost answer)
  | yields _ phase _ next =>
    rw [phase] at h
    rw [next]
    exact Or.inl h
  | waits phase _ next =>
    rw [phase] at h
    rw [next]
    exact h.resolve_right (by simp)
  | silent _ _ next => rw [next]; exact h
  | leaves next => exact Heard.of_left next

/-- an act keeps it -/
theorem step_heard {s' : St} {ended : List Attempt} (hstep : WorkerStep c i t s s' ended)
    (h : Heard (s.tracker.reachability t.host) (s.workerAt i).phase) :
    Heard (s'.tracker.reachability t.host) (s'.workerAt i).phase := by
  cases hstep with
  | rests worker tracker => rw [worker, tracker]; exact h
  | other _ _ r worker tracker =>
    rw [worker, tracker]
    exact h.mono fun hknown => tell_keeps_heard hknown _ r
  | @tells _ _ r rs next _ phase worker tracker =>
    rw [phase] at h
    rw [worker, tracker]
    cases next with
    | listen rest =>
      by_cases hr : r.isOnHost = true
      · exact Or.inl (tell_heard hr t s.tracker)
      · rcases h with hknown | ⟨r', hmem, hr'⟩
        · exact Or.inl (tell_keeps_heard hknown t r)
        · rcases List.mem_cons.1 hmem with rfl | hmem
          · exact absurd hr' hr
          · exact Or.inr ⟨r', hmem, hr'⟩
    | tick due => trivial
    | reopen => trivial
  | proceeds _ told worker tracker =>
    rw [worker, tracker]
    exact proceed_heard h c.policy s.now told
  | quits _ worker => rw [worker]; trivial

theorem run_heard (ht : c.targets[i]? = some t) (acts : List Act) :
    Heard ((run c (start c) acts).tracker.reachability t.host) ((run c (start c) acts).workerAt i).phase :=
  run_worker (P := fun _ s => Heard (s.tracker.reachability t.host) (s.workerAt i).phase) ht trivial
    (fun _ hstep h => step_heard hstep h) acts

/-- a worker that has told everything leaves the tracker with what its watch knows -/
theorem Follows.settled (h : Follows c i t as s) (htold : (s.workerAt i).phase.pending = []) :
    Agrees t (Watch.run c.policy.skipFirst t as .start).1 s.tracker := by
  obtain ⟨m, hm, -, hrun⟩ := h.expected
  rw [htold] at hrun
  rw [hrun]
  exact hm

/-- **On an open stream.** Let a target be the only one of its host. Whenever its worker waits on an open stream, in any run,
it has made one list call since the stream was opened, and everything else it did since was to take items; the host is
recorded reachable exactly if that call succeeded or an item was taken. -/
theorem listening_reachable (ht : c.targets[i]? = some t) (alone : Alone c i t) (acts : List Act) :
    let s := run c (start c) acts
    (s.workerAt i).phase.isListening = true →
      ∃ answer os, sinceOpened (attempts c i (start c) acts) = some (.listed answer :: yields os) ∧
        (s.tracker.reachability t.host = .reachable ↔ answer.isOk = true ∨ os ≠ []) := by
  intro s hlistening
  have hstream := run_onStream ht acts
  have hheard := run_heard ht acts
  have hfollows := run_follows_alone alone ht acts
  obtain ⟨item, rest, hphase⟩ := listening_of_isListening hlistening
  have htold : (s.workerAt i).phase.pending = [] := by rw [hphase]; rfl
  have hagree := (hfollows.settled htold).down
  rw [hphase] at hstream hheard
  obtain ⟨answer, os, hsince, hdown⟩ := hstream
  refine ⟨answer, os, hsince, ?_⟩
  rw [← hdown, ← Bool.not_eq_true, hagree]
  -- it is recorded one way or the other
  cases hr : s.tracker.reachability t.host with
  | unknown => exact absurd hr hheard
  | reachable => simp
  | unreachable => simp

end

/-! ## A list call that fails -/

/-- its stream closes, and the list call behind the next one is refused -/
def lapsing : Target where
  host := "nas"
  provider :=
    { source := "agent"
      pushes := true
      list := fun n => ⟨0, if n = 0 then .ok [⟨"db", .running, ""⟩] else .error (.connection "refused")⟩
      subscribe := fun n => ⟨0, .ok (if n = 0 then [(10, .closed)] else [(10, .observation ⟨"web", .running, ""⟩)])⟩ }
  strategy := .push

def lapse : Setup := ⟨[lapsing], Policy.standard, fun _ _ => 0⟩

/-- the stream is opened, lost and opened again, and yields an item -/
def lapseActs : List Act :=
  [(1, .start), (7, .go 0), (1, .tick 10), (3, .go 0), (1, .tick 1010), (6, .go 0), (1, .tick 1020),
    (4, .go 0)].flatMap fun (n, a) => List.replicate n a

theorem lapse_alone : Alone lapse 0 lapsing := by
  intro j t' h hne
  cases j with
  | zero => exact absurd rfl hne
  | succ j => simp [lapse] at h

theorem listening_reachable_lapse :
    lapse.targets[0]? = some lapsing ∧ Alone lapse 0 lapsing ∧
    let s := run lapse (start lapse) lapseActs
    (s.workerAt 0).phase.isListening = true ∧
    ∃ answer os, sinceOpened (attempts lapse 0 (start lapse) lapseActs) = some (.listed answer :: yields os) ∧
      (s.tracker.reachability lapsing.host = .reachable ↔ answer.isOk = true ∨ os ≠ []) :=
  ⟨rfl, lapse_alone, by decide +kernel, listening_reachable rfl lapse_alone lapseActs (by decide +kernel)⟩

/-- **Reachable without a list.** The second stream is open and its host recorded reachable, but no list call has succeeded
since it was opened: what happened to the other service while there was no stream is not known. -/
theorem reachable_without_snapshot :
    let s := run lapse (start lapse) lapseActs
    lapse.targets.map (·.host) = [lapsing.host] ∧ (s.workerAt 0).phase.isListening = true ∧
      s.tracker.reachability lapsing.host = .reachable ∧
      resynced (attempts lapse 0 (start lapse) lapseActs) = false ∧
      s.log.map (·.2) = [.unreachable lapsing.host Worker.closedByProvider, .recovered lapsing.host] := by
  decide +kernel

end ServiceMonitor.Monitor
