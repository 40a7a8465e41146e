import ServiceMonitor.Proofs.Monitor.GivingUp

/-!
Subscribing again, and when to stop trying.

`streak` counts the failures in a row from the attempts alone: a subscription attempt that fails adds one, a stream
that is lost starts again at one. The worker counts too, and takes its counter back whenever a stream is opened.

- `Counting`, `run_counting`: both counters agree wherever the worker looks at its own, and neither passes the number of
  retries, or one.
- `run_onTime`: nothing that is published holds a worker up for longer than it takes.
- `reconnect_schedule`: so a failure is followed by polling for good, or by the next attempt behind the delay that
  goes with the count.
-/

namespace ServiceMonitor.Monitor

/-! ## Failures in a row -/

/-- a subscription attempt failed; that there are no subscriptions is no failure -/
def Attempt.opensNot : Attempt → Bool
  | .opened (.error .unsupported) => false
  | .opened (.error _) => true
  | _ => false

/-- a stream was lost -/
def Attempt.loses : Attempt → Bool
  | .pushed (.fault _) | .pushed .closed => true
  | _ => false

/-- a subscription attempt failed for good -/
def Attempt.forbids : Attempt → Bool
  | .opened (.error e) => e.isPermanent
  | _ => false

/-- so many failures in a row, and whether nothing was attempted yet, behind one more attempt -/
def Attempt.counted (x : ℕ × Bool) (a : Attempt) : ℕ × Bool :=
  (if a.loses then 1 else if a.opensNot && !(x.2 && a.forbids) then x.1 + 1 else x.1, false)

/-- the failures in a row behind these attempts: a failed attempt to subscribe adds one, unless it is the very first
attempt and ends the task; the loss of a stream makes it one -/
def streak (as : List Attempt) : ℕ := (as.foldl Attempt.counted (0, true)).1

/-- the most failures in a row that there can be -/
def Policy.mostFailures (p : Policy) : ℕ := max 1 p.backoff.maxRetries

section

variable {as : List Attempt} {a : Attempt}

theorem streak_snoc (as : List Attempt) (a : Attempt) :
    streak (as ++ [a]) =
      if a.loses then 1 else if a.opensNot && !(as.isEmpty && a.forbids) then streak as + 1 else streak as := by
  have hfirst : (as.foldl Attempt.counted (0, true)).2 = as.isEmpty := by
    induction as using List.reverseRecOn with
    | nil => rfl
    | append_singleton as b _ => simp [List.foldl_append, Attempt.counted]
  unfold streak
  rw [List.foldl_append, List.foldl_cons, List.foldl_nil, Attempt.counted, hfirst]

/-- attempts that are neither failed subscriptions nor lost streams do not count -/
theorem streak_same (hloses : a.loses = false) (hopens : a.opensNot = false) : streak (as ++ [a]) = streak as := by
  rw [streak_snoc, hloses, hopens]
  rfl

/-- a failed attempt counts unless it ends the task -/
theorem streak_opened (as : List Attempt) {e : SubscriptionError} (hu : e ≠ .unsupported) :
    streak (as ++ [.opened (.error e)]) = if as.isEmpty && e.isPermanent then streak as else streak as + 1 := by
  have hopens : (Attempt.opened (.error e)).opensNot = true := by
    cases e <;> first | rfl | exact absurd rfl hu
  rw [streak_snoc, hopens]
  cases as.isEmpty <;> cases he : e.isPermanent <;> simp [Attempt.loses, Attempt.forbids, he]

/-- a lost stream is the first failure of a row -/
theorem streak_lost (as : List Attempt) (hloses : a.loses = true) : streak (as ++ [a]) = 1 := by
  rw [streak_snoc, hloses]
  rfl

/-- failed subscriptions add up -/
theorem streak_block {pre block : List Attempt} (hblock : ∀ a ∈ block, a.opensNot = true)
    (hfirst : pre = [] → ∀ a, block.head? = some a → a.forbids = false) :
    streak (pre ++ block) = streak pre + block.length := by
  induction block using List.reverseRecOn with
  | nil => simp
  | append_singleton block a ih =>
    have hearlier : streak (pre ++ block) = streak pre + block.length := by
      apply ih
      · intro b hb
        exact hblock b (List.mem_append_left _ hb)
      · intro hpre b hb
        exact hfirst hpre b (by rw [List.head?_append, hb]; rfl)
    have hopens : a.opensNot = true := hblock a (by simp)
    have hloses : a.loses = false := by
      rcases a with _ | _ | (_ | _ | _) | _ <;> first | rfl | cases hopens
    -- it is the first attempt only if nothing stands before it
    have hcounts : ((pre ++ block).isEmpty && a.forbids) = false := by
      rcases pre with _ | ⟨b, pre⟩
      · rcases block with _ | ⟨b, block⟩
        · simp [hfirst rfl a rfl]
        · rfl
      · rfl
    rw [← List.append_assoc, streak_snoc, hloses, hopens, hcounts, hearlier, List.length_append, List.length_singleton]
    simp only [Bool.false_eq_true, if_false, Bool.not_false, Bool.and_self, if_true]
    omega

end

/-! ## The worker's own counter -/

/-- what a worker knows of its attempts in each phase -/
def Worker.Counts (p : Policy) (as : List Attempt) (w : Worker) : Prop :=
  match w.phase with
  | .fresh => as = [] ∧ w.startup = true ∧ w.failures = 0
  | .subscribing | .opening .. =>
    w.startup = as.isEmpty ∧ w.failures = streak as ∧ (streak as = 0 ∨ streak as < p.backoff.maxRetries)
  | .pausing _ => as ≠ [] ∧ w.startup = false ∧ w.failures = streak as ∧ streak as < p.backoff.maxRetries
  | .reporting _ _ .reopen => as ≠ [] ∧ w.startup = false ∧ w.failures = streak as ∧ 0 < streak as
  | .resyncing .. | .listening .. | .reporting _ _ (.listen _) => as ≠ [] ∧ w.startup = false ∧ w.failures = 0
  | .ticking _ | .polling .. | .reporting _ _ (.tick _) | .done => True

/-- both counts of a worker's failures: that of its attempts, in its whole history, and its own -/
structure Counting (p : Policy) (as : List Attempt) (w : Worker) : Prop where
  bound : ∀ before after, as = before ++ after → streak before ≤ p.mostFailures
  own : w.failures ≤ p.mostFailures
  counts : w.Counts p as
  /-- a first attempt that fails for good is the only one -/
  first : ∀ a rest, as = a :: rest → a.forbids = true → rest = [] ∧ w.phase = .done

section

variable {p : Policy} {as : List Attempt} {w : Worker} {a : Attempt} {t : Target}

theorem counting_spawned (p : Policy) : Counting p [] .spawned where
  bound := by
    intro before after h
    rw [(List.append_eq_nil_iff.1 h.symm).1]
    exact Nat.zero_le _
  own := Nat.zero_le _
  counts := ⟨rfl, rfl, rfl⟩
  first := by
    rintro a rest ⟨⟩

/-- an attempt is over: what has to be seen to of the counts -/
theorem Counting.snoc (h : Counting p as w) {w' : Worker} (hdone : w.phase ≠ .done)
    (hbound : streak (as ++ [a]) ≤ p.mostFailures)
    (hown : w'.failures ≤ p.mostFailures) (hcounts : w'.Counts p (as ++ [a]))
    (hfirst : as = [] → a.forbids = true → w'.phase = .done) : Counting p (as ++ [a]) w' where
  bound := by
    intro before after heq
    rcases List.eq_nil_or_concat after with rfl | ⟨after, b, rfl⟩
    · rw [List.append_nil] at heq
      rw [← heq]
      exact hbound
    · rw [List.concat_eq_append, ← List.append_assoc] at heq
      exact h.bound before after (List.append_inj_left' heq rfl)
  own := hown
  counts := hcounts
  first := by
    intro b rest heq hforbids
    rcases as with _ | ⟨_, as⟩
    · cases heq
      exact ⟨rfl, hfirst rfl hforbids⟩
    · -- the worker has not ended, so its first attempt was another
      cases heq
      exact absurd (h.first b as rfl hforbids).2 hdone

/-- no attempt is over -/
theorem Counting.same (h : Counting p as w) {w' : Worker} (hdone : w.phase ≠ .done) (hown : w'.failures = w.failures)
    (hcounts : w'.Counts p as) : Counting p as w' where
  bound := h.bound
  own := by rw [hown]; exact h.own
  counts := hcounts
  first := by
    intro a rest heq hforbids
    exact absurd (h.first a rest heq hforbids).2 hdone

theorem Counting.now (h : Counting p as w) : streak as ≤ p.mostFailures := h.bound as [] (List.append_nil as).symm

/-- a subscription attempt failed -/
theorem Counting.opened {ends startup failures lists subscribes} {e : SubscriptionError} (hu : e ≠ .unsupported)
    (h : Counting p as ⟨.opening ends (.error e), startup, failures, lists, subscribes⟩) (now : ℕ) :
    Counting p (as ++ [.opened (.error e)])
      (if startup && e.isPermanent then ⟨.done, startup, failures, lists, subscribes⟩
        else ⟨.reporting now [.failure e.message] .reopen, false, failures + 1, lists, subscribes⟩) := by
  obtain ⟨rfl, rfl, hroom⟩ : startup = as.isEmpty ∧ failures = streak as ∧ _ := h.counts
  have hstreak := streak_opened as hu
  split_ifs at hstreak ⊢ with hperm
  · refine h.snoc (by simp) (hstreak ▸ h.now) h.own trivial ?_
    intro _ _
    rfl
  · have hmost : streak as + 1 ≤ p.mostFailures := by
      unfold Policy.mostFailures
      rcases hroom with hzero | hless <;> omega
    refine h.snoc (by simp) (hstreak ▸ hmost) hmost ⟨by simp, rfl, hstreak.symm, ?_⟩ ?_
    · rw [hstreak]
      exact Nat.succ_pos _
    · intro hempty hforbids
      rw [hempty] at hperm
      exact absurd hforbids hperm

/-- a stream was lost -/
theorem Counting.lost {due startup failures lists subscribes} {item : Item} {rest : Stream} {reason : String}
    (h : Counting p as ⟨.listening (some (due, item)) rest, startup, failures, lists, subscribes⟩)
    (hloses : (Attempt.pushed item).loses = true) (now : ℕ) :
    Counting p (as ++ [.pushed item])
      ⟨.reporting now [.failure reason] .reopen, startup, failures + 1, lists, subscribes⟩ := by
  obtain ⟨hne, rfl, rfl⟩ : as ≠ [] ∧ startup = false ∧ failures = 0 := h.counts
  have hstreak := streak_lost as hloses
  have hone : 1 ≤ p.mostFailures := le_max_left _ _
  refine h.snoc (by simp) (hstreak ▸ hone) hone ⟨by simp, rfl, hstreak.symm, ?_⟩ ?_
  · rw [hstreak]
    exact Nat.one_pos
  · intro hempty
    exact absurd hempty hne

/-- **One phase.** A worker that goes on counts its failures, and asks before it tries again. -/
theorem proceed_counting (h : Counting p as w) (now : ℕ) (htold : w.phase.pending = []) :
    Counting p (as ++ w.phase.attempt?.toList) (w.proceed p t now) := by
  obtain ⟨phase, startup, failures, lists, subscribes⟩ := w
  have hcounts := h.counts
  have hnow := h.now
  have hown := h.own
  cases phase with
  | fresh =>
    obtain ⟨rfl, hstartup, hfailures⟩ := hcounts
    simp only [Worker.proceed, Phase.attempt?, Option.toList_none, List.append_nil]
    split
    · exact h.same (by simp) rfl ⟨hstartup, hfailures, Or.inl rfl⟩
    · exact h.same (by simp) rfl trivial
  | ticking due =>
    simp only [Phase.attempt?, Option.toList_none, List.append_nil]
    exact h.same (by simp) rfl trivial
  | polling due ends answer =>
    have hstreak : streak (as ++ [.listed answer]) = streak as := streak_same rfl rfl
    simp only [Worker.proceed, Phase.attempt?, Option.toList_some]
    split
    · exact h.snoc (by simp) (hstreak ▸ hnow) hown trivial (by intro _ hforbids; cases hforbids)
    · exact h.snoc (by simp) (hstreak ▸ hnow) hown trivial (by intro _ hforbids; cases hforbids)
  | subscribing =>
    simp only [Phase.attempt?, Option.toList_none, List.append_nil]
    exact h.same (by simp) rfl hcounts
  | opening ends answer =>
    obtain ⟨hstartup, hfailures, hroom⟩ := hcounts
    simp only [Phase.attempt?, Option.toList_some]
    cases answer with
    | ok stream =>
      have hstreak : streak (as ++ [.opened (.ok stream)]) = streak as := streak_same rfl rfl
      refine h.snoc (by simp) (hstreak ▸ hnow) (Nat.zero_le _) ⟨by simp, rfl, rfl⟩ ?_
      intro _ hforbids
      cases hforbids
    | error e =>
      by_cases hu : e = .unsupported
      · subst hu
        have hstreak : streak (as ++ [.opened (.error .unsupported)]) = streak as := streak_same rfl rfl
        refine h.snoc (by simp) (hstreak ▸ hnow) hown trivial ?_
        intro _ hforbids
        cases hforbids
      · rw [proceed_opening_error hu]
        exact h.opened hu now
  | resyncing stream ends answer =>
    obtain ⟨hne, hstartup, hfailures⟩ := hcounts
    have hstreak : streak (as ++ [.listed answer]) = streak as := streak_same rfl rfl
    refine h.snoc (by simp) (hstreak ▸ hnow) hown ⟨by simp, hstartup, hfailures⟩ ?_
    intro hempty
    exact absurd hempty hne
  | listening item rest =>
    obtain ⟨hne, hstartup, hfailures⟩ := hcounts
    cases item with
    | none =>
      simp only [Phase.attempt?, Option.toList_none, List.append_nil]
      exact h.same (by simp) rfl ⟨hne, hstartup, hfailures⟩
    | some item =>
      obtain ⟨due, item⟩ := item
      cases item with
      | observation o =>
        have hstreak : streak (as ++ [.pushed (.observation o)]) = streak as := streak_same rfl rfl
        refine h.snoc (by simp) (hstreak ▸ hnow) hown ⟨by simp, hstartup, hfailures⟩ ?_
        intro hempty
        exact absurd hempty hne
      | fault e => exact h.lost rfl now
      | closed => exact h.lost rfl now
  | reporting free reports next =>
    simp only [Phase.pending] at htold
    subst htold
    simp only [Phase.attempt?, Option.toList_none, List.append_nil]
    cases next with
    | tick due => exact h.same (by simp) rfl trivial
    | listen stream => cases stream <;> exact h.same (by simp) rfl hcounts
    | reopen =>
      obtain ⟨hne, hstartup, hfailures, hpos⟩ := hcounts
      simp only [Worker.proceed, Worker.reopen]
      split_ifs with hex
      · exact h.same (by simp) rfl trivial
      · split
        · refine h.same (by simp) rfl ⟨hne, hstartup, hfailures, ?_⟩
          simp only [Backoff.exhausted, decide_eq_true_eq, not_le] at hex hfailures
          omega
        · exact h.same (by simp) rfl trivial
  | pausing until_ =>
    obtain ⟨hne, hstartup, hfailures, hroom⟩ := hcounts
    simp only [Phase.attempt?, Option.toList_none, List.append_nil]
    have hbegun : as.isEmpty = false := by simpa using hne
    exact h.same (by simp) rfl ⟨hstartup.trans hbegun.symm, hfailures, Or.inr hroom⟩
  | done =>
    simp only [Phase.attempt?, Option.toList_none, List.append_nil]
    exact h

end

/-! ## Runs -/

section

variable {c : Setup} {i : ℕ} {t : Target} {s : St} {acts : List Act}

/-- **A run.** Whatever happens, a worker's counts are right. -/
theorem run_counting (ht : c.targets[i]? = some t) (acts : List Act) :
    Counting c.policy (attempts c i (start c) acts) ((run c (start c) acts).workerAt i) := by
  apply run_worker (P := fun as s => Counting c.policy as (s.workerAt i)) ht
  · exact counting_spawned c.policy
  · intro as s s' ended _ hstep h
    cases hstep with
    | rests worker => rw [worker, List.append_nil]; exact h
    | other _ _ _ worker => rw [worker, List.append_nil]; exact h
    | @tells free busy r rs next _ phase worker =>
      rw [worker, List.append_nil]
      refine h.same (by simp [phase]) rfl ?_
      have hcounts := h.counts
      unfold Worker.Counts at hcounts ⊢
      rw [phase] at hcounts
      cases next <;> exact hcounts
    | proceeds _ told worker =>
      rw [worker]
      exact proceed_counting h s.now told
    | quits must worker =>
      rw [worker]
      have hwaits := (waiting_phase (waits_of_mustQuit must)).1
      have hstreak : streak (as ++ [.abandoned]) = streak as := streak_same rfl rfl
      refine h.snoc hwaits (hstreak ▸ h.now) h.own trivial ?_
      intro _ _
      rfl

/-- a worker that takes up reports makes the first at once -/
theorem proceed_reporting {p : Policy} {now free : ℕ} {w : Worker} {reports : List Report} {next : Next}
    (htold : w.phase.pending = []) (hphase : (w.proceed p t now).phase = .reporting free reports next) :
    free = now := by
  obtain ⟨phase, startup, failures, lists, subscribes⟩ := w
  cases phase with
  | fresh =>
    simp only [Worker.proceed] at hphase
    split at hphase <;> cases hphase
  | polling due ends answer =>
    simp only [Worker.proceed] at hphase
    split at hphase <;> cases hphase
    rfl
  | opening ends answer =>
    cases answer with
    | ok stream => cases hphase
    | error e =>
      by_cases hu : e = .unsupported
      · subst hu
        cases hphase
      · rw [proceed_opening_error hu] at hphase
        split at hphase <;> cases hphase
        rfl
  | resyncing stream ends answer => cases hphase; rfl
  | listening item rest =>
    cases item with
    | none => cases hphase
    | some item =>
      obtain ⟨due, item⟩ := item
      cases item <;> cases hphase <;> rfl
  | reporting free reports next =>
    simp only [Phase.pending] at htold
    subst htold
    cases next with
    | tick due => cases hphase
    | listen stream => cases stream <;> cases hphase
    | reopen =>
      obtain ⟨phase, hw, hphase'⟩ :=
        reopen_cases p now ⟨.reporting free [] .reopen, startup, failures, lists, subscribes⟩
      simp only [Worker.proceed, hw] at hphase
      rcases hphase' with rfl | rfl | ⟨_, rfl⟩ <;> cases hphase
  | _ => cases hphase

theorem go_onTime {p : Policy} {hold : Change → ℕ} {now free : ℕ} {tracker : Tracker} {w : Worker}
    {reports : List Report} {next : Next}
    (hphase : (w.go p hold t now tracker).1.phase = .reporting free reports next) :
    now ≤ free := by
  rcases go_cases p hold t now tracker w with ⟨_, r, rs, next, _, htells, -⟩ | ⟨htold, hgo⟩
  · simp only [Worker.go, htells] at hphase
    cases hphase
    exact Nat.le_add_right _ _
  · rw [hgo] at hphase
    exact (proceed_reporting htold hphase).ge

/-- **In time.** The clock does not pass the end of what a worker publishes before the worker goes on. -/
theorem run_onTime (acts : List Act) {free : ℕ} {reports : List Report} {next : Next}
    (hphase : ((run c (start c) acts).workerAt i).phase = .reporting free reports next) :
    (run c (start c) acts).now ≤ free := by
  induction acts using List.reverseRecOn generalizing free reports next with
  | nil => cases hphase
  | append_singleton acts a ih =>
    rw [run_snoc] at hphase ⊢
    generalize run c (start c) acts = s at hphase ih
    have hw := worker_present (s := step c s a) (i := i) (by simp [hphase])
    cases step_workers c s a with
    | same workers now =>
      rw [workers] at hw
      rw [now]
      exact ih (workerAt_eq hw ▸ hphase)
    | @ticks time can workers now =>
      rw [workers] at hw
      rw [now]
      have hdue : (s.workerAt i).phase.due? = some free := by rw [workerAt_eq hw, hphase]; rfl
      exact (tick_waits can hdue (by rw [workerAt_eq hw, hphase]; simp)).2.2
    | spawns _ workers =>
      rw [workers, List.getElem?_map, Option.map_eq_some_iff] at hw
      obtain ⟨_, -, hw⟩ := hw
      rw [← hw] at hphase
      cases hphase
    | @goes j t w _ worker _ workers now =>
      rw [now]
      by_cases hj : j = i
      · subst hj
        rw [workerAt_set worker workers] at hphase
        exact go_onTime hphase
      · rw [workerAt_set_ne hj workers] at hphase
        exact ih hphase
    | @quits j w worker _ workers now =>
      rw [now]
      by_cases hj : j = i
      · subst hj
        rw [workerAt_set worker workers] at hphase
        cases hphase
      · rw [workerAt_set_ne hj workers] at hphase
        exact ih hphase

/-! ## Behind a failure -/

/-- a failed subscription or a lost stream is reported at once, unless it ends the task -/
theorem Counting.reports {p : Policy} {as : List Attempt} {w : Worker} {a : Attempt} {reason : String}
    (h : Counting p as w) (now : ℕ) (ha : w.phase.attempt? = some a) (hbreaks : a.opensNot = true ∨ a.loses = true)
    (hgoes : as = [] → a.forbids = false) (hfailed : a.failure? = some reason) :
    (w.proceed p t now).phase = .reporting now [.failure reason] .reopen := by
  obtain ⟨phase, startup, failures, lists, subscribes⟩ := w
  cases phase with
  | opening ends answer =>
    cases ha
    cases answer with
    | ok stream => cases hfailed
    | error e =>
      have hu : e ≠ .unsupported := by
        rintro rfl
        cases hfailed
      obtain rfl : e.message = reason := by
        cases e <;> cases hfailed <;> rfl
      obtain ⟨hstartup, -⟩ : startup = as.isEmpty ∧ _ := h.counts
      have hperm : (startup && e.isPermanent) = false := by
        rcases as with _ | ⟨b, as⟩
        · rw [hstartup]
          exact hgoes rfl
        · rw [hstartup]
          rfl
      rw [proceed_opening_error hu, hperm]
      rfl
  | listening item rest =>
    cases item with
    | none => cases ha
    | some item =>
      obtain ⟨due, item⟩ := item
      cases ha
      cases item <;> cases hfailed <;> rfl
  | polling due ends answer => cases ha; rcases hbreaks with hbreaks | hbreaks <;> cases hbreaks
  | resyncing stream ends answer => cases ha; rcases hbreaks with hbreaks | hbreaks <;> cases hbreaks
  | _ => cases ha

/-- as many subscriptions in a row as there can be failures fail, and no more -/
theorem Counting.block {p : Policy} {as : List Attempt} {w : Worker} (h : Counting p as w)
    {before block after : List Attempt} (heq : as = before ++ block ++ after)
    (hblock : ∀ a ∈ block, a.opensNot = true) : block.length ≤ p.mostFailures := by
  by_cases hfirst : before = [] → ∀ a, block.head? = some a → a.forbids = false
  · have hbound := h.bound (before ++ block) after heq
    rw [streak_block hblock hfirst] at hbound
    omega
  · -- the task has ended with the first attempt
    push Not at hfirst
    obtain ⟨rfl, a, ha, hforbids⟩ := hfirst
    obtain ⟨block, rfl⟩ := List.head?_eq_some_iff.1 ha
    obtain ⟨hnone, -⟩ := h.first a (block ++ after) heq (by simpa using hforbids)
    rw [(List.append_eq_nil_iff.1 hnone).1]
    exact le_max_left _ _

end

/-- **The reconnect schedule** of a task, however its provider behaves and whatever else happens, where the delays of
the policy are defined.
- The failures in a row, counted from the attempts or by the worker, are never more than the retries, or one; so no more
  subscriptions in a row fail than that, and the counter fits wherever the number of retries does.
- A failed subscription, other than a first one that ends the task, and a lost stream are reported at once; the report
  is recorded and published, and the worker waits until that is over.
- Then the count decides. If it is not below the number of retries, the worker makes its next list call there and
  then, never subscribes again and polls until it is stopped. Otherwise the next attempt is made behind the delay for
  as many failures but one. -/
theorem reconnect_schedule (c : Setup) (delays : c.policy.HasDelays) {i : ℕ} {t : Target} (ht : c.targets[i]? = some t)
    (acts : List Act) :
    let s := run c (start c) acts
    let w := s.workerAt i
    let as := attempts c i (start c) acts
    let most := c.policy.backoff.maxRetries
    (streak as ≤ max 1 most ∧ w.failures ≤ max 1 most ∧ (most < 2 ^ 32 → w.failures < 2 ^ 32) ∧
      ∀ before block after, as = before ++ block ++ after → (∀ a ∈ block, a.opensNot = true) →
        block.length ≤ max 1 most) ∧
    (∀ before a reason, acts = before ++ [.go i] → endedBy i (run c (start c) before) (.go i) = [a] →
      a.opensNot = true ∨ a.loses = true → (attempts c i (start c) before = [] → a.forbids = false) →
      a.failure? = some reason → w.phase = .reporting s.now [.failure reason] .reopen) ∧
    (∀ reason, w.phase = .reporting s.now [.failure reason] .reopen →
      let s' := step c s (.go i)
      s'.tracker.reachability t.host = .unreachable ∧
        (s'.workerAt i).phase = .reporting (s.now + c.holds t s (.failure reason)) [] .reopen) ∧
    ∀ free, w.phase = .reporting free [] .reopen →
      if most ≤ streak as then
        CallsNext c i s (free, .list w.lists) ∧ ∀ more, (∀ x ∈ callsIn c i s more, x.2.isList = true) ∧
          (.stop ∉ acts ++ more →
            let w' := (run c s more).workerAt i
            w'.polls c.policy = true ∧ w'.phase ≠ .done)
      else
        ∃ delay, c.policy.backoff.next? (streak as - 1) = some delay ∧
          CallsNext c i s (free + c.policy.clock.up delay.nanos, .subscribe w.subscribes) := by
  intro s w as most
  have hcounting : Counting c.policy as w := run_counting ht acts
  have hsound : s.Sound := run_sound c acts
  refine ⟨⟨hcounting.now, hcounting.own, ?_, ?_⟩, ?_, ?_, ?_⟩
  · intro hmost
    exact hcounting.own.trans_lt (max_lt (by norm_num) hmost)
  · intro before block after heq hblock
    exact hcounting.block heq hblock
  · rintro before a reason rfl hended hbreaks hgoes hfailed
    have hs : s = step c (run c (start c) before) (.go i) := run_snoc c _ before _
    obtain ⟨ha, hnow, hworker⟩ := step_attempt ht hended
    have hreports := (run_counting ht before).reports (t := t) (run c (start c) before).now ha hbreaks hgoes hfailed
    rw [← hworker, ← hnow, ← hs] at hreports
    exact hreports
  · intro reason hphase s'
    obtain ⟨htracker, -, hworker⟩ := report_told ht hphase le_rfl
    refine ⟨?_, congrArg Worker.phase hworker⟩
    simp [s', htracker, Worker.tell, Tracker.failure_reachability]
  · intro free hphase
    have hfree : s.now ≤ free := run_onTime acts hphase
    obtain ⟨hne, hstartup, hfailures, hpos⟩ : as ≠ [] ∧ w.startup = false ∧ w.failures = streak as ∧ 0 < streak as := by
      have hcounts := hcounting.counts
      unfold Worker.Counts at hcounts
      rwa [hphase] at hcounts
    split_ifs with hmost
    · have hex : c.policy.backoff.exhausted w.failures = true := by
        rw [hfailures]
        exact decide_eq_true hmost
      have hnext : w.nextCall? c.policy s.now = some (free, .list w.lists) := by
        simp only [Worker.nextCall?, hphase, hex, if_true, max_eq_right hfree]
      have hpolls : w.polls c.policy = true := by
        simp only [Worker.polls, hphase, hex]
      refine ⟨next_call ht hsound hnext, ?_⟩
      intro more
      obtain ⟨hon, hcalls⟩ := polls_on ht hsound hpolls more
      refine ⟨hcalls, ?_⟩
      intro hmore w'
      have halive : w.phase ≠ .done := by simp [hphase]
      refine ⟨hon, run_alive delays ht hmore ?_ halive⟩
      -- it reports a failure, so it has heard of its backend
      have hbegun : Begun t as w := run_begun delays ht fun hstop => hmore (List.mem_append_left _ hstop)
      have hfits := hbegun.fits
      rwa [hphase] at hfits
    · have hex : ¬c.policy.backoff.exhausted w.failures = true := by
        rw [hfailures]
        simpa [Backoff.exhausted] using hmost
      obtain ⟨delay, hdelay⟩ := delays.next hex
      have hnext : w.nextCall? c.policy s.now = some (free + c.policy.clock.up delay.nanos, .subscribe w.subscribes) := by
        simp only [Worker.nextCall?, hphase, hex, hdelay, max_eq_right hfree]
        rfl
      refine ⟨delay, ?_, next_call ht hsound hnext⟩
      rw [← hfailures]
      exact hdelay

/-! ## A stream that is lost, and one that is refused -/

/-- when the worker has told a failure and decides about the next attempt -/
def Phase.decides? : Phase → Option ℕ
  | .reporting free [] .reopen => some free
  | _ => none

theorem phase_of_decides {phase : Phase} {free : ℕ} (h : phase.decides? = some free) :
    phase = .reporting free [] .reopen := by
  unfold Phase.decides? at h
  split at h
  · cases h
    rfl
  · cases h

/-- a target whose first stream is lost, and which refuses every other subscription -/
def flaky : Target where
  host := "edge"
  provider :=
    { source := "agent"
      pushes := true
      list := fun _ => ⟨0, .ok []⟩
      subscribe := fun n =>
        if n = 0 then ⟨0, .ok [(200, .closed)]⟩ else ⟨100, .error (.opening (.connection "refused"))⟩ }
  strategy := .push

/-- two failures in a row are too many -/
def impatient : Setup :=
  ⟨[flaky], ⟨.ofSecs 60, true, .ofMillis 500, { Backoff.standard with maxRetries := 2 }⟩, fun _ _ => 0⟩

/-- the stream is lost, and that is told -/
def untilLost : List Act := [.start] ++ List.replicate 6 (.go 0) ++ [.tick 200, .go 0, .go 0]

/-- the attempt behind that is refused, and that is told -/
def untilRefused : List Act := untilLost ++ [.go 0, .tick 1200, .go 0, .go 0, .tick 1300, .go 0, .go 0]

/-- one second behind the loss there is another attempt, and polling from the moment that it is refused -/
theorem reconnect_schedule_impatient :
    let lost := run impatient (start impatient) untilLost
    let refused := run impatient (start impatient) untilRefused
    impatient.policy.HasDelays ∧ impatient.targets[0]? = some flaky ∧
    (streak (attempts impatient 0 (start impatient) untilLost) = 1 ∧
      CallsNext impatient 0 lost (1200, .subscribe 1)) ∧
    streak (attempts impatient 0 (start impatient) untilRefused) = 2 ∧
      CallsNext impatient 0 refused (1300, .list 1) ∧
      ∀ more, ∀ x ∈ callsIn impatient 0 refused more, x.2.isList = true := by
  intro lost refused
  have delays : impatient.policy.HasDelays := hasDelays_of_max (by decide)
  have hlost : (lost.workerAt 0).phase = .reporting 200 [] .reopen := phase_of_decides (by decide +kernel)
  have hrefused : (refused.workerAt 0).phase = .reporting 1300 [] .reopen := phase_of_decides (by decide +kernel)
  have hone : streak (attempts impatient 0 (start impatient) untilLost) = 1 := by decide +kernel
  have htwo : streak (attempts impatient 0 (start impatient) untilRefused) = 2 := by decide +kernel
  have hsecond : impatient.policy.backoff.next? (1 - 1) = some (.ofSecs 1) := by decide +kernel
  have hcalls : (lost.workerAt 0).subscribes = 1 ∧ (refused.workerAt 0).lists = 1 := by decide +kernel
  have first := reconnect_schedule impatient delays (i := 0) (t := flaky) rfl untilLost
  have second := reconnect_schedule impatient delays (i := 0) (t := flaky) rfl untilRefused
  have hs : run impatient (start impatient) untilLost = lost := rfl
  have hs' : run impatient (start impatient) untilRefused = refused := rfl
  rw [hs] at first
  rw [hs'] at second
  clear_value lost refused
  obtain ⟨-, -, -, first⟩ := first
  obtain ⟨-, -, -, second⟩ := second
  rw [hone, hcalls.1] at first
  rw [htwo, hcalls.2] at second
  obtain ⟨delay, hdelay, hnext⟩ := first 200 hlost
  obtain ⟨hlast, hlists⟩ := second 1300 hrefused
  obtain rfl := Option.some.inj (hsecond.symm.trans hdelay)
  refine ⟨delays, rfl, ⟨hone, hnext⟩, htwo, hlast, ?_⟩
  intro more
  exact (hlists more).1

end ServiceMonitor.Monitor
