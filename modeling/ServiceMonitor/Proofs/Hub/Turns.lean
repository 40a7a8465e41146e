import ServiceMonitor.Proofs.Hub.Members

/-!
What the hub's tasks do by themselves.

A turn needs nobody else: the loop broadcasts what waits for it or notices a stop, a client's task takes a message, pings, leaves,
gives up a write that takes too long, or ends (`Act.isTurn`).

- `turn_closer`, `client_rests`: a client that holds up the clock has a turn, and each turn brings it closer to its rest.
- `clock_goes_on`: the loop and all tasks get by themselves to a moment from which the clock can go on.
-/

namespace ServiceMonitor.Hub

/-- a turn of the loop or of a client's task, which needs nobody else -/
def Act.isTurn : Act → Bool
  | .dispatch | .endLoop | .take _ | .ping _ | .leave _ | .late _ | .endRead _ => true
  | _ => false

/-- the clock can go on as far as the client is concerned -/
def Client.CanWait (now : ℕ) (c : Client) : Prop := c.isBusy now = false ∧ ∀ due, c.due? = some due → now < due

/-- how many turns its tasks can take before somebody else has to do something -/
def Client.rank (c : Client) : ℕ :=
  c.reading.toNat + match c.writer with
    | .waiting _ => 2
    | .writing .. => 1
    | .done => 0

/-- a client that holds up the clock has a turn that brings it closer to letting it go on -/
theorem turn_closer {s : St} {i : ℕ} {c : Client} (hc : s.clients[i]? = some c) (hsound : Sound s.limits s.now c)
    (h : ¬ c.CanWait s.now) :
    ∃ a, a.isTurn = true ∧ a.place? = some i ∧ ∃ c', (step s a).clients[i]? = some c' ∧ c'.rank < c.rank := by
  by_cases hread : c.reading = true ∧ c.cancelled = true
  · obtain ⟨hreads, htold⟩ := hread
    refine ⟨.endRead i, rfl, rfl, _, update_get hc _, ?_⟩
    simp [hreads, htold, Client.rank, drop_writer]
  cases hw : c.writer with
  | waiting pingAt =>
    by_cases htold : c.cancelled = true
    · refine ⟨.leave i, rfl, rfl, _, update_get hc _, ?_⟩
      simp [hw, htold, Client.rank, St.begin]
    cases hq : c.queue with
    | cons text rest =>
      refine ⟨.take i, rfl, rfl, _, update_get hc _, ?_⟩
      simp [hw, hq, Client.rank, St.begin]
    | nil =>
      by_cases hp : pingAt ≤ s.now
      · refine ⟨.ping i, rfl, rfl, _, update_get hc _, ?_⟩
        simp [hw, hp, Client.rank, St.begin]
      · refine absurd ⟨?_, ?_⟩ h
        · have hr : c.registered = true := by simpa [hsound.token] using htold
          simp [Client.isBusy, htold, hw, hq, hp, hr]
        · intro due hdue
          simp only [Client.due?, hw, Option.some.injEq] at hdue
          omega
  | writing what d =>
    have hbusy : c.isBusy s.now = false := by simpa [Client.isBusy, hw] using hread
    obtain ⟨due, hdue, hlate⟩ : ∃ due, c.due? = some due ∧ due ≤ s.now := by
      by_contra hnone
      refine h ⟨hbusy, fun due hdue => ?_⟩
      by_contra hlate
      exact hnone ⟨due, hdue, not_lt.1 hlate⟩
    simp only [Client.due?, hw] at hdue
    subst hdue
    refine ⟨.late i, rfl, rfl, _, update_get hc _, ?_⟩
    simp [hw, hlate, Client.giveUp, Client.rank, drop_reading]
  | done =>
    refine absurd ⟨?_, ?_⟩ h
    · simpa [Client.isBusy, hw] using hread
    · rintro due hdue
      simp [Client.due?, hw] at hdue

/-- its tasks get it there by themselves -/
theorem client_rests {s : St} (hs : Orderly s) {i : ℕ} {c : Client} (hc : s.clients[i]? = some c) :
    ∃ turns : List Act, (∀ a ∈ turns, a.isTurn = true ∧ a.place? = some i) ∧
      ∃ c', (run s turns).clients[i]? = some c' ∧ c'.CanWait s.now := by
  induction hrank : c.rank using Nat.strong_induction_on generalizing s c with
  | _ rank ih =>
    subst hrank
    by_cases hwait : c.CanWait s.now
    · exact ⟨[], by simp, c, hc, hwait⟩
    · obtain ⟨a, hturn, hplace, c', hc', hless⟩ := turn_closer hc (hs.sound i c hc) hwait
      obtain ⟨turns, hturns, c'', hc'', hrests⟩ := ih c'.rank hless (step_orderly hs a) hc' rfl
      have hnow : (step s a).now = s.now := by cases a <;> cases hplace <;> rfl
      rw [hnow] at hrests
      refine ⟨a :: turns, fun b hb => ?_, c'', hc'', hrests⟩
      rcases List.mem_cons.1 hb with rfl | hb
      · exact ⟨hturn, hplace⟩
      · exact hturns b hb

/-- what one client's tasks and connection do not touch -/
theorem run_place {s : St} {i : ℕ} {acts : List Act} (h : ∀ a ∈ acts, a.place? = some i) :
    (run s acts).now = s.now ∧ (run s acts).loopIsBusy = s.loopIsBusy ∧
      (run s acts).clients.length = s.clients.length ∧ ∀ j ≠ i, (run s acts).clients[j]? = s.clients[j]? := by
  induction acts generalizing s with
  | nil => exact ⟨rfl, rfl, rfl, fun _ _ => rfl⟩
  | cons a acts ih =>
    have ha := h a List.mem_cons_self
    have hne : a ≠ .connect := by rintro rfl; cases ha
    obtain ⟨hnow, hloop, hlength, hothers⟩ := ih (s := step s a) fun b hb => h b (List.mem_cons_of_mem a hb)
    have hnow' : (step s a).now = s.now := by cases a <;> cases ha <;> rfl
    have hloop' : (step s a).loopIsBusy = s.loopIsBusy := by cases a <;> cases ha <;> rfl
    exact ⟨hnow.trans hnow', hloop.trans hloop', hlength.trans (step_length s hne),
      fun j hj => (hothers j hj).trans (place_step s ha hj)⟩

/-! ## All of them -/

/-- the tasks of all clients get them there -/
theorem clients_rest {s : St} (hs : Orderly s) (n : ℕ) :
    ∃ turns : List Act, (∀ a ∈ turns, a.isTurn = true) ∧ (run s turns).now = s.now ∧
      (run s turns).loopIsBusy = s.loopIsBusy ∧ (run s turns).clients.length = s.clients.length ∧
      ∀ i < n, ∀ c, (run s turns).clients[i]? = some c → c.CanWait s.now := by
  induction n with
  | zero => exact ⟨[], by simp, rfl, rfl, rfl, fun i hi => absurd hi (Nat.not_lt_zero i)⟩
  | succ n ih =>
    obtain ⟨turns, hturns, hnow, hloop, hlength, hrest⟩ := ih
    cases hc : (run s turns).clients[n]? with
    | none =>
      refine ⟨turns, hturns, hnow, hloop, hlength, fun i hi c hget => ?_⟩
      rcases Nat.lt_succ_iff_lt_or_eq.1 hi with hlt | rfl
      · exact hrest i hlt c hget
      · rw [hc] at hget
        cases hget
    | some c =>
      obtain ⟨own, hown, c', hc', hwait⟩ := client_rests (run_orderly hs turns) hc
      obtain ⟨hnow', hloop', hlength', hothers⟩ := run_place fun a ha => (hown a ha).2
      refine ⟨turns ++ own, ?_, ?_, ?_, ?_, ?_⟩
      · intro a ha
        rcases List.mem_append.1 ha with ha | ha
        · exact hturns a ha
        · exact (hown a ha).1
      · rw [run_append, hnow', hnow]
      · rw [run_append, hloop', hloop]
      · rw [run_append, hlength', hlength]
      · intro i hi c₁ hget
        rw [run_append] at hget
        rcases Nat.lt_succ_iff_lt_or_eq.1 hi with hlt | rfl
        · rw [hothers i hlt.ne] at hget
          exact hrest i hlt c₁ hget
        · rw [hc', Option.some.injEq] at hget
          rw [← hget, ← hnow]
          exact hwait

theorem stopped_dispatches (s : St) (n : ℕ) : (run s (List.replicate n .dispatch)).stopped = s.stopped := by
  induction n generalizing s with
  | zero => rfl
  | succ n ih =>
    refine (ih (step s .dispatch)).trans ?_
    rcases dispatch_cases s with heq | ⟨e, rest, heq⟩
    · rw [heq]
    · rw [heq]
      rfl

/-- the loop gets there -/
theorem loop_rests (s : St) :
    ∃ turns : List Act, (∀ a ∈ turns, a.isTurn = true) ∧ (run s turns).now = s.now ∧
      (run s turns).loopIsBusy = false := by
  by_cases hloop : s.loop = .running
  · by_cases hstopped : s.stopped = true
    · refine ⟨[.endLoop], by simp [Act.isTurn], ?_, ?_⟩
      · simp [run, step, hloop, hstopped]
      · simp [run, step, hloop, hstopped, St.loopIsBusy]
    · obtain ⟨hnow, hchannel, -⟩ := dispatch_all hloop
      refine ⟨List.replicate s.channel.length .dispatch, ?_, hnow, ?_⟩
      · intro a ha
        rw [List.eq_of_mem_replicate ha]
        rfl
      · simp [St.loopIsBusy, hchannel, stopped_dispatches, hstopped]
  · exact ⟨[], by simp, rfl, by simp [run, St.loopIsBusy, hloop]⟩

/-- **The clock is never stuck.** Whatever has happened, the loop and the tasks get by themselves, and in no time, to a moment
at which none of them has anything left to do; from there the clock can go on. -/
theorem clock_goes_on {s : St} (hs : Orderly s) :
    ∃ turns : List Act, (∀ a ∈ turns, a.isTurn = true) ∧ (run s turns).now = s.now ∧
      (run s turns).canTick (s.now + 1) = true := by
  obtain ⟨first, hfirst, hnow₁, hloop₁⟩ := loop_rests s
  obtain ⟨second, hsecond, hnow₂, hloop₂, hlength, hrest⟩ :=
    clients_rest (run_orderly hs first) (run s first).clients.length
  have hnow : (run (run s first) second).now = s.now := hnow₂.trans hnow₁
  refine ⟨first ++ second, ?_, ?_, ?_⟩
  · intro a ha
    rcases List.mem_append.1 ha with ha | ha
    · exact hfirst a ha
    · exact hsecond a ha
  · rw [run_append, hnow]
  · rw [run_append, St.canTick, hnow, hloop₂, hloop₁]
    have hle : s.now ≤ s.now + 1 := Nat.le_succ _
    simp only [hle, decide_true, Bool.not_false, Bool.and_true, Bool.true_and, List.all_eq_true]
    intro c hc
    obtain ⟨i, hi⟩ := List.mem_iff_getElem?.1 hc
    obtain ⟨hlt, -⟩ := List.getElem?_eq_some_iff.1 hi
    rw [hlength] at hlt
    obtain ⟨hbusy, hdue⟩ := hrest i hlt c hi
    rw [hnow₁] at hbusy hdue
    rw [hbusy, Bool.not_false, Bool.true_and]
    cases hd : c.due? with
    | none => rfl
    | some due => exact decide_eq_true (hdue due hd)

end ServiceMonitor.Hub
