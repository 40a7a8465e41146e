import ServiceMonitor.Proofs.Hub.Apart

/-!
What the hub is subscribed to.

The first start subscribes the hub to every kind of event, and no later one does anything; a stop ends what it holds. Nothing
else touches its subscriptions (`step_hooks`). So it never holds two of a kind. But a start does not look whether the hub has
been stopped: the first start subscribes even behind a stop, and then nothing ends the subscriptions.

- `run_hooks`: the three stretches of a run: up to the first start, up to the next stop, and behind it.
- `hub_subscriptions`: how many of a kind it holds, behind every run.
- `late_start_subscribes`: a stopped hub that is subscribed.
-/

namespace ServiceMonitor.Hub

open Bus (Registry)

/-- whether the hub was started, and what it holds on the bus -/
def St.hooks (s : St) : Bool × Registry Unit × List Bus.Subscription := (s.started, s.registry, s.subscriptions)

/-- a start that is not the first one, and a stop of a hub that holds nothing, leave it alone; so does everything else -/
theorem step_hooks {s : St} {a : Act} (hstart : a = .start → s.started = true)
    (hstop : a = .stop → s.subscriptions = []) : (step s a).hooks = s.hooks := by
  cases a with
  | start => simp [step, hstart rfl]
  | stop => simp [step, St.unsubscribe, St.hooks, hstop rfl]
  | publish e | endLoop | tick t =>
    simp only [step]
    split_ifs <;> rfl
  | dispatch =>
    simp only [step]
    split
    · rfl
    · split_ifs <;> rfl
  | _ => rfl

/-- where no act is one that counts, the hub holds what it held -/
theorem run_hooks {s : St} {acts : List Act} (hstart : .start ∈ acts → s.started = true)
    (hstop : .stop ∈ acts → s.subscriptions = []) : (run s acts).hooks = s.hooks := by
  induction acts generalizing s with
  | nil => rfl
  | cons a acts ih =>
    have hstep : (step s a).hooks = s.hooks :=
      step_hooks (fun ha => hstart (ha ▸ List.mem_cons_self)) fun ha => hstop (ha ▸ List.mem_cons_self)
    have hstarted : (step s a).started = s.started := congrArg (·.1) hstep
    have hsubs : (step s a).subscriptions = s.subscriptions := congrArg (·.2.2) hstep
    refine (ih (fun h => ?_) fun h => ?_).trans hstep
    · rw [hstarted]
      exact hstart (List.mem_cons_of_mem a h)
    · rw [hsubs]
      exact hstop (List.mem_cons_of_mem a h)

/-- up to the first start it holds nothing -/
theorem hooks_before {limits : Limits} {acts : List Act} (h : .start ∉ acts) :
    (run (start limits) acts).hooks = (false, .empty, []) :=
  run_hooks (fun hmem => absurd hmem h) fun _ => rfl

/-- from the first start on up to the next stop it holds one subscription of each kind -/
theorem hooks_between {limits : Limits} {before after : List Act} (hbefore : .start ∉ before) (hafter : .stop ∉ after) :
    (run (start limits) (before ++ .start :: after)).hooks = (true, hooked) := by
  have h : (run (start limits) before).hooks = (false, .empty, []) := hooks_before hbefore
  have hstarted : (run (start limits) before).started = false := congrArg (·.1) h
  have hregistry : (run (start limits) before).registry = .empty := congrArg (·.2.1) h
  have hsubs : (run (start limits) before).subscriptions = [] := congrArg (·.2.2) h
  have hstep : (step (run (start limits) before) .start).hooks = (true, hooked) := by
    simp [step, hstarted, hregistry, hsubs, St.subscribe, St.hooks, hooked]
  rw [run_append]
  refine (run_hooks (fun _ => ?_) fun hmem => absurd hmem hafter).trans hstep
  exact congrArg (·.1) hstep

/-- behind that stop it holds nothing for good -/
theorem hooks_behind {limits : Limits} {before after : List Act} (hbefore : .start ∉ before) (hafter : .stop ∈ after) :
    (run (start limits) (before ++ .start :: after)).registry.live = [] := by
  obtain ⟨mid, rest, rfl, hmid⟩ := List.eq_append_cons_of_mem hafter
  have h : (run (start limits) (before ++ .start :: mid)).hooks = (true, hooked) := hooks_between hbefore hmid
  rw [show before ++ .start :: (mid ++ .stop :: rest) = (before ++ .start :: mid) ++ .stop :: rest by simp, run_append]
  generalize run (start limits) (before ++ .start :: mid) = s at h ⊢
  have hstarted : s.started = true := congrArg (·.1) h
  have hregistry : s.registry = hooked.1 := congrArg (·.2.1) h
  have hsubs : s.subscriptions = hooked.2 := congrArg (·.2.2) h
  have hempty : (step s .stop).registry.live = [] := by
    simp only [step, St.unsubscribe, hregistry, hsubs]
    rfl
  have hrest : (run (step s .stop) rest).hooks = (step s .stop).hooks := run_hooks (fun _ => hstarted) fun _ => rfl
  rw [← hempty]
  exact congrArg (·.2.1.live) hrest

/-! ## How many of a kind -/

theorem hooked_count (k : Kind) : hooked.1.count k = 1 := by
  cases k <;> rfl

/-- what the hub holds of a kind behind the first start -/
theorem count_behind_start (limits : Limits) {before : List Act} (h : .start ∉ before) (after : List Act) (k : Kind) :
    (run (start limits) (before ++ .start :: after)).registry.count k = if .stop ∈ after then 0 else 1 := by
  split_ifs with hstop
  · simp [Registry.count, Registry.ofKind, hooks_behind h hstop]
  · have hregistry : (run (start limits) (before ++ .start :: after)).registry = hooked.1 :=
      congrArg (·.2.1) (hooks_between h hstop)
    rw [hregistry, hooked_count]

/-- a hub that was never started holds nothing -/
theorem count_unstarted (limits : Limits) {acts : List Act} (h : .start ∉ acts) (k : Kind) :
    (run (start limits) acts).registry.count k = 0 := by
  have hregistry : (run (start limits) acts).registry = .empty := congrArg (·.2.1) (hooks_before h)
  rw [hregistry]
  rfl

/-- **What the hub holds on the bus.** Behind every run, whatever else happens in it:
- of no kind it holds more than one subscription, so an event that is published reaches it once or not at all;
- without a start it holds none; from the first start on it holds one of each kind, and from the next stop on none;
- in particular one of each kind behind a start that no stop has preceded or followed, and none from a stop on, unless the
  hub is started for the first time behind that stop. -/
theorem hub_subscriptions (limits : Limits) (acts : List Act) (k : Kind) :
    let s := run (start limits) acts
    (s.registry.count k ≤ 1 ∧ ∀ e, s.loop = .running →
      (step s (.publish e)).channel = s.channel ++ List.replicate (s.registry.count e.kind) e) ∧
    (.start ∉ acts → s.registry.count k = 0) ∧
    (∀ before after, acts = before ++ .start :: after → .start ∉ before →
      s.registry.count k = if .stop ∈ after then 0 else 1) ∧
    (.start ∈ acts → .stop ∉ acts → s.registry.count k = 1) ∧
    ∀ before after, acts = before ++ .stop :: after → .start ∈ before ∨ .start ∉ after → s.registry.count k = 0 := by
  intro s
  have hsplit : ∀ before after, acts = before ++ .start :: after → .start ∉ before →
      ∀ k, s.registry.count k = if .stop ∈ after then 0 else 1 := by
    rintro before after hacts hbefore k
    simp only [s, hacts]
    exact count_behind_start limits hbefore after k
  have hle : ∀ k, s.registry.count k ≤ 1 := by
    intro k
    by_cases hmem : .start ∈ acts
    · obtain ⟨before, after, hacts, hbefore⟩ := List.eq_append_cons_of_mem hmem
      rw [hsplit before after hacts hbefore]
      split_ifs <;> decide
    · exact (count_unstarted limits hmem k).le.trans zero_le_one
  refine ⟨⟨hle k, fun e hloop => ?_⟩, fun hmem => count_unstarted limits hmem k,
    fun before after hacts hbefore => hsplit before after hacts hbefore k, ?_, ?_⟩
  · have hlength : (s.registry.ofKind e.kind).length ≤ 1 := hle e.kind
    simp only [step, hloop, Registry.count]
    rcases hkind : s.registry.ofKind e.kind with - | ⟨g, - | ⟨g', gs⟩⟩
    · simp
    · simp
    · rw [hkind] at hlength
      simp at hlength
  · intro hstart hstop
    obtain ⟨before, after, hacts, hbefore⟩ := List.eq_append_cons_of_mem hstart
    rw [hsplit before after hacts hbefore, if_neg fun hmem => hstop (by simp [hacts, hmem])]
  · rintro before after hacts horder
    by_cases hstart : .start ∈ before
    · obtain ⟨front, mid, hfront, hfirst⟩ := List.eq_append_cons_of_mem hstart
      rw [hsplit front (mid ++ .stop :: after) (by simp [hacts, hfront]) hfirst, if_pos (by simp)]
    · have hnever : .start ∉ acts := by simp [hacts, hstart, horder.resolve_left hstart]
      exact count_unstarted limits hnever k

/-- a hub that is started, stopped with an event on its way, and started and stopped again -/
theorem hub_subscriptions_restarted :
    let before : List Act := [.connect, .start, .publish nasRecovered]
    let after : List Act := [.start, .publish edgeRecovered, .stop]
    let s := run (start narrow) (before ++ .stop :: after)
    .start ∈ before ∧ s.registry.count .hostRecovered = 0 ∧ s.registry.count .hostUnreachable = 0 := by
  intro before after s
  have hstart : .start ∈ before := by simp [before]
  obtain ⟨-, -, -, -, hrecovered⟩ := hub_subscriptions narrow (before ++ .stop :: after) .hostRecovered
  obtain ⟨-, -, -, -, hunreachable⟩ := hub_subscriptions narrow (before ++ .stop :: after) .hostUnreachable
  exact ⟨hstart, hrecovered before after rfl (Or.inl hstart), hunreachable before after rfl (Or.inl hstart)⟩

/-- **A stopped hub that is subscribed.** Started for the first time behind a stop, the hub holds one subscription of each
kind, also when its loop, which notices the stop, is over and nothing is ever dispatched. -/
theorem late_start_subscribes :
    let s := run (start .standard) [.stop, .start]
    s.stopped = true ∧ s.subscribers = [1, 1, 1] ∧
    (step s .endLoop).loop = .done ∧ (step s .endLoop).subscribers = [1, 1, 1] ∧
    step (step s .endLoop) (.publish nasRecovered) = step s .endLoop :=
  ⟨rfl, rfl, rfl, rfl, rfl⟩

end ServiceMonitor.Hub
