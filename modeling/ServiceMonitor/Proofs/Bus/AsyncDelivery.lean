import ServiceMonitor.Proofs.Bus.Scheduler

/-!
Asynchronous dispatch delivers what synchronous dispatch delivers.

What a sequence of operations has to deliver is fixed by the operations alone: `promised` looks up the registrations
of a kind when an event is published, lets each of them have its call at once, and knows neither of tasks nor of time.
Every run of either mode follows it (`Meets`): what was noted, together with what is still owed, is what was promised.

- `finishes_calls`: a publisher that makes the calls itself notes what they promise, and only the clock, the log and the
  counts of calls show it.
- `takes_meets`, `run_promised`: one operation, then a run, by induction on the operations.
- `perform_takes`, `perform_run`: the publisher's own loop and the scheduler do such runs.
- `async_delivers`: the two modes side by side.
-/

namespace ServiceMonitor.Bus

/-! ## What is promised -/

/-- the calls that an event gets that is published now -/
def St.calling (s : St) (e : Event) : List Record := (s.audience e).map fun g => (g, e)

/-- a bus after an operation whose calls begin at once and one after the other, and what they make handlers note -/
def St.meet (s : St) : Op → St × List Record
  | .subscribe label kinds program => ((s.subscribe label kinds program).1, [])
  | .cancel id => (s.cancel id, [])
  | .unsubscribe label => (s.unsubscribe label, [])
  | .publish e =>
    ({ s with calls := (s.calling e).foldl called s.calls }, (openedAll s.calls (s.calling e)).flatMap notes)
  | .clock _ => (s, [])

/-- what handlers are to note of what is done -/
def promised : St → List Op → List Record
  | _, [] => []
  | s, op :: ops => (s.meet op).2 ++ promised (s.meet op).1 ops

/-- the handlers leave the bus alone -/
def Op.IsQuiet : Op → Prop
  | .subscribe _ _ program => ∀ n e, ∀ a ∈ program n e, a.isQuiet = true
  | _ => True

/-- a bus has the registrations of another one, and its handlers will have been called as often -/
structure Meets (m s : St) : Prop where
  registry : s.registry? = m.registry?
  handles : s.handles = m.handles
  calls : s.callsDue = m.calls

/-! ## Calls that a publisher makes itself -/

theorem Finishes.unique {s s1 s2 : St} {c : Code} {rs1 rs2 : List Record} (h1 : Finishes s c rs1 s1)
    (h2 : Finishes s c rs2 s2) : rs1 = rs2 ∧ s1 = s2 := by
  induction h1 generalizing rs2 s2 with
  | done s =>
    cases h2
    exact ⟨rfl, rfl⟩
  | next _ ih =>
    cases h2 with
    | next rest =>
      obtain ⟨rfl, rfl⟩ := ih rest
      exact ⟨rfl, rfl⟩

theorem turn_wait (s : St) (g : Registration Handler) (e : Event) (ms : ℕ) (c : Code) :
    turn s (.act g e (.wait ms)) c = ({ s with now := s.now + ms }, c) := by
  unfold turn exec
  by_cases hms : ms = 0
  · simp [hms]
  · simp [hms]

/-- one call is run to its end, in front of any code -/
theorem finishes_invocation (s : St) (g : Registration Handler) (e : Event) {actions : List Action}
    (quiet : ∀ a ∈ actions, a.isQuiet = true) :
    ∃ now log, ∀ code rs s', Finishes { s with now := now, log := log } code rs s' →
      Finishes s (invocation g e actions ++ code) (notes (invocation g e actions) ++ rs) s' := by
  induction actions generalizing s with
  | nil => exact ⟨s.now, s.log, fun code rs s' h => .next h⟩
  | cons a actions ih =>
    have hrest : ∀ x ∈ actions, x.isQuiet = true := fun x hx => quiet x (List.mem_cons_of_mem _ hx)
    have ha : a.isQuiet = true := quiet a List.mem_cons_self
    cases a with
    | note =>
      obtain ⟨now, log, hgo⟩ := ih { s with log := s.log ++ [⟨g.handler.label, s.now, e⟩] } hrest
      exact ⟨now, log, fun code rs s' h => .next (hgo code rs s' h)⟩
    | yield =>
      obtain ⟨now, log, hgo⟩ := ih s hrest
      exact ⟨now, log, fun code rs s' h => .next (hgo code rs s' h)⟩
    | wait ms =>
      obtain ⟨now, log, hgo⟩ := ih { s with now := s.now + ms } hrest
      refine ⟨now, log, fun code rs s' h => .next ?_⟩
      rw [turn_wait]
      exact hgo code rs s' h
    | panic =>
      refine ⟨s.now, s.log, fun code rs s' h => .next ?_⟩
      rw [turn_panic]
      have hafter : afterInvocation (invocation g e actions ++ code) = code := afterInvocation_acts g e actions code
      exact hafter.symm ▸ h
    | _ => cases ha

/-- **Calls that a publisher makes** one after the other note what they promise. -/
theorem finishes_calls (s : St) {ds : List Record} (quiet : ∀ d ∈ ds, d.1.handler.IsQuiet) :
    ∃ now log, Finishes s (ds.map fun d => .invoke d.1 d.2) ((openedAll s.calls ds).flatMap notes)
      { s with now := now, log := log, calls := ds.foldl called s.calls } := by
  induction ds generalizing s with
  | nil => exact ⟨s.now, s.log, .done s⟩
  | cons d ds ih =>
    have hd : d.1.handler.IsQuiet := quiet d List.mem_cons_self
    obtain ⟨now, log, hcall⟩ := finishes_invocation { s with calls := called s.calls d } d.1 d.2 (hd _ _)
    obtain ⟨now', log', hothers⟩ := ih { s with calls := called s.calls d, now := now, log := log }
      fun x hx => quiet x (List.mem_cons_of_mem _ hx)
    exact ⟨now', log', .next (hcall _ _ _ hothers)⟩

/-! ## One operation -/

theorem live_unsubscribe (r : Registry Handler) (ids : List ℕ) :
    ∀ g ∈ (ids.foldl (·.unsubscribe ·) r).live, g ∈ r.live := by
  induction ids generalizing r with
  | nil => exact fun g hg => hg
  | cons id ids ih => exact fun g hg => (List.mem_filter.1 (ih _ g hg)).1

/-- registrations that end leave a sound bus behind -/
theorem St.Sound.fewer {s : St} (hs : s.Sound) {f : Registry Handler → Registry Handler}
    (hf : ∀ r, ∀ g ∈ (f r).live, g ∈ r.live) : St.Sound { s with registry? := s.registry?.map f } := by
  refine ⟨hs.ready, hs.yielded, hs.sleeping, ?_, hs.alone⟩
  intro r' hr' g hg
  obtain ⟨r, hr, rfl⟩ := Option.map_eq_some_iff.1 hr'
  exact hs.registered r hr g (hf r g hg)

theorem pending_known {s : St} (hs : s.Sound) {d : Record} (hd : d ∈ s.pending) : s.Knows d.1.handler := by
  obtain ⟨c, hc, hcall⟩ := List.mem_filterMap.1 hd
  rcases hs.ready c hc with hbegun | ⟨d', rfl, hknows⟩
  · rw [hbegun.call?] at hcall
    cases hcall
  · cases hcall
    exact hknows

theorem foldl_called_length (calls : List ℕ) (ds : List Record) : (ds.foldl called calls).length = calls.length := by
  induction ds generalizing calls with
  | nil => rfl
  | cons d ds ih => rw [List.foldl_cons, ih, called_length]

/-- as many handlers have been added to the one as to the other -/
theorem Meets.length {m s : St} (h : Meets m s) : s.calls.length = m.calls.length := by
  rw [← h.calls, St.callsDue, foldl_called_length]

theorem Meets.calling {m s : St} (h : Meets m s) (e : Event) : s.calling e = m.calling e := by
  rw [St.calling, St.calling, St.audience, St.audience, h.registry]

theorem Meets.of_keeps {m s s' : St} {rs : List Record} (h : Meets m s) (keeps : Keeps s rs s') : Meets m s' :=
  ⟨keeps.registry.trans h.registry, keeps.handles.trans h.handles, keeps.calls.trans h.calls⟩

theorem calling_known {s : St} (hs : s.Sound) {e : Event} {d : Record} (hd : d ∈ s.calling e) :
    s.Knows d.1.handler := by
  obtain ⟨g, hg, rfl⟩ := List.mem_map.1 hd
  unfold St.audience at hg
  cases hr : s.registry? with
  | none => simp [hr] at hg
  | some r =>
    rw [hr] at hg
    exact hs.registered r hr g (List.mem_filter.1 hg).1

/-- subscribing is seen in the registry, the handles and the counts of calls -/
theorem subscribe_eq (s : St) (label : String) (kinds : List Kind) (program : Program) :
    (s.subscribe label kinds program).1 =
      { s with
        calls := s.calls ++ [0]
        registry? := s.registry?.map fun r => (r.subscribeEach kinds ⟨label, s.calls.length, program⟩).1
        handles := s.handles ++ s.registry?.elim [] fun r =>
          (r.subscribeEach kinds ⟨label, s.calls.length, program⟩).2.map fun sub => (label, sub) } := by
  unfold St.subscribe St.register
  cases hr : s.registry? with
  | none => simp
  | some r => simp

/-- what is under way does not notice that a handler is added -/
theorem subscribe_meets {m s : St} (hs : s.Sound) (hm : Meets m s) (label : String) (kinds : List Kind)
    {program : Program} (quiet : ∀ n e, ∀ a ∈ program n e, a.isQuiet = true) :
    (s.subscribe label kinds program).1.Sound ∧
      Meets (m.subscribe label kinds program).1 (s.subscribe label kinds program).1 ∧
      (s.subscribe label kinds program).1.owed = s.owed := by
  obtain ⟨hcode, hcalls⟩ := openedAll_new fun d hd => (pending_known hs hd).1
  rw [subscribe_eq, subscribe_eq]
  refine ⟨⟨?_, hs.yielded, hs.sleeping, ?_, hs.alone⟩, ⟨?_, ?_, ?_⟩, ?_⟩
  · intro c hc
    rcases hs.ready c hc with hbegun | ⟨d, hd, hknows⟩
    · exact Or.inl hbegun
    · exact Or.inr ⟨d, hd, by simpa using Nat.lt_succ_of_lt hknows.1, hknows.2⟩
  · intro r' hr' g hg
    obtain ⟨r, hr, rfl⟩ := Option.map_eq_some_iff.1 hr'
    obtain ⟨new, hlive, hnew⟩ := Registry.subscribeEach_live r kinds (⟨label, s.calls.length, program⟩ : Handler)
    rw [hlive] at hg
    rcases List.mem_append.1 hg with hg | hg
    · exact ⟨by simpa using Nat.lt_succ_of_lt (hs.registered r hr g hg).1, (hs.registered r hr g hg).2⟩
    · rw [hnew g hg]
      exact ⟨by simp, quiet⟩
  · simp only [hm.registry, hm.length]
  · simp only [hm.registry, hm.handles, hm.length]
  · have hdue : s.pending.foldl called s.calls = m.calls := hm.calls
    simp only [St.callsDue, St.pending] at hcalls hdue ⊢
    rw [hcalls, hdue]
  · simp only [St.owed, St.work, St.pending] at hcode ⊢
    rw [hcode]

/-- an asynchronous publish spawns the calls and returns -/
theorem publish_async {s : St} (hmode : s.mode = .async) (e : Event) :
    s.publish e [] = ({ s with ready := s.ready ++ (s.calling e).map fun d => [.invoke d.1 d.2] }, []) := by
  simp [St.publish, hmode, St.calling]

theorem publish_sync {s : St} (hmode : s.mode = .sync) (e : Event) :
    s.publish e [] = (s, (s.calling e).map fun d => .invoke d.1 d.2) := by
  simp [St.publish, hmode, St.calling]

/-- **Spawned calls** are promised, and what is under way does not notice them. -/
theorem spawn_meets {m s : St} (hs : s.Sound) (hm : Meets m s) (hmode : s.mode = .async) (e : Event) :
    let s' : St := { s with ready := s.ready ++ (s.calling e).map fun d => [.invoke d.1 d.2] }
    s'.Sound ∧ Meets (m.meet (.publish e)).1 s' ∧ s'.owed.Perm (s.owed ++ (m.meet (.publish e)).2) := by
  intro s'
  have hpending : s'.pending = s.pending ++ s.calling e := by
    have hfresh : ((s.calling e).map fun d => [Instr.invoke d.1 d.2]).filterMap call? = s.calling e := by
      rw [List.filterMap_map]
      exact List.filterMap_some
    rw [St.pending, List.filterMap_append, hfresh, St.pending]
  have hsilent : ((s.calling e).map fun d => [Instr.invoke d.1 d.2]).flatMap notes = [] := by
    refine List.flatMap_eq_nil_iff.2 fun c hc => ?_
    obtain ⟨d, -, rfl⟩ := List.mem_map.1 hc
    rfl
  refine ⟨⟨?_, hs.yielded, hs.sleeping, hs.registered, fun h => by rw [hmode] at h; cases h⟩, ⟨?_, ?_, ?_⟩, ?_⟩
  · intro c hc
    rcases List.mem_append.1 hc with hc | hc
    · exact hs.ready c hc
    · obtain ⟨d, hd, rfl⟩ := List.mem_map.1 hc
      exact Or.inr ⟨d, rfl, calling_known hs hd⟩
  · exact hm.registry
  · exact hm.handles
  · have hdue : s.pending.foldl called s.calls = m.calls := hm.calls
    rw [St.callsDue, hpending, List.foldl_append, hdue, hm.calling]
    rfl
  · have hdue : s.pending.foldl called s.calls = m.calls := hm.calls
    have howed : s'.owed = s.owed ++ (m.meet (.publish e)).2 := by
      unfold St.owed St.work
      rw [hpending, openedAll_append, hdue, St.meet, ← hm.calling]
      simp only [s', List.flatMap_append, hsilent, List.nil_append, List.append_assoc]
    exact howed ▸ List.Perm.refl _

/-- **Calls that the publisher makes** are those that are promised. -/
theorem calls_meet {m s s' : St} {e : Event} {rs : List Record} (hs : s.Sound) (hm : Meets m s)
    (hmode : s.mode = .sync) (h : Finishes s ((s.calling e).map fun d => .invoke d.1 d.2) rs s') :
    s'.Sound ∧ s'.mode = s.mode ∧ Meets (m.meet (.publish e)).1 s' ∧
      (rs ++ s'.owed).Perm (s.owed ++ (m.meet (.publish e)).2) := by
  obtain ⟨now, log, hcalls⟩ := finishes_calls s fun d hd => (calling_known (e := e) hs hd).2
  obtain ⟨rfl, rfl⟩ := h.unique hcalls
  obtain ⟨hready, hyielded, hsleeping⟩ := hs.alone hmode
  have hcounts : s.calls = m.calls := by
    rw [← hm.calls, St.callsDue, St.pending, hready]
    rfl
  have hnone : s.owed = [] := St.IsIdle.owed ⟨hready, hyielded, hsleeping⟩
  have hnone' : St.owed { s with now := now, log := log, calls := (s.calling e).foldl called s.calls } = [] :=
    St.IsIdle.owed ⟨hready, hyielded, hsleeping⟩
  refine ⟨⟨?_, hs.yielded, ?_, ?_, hs.alone⟩, rfl, ⟨hm.registry, hm.handles, ?_⟩, ?_⟩
  · simp [hready]
  · simp [hsleeping]
  · intro r hr g hg
    obtain ⟨hnumber, hquiet⟩ := hs.registered r hr g hg
    exact ⟨by rw [foldl_called_length]; exact hnumber, hquiet⟩
  · simp only [St.callsDue, St.pending, hready, List.filterMap_nil, List.foldl_nil, St.meet, hm.calling, hcounts]
  · rw [hnone, hnone', List.append_nil, List.nil_append, hm.calling, hcounts]
    exact List.Perm.refl _

/-- **One operation** makes handlers note what it promises, now or later. -/
theorem takes_meets {m s s' : St} {op : Op} {rs : List Record} (hs : s.Sound) (hm : Meets m s) (quiet : op.IsQuiet)
    (h : Takes s op rs s') :
    s'.Sound ∧ s'.mode = s.mode ∧ Meets (m.meet op).1 s' ∧ (rs ++ s'.owed).Perm (s.owed ++ (m.meet op).2) := by
  cases h with
  | subscribe label kinds program =>
    obtain ⟨hsound, hmeets, howed⟩ := subscribe_meets hs hm label kinds quiet
    have hmode : (s.subscribe label kinds program).1.mode = s.mode := by rw [subscribe_eq]
    refine ⟨hsound, hmode, hmeets, ?_⟩
    rw [howed, St.meet, List.append_nil]
    exact List.Perm.refl _
  | cancel id =>
    have hfewer : ∀ r : Registry Handler, ∀ g ∈ (r.unsubscribe id).live, g ∈ r.live :=
      fun r g hg => (List.mem_filter.1 hg).1
    refine ⟨hs.fewer hfewer, rfl, ⟨?_, hm.handles, hm.calls⟩, ?_⟩
    · simp only [St.meet, St.cancel, hm.registry]
    · rw [St.meet, List.append_nil]
      exact List.Perm.refl _
  | unsubscribe label =>
    refine ⟨hs.fewer fun r => live_unsubscribe r _, rfl, ⟨?_, hm.handles, hm.calls⟩, ?_⟩
    · simp only [St.meet, St.unsubscribe, hm.registry, hm.handles]
    · rw [St.meet, List.append_nil]
      exact List.Perm.refl _
  | @publish _ e _ returns =>
    cases hmode : s.mode with
    | sync =>
      rw [publish_sync hmode] at returns
      rw [← hmode]
      exact calls_meet hs hm hmode returns
    | async =>
      rw [publish_async hmode] at returns
      cases returns
      obtain ⟨hsound, hmeets, howed⟩ := spawn_meets hs hm hmode e
      exact ⟨hsound, hmode, hmeets, howed⟩
  | clock meanwhile now =>
    have keeps := meanwhile.keeps hs
    refine ⟨meanwhile.sound hs, keeps.mode, hm.of_keeps keeps, ?_⟩
    rw [St.meet, List.append_nil]
    exact keeps.owed

/-- **A run** makes handlers note what its operations promise, except for what is still owed. -/
theorem run_promised {m s s' : St} {ops : List Op} {rs : List Record} (hs : s.Sound) (hm : Meets m s)
    (quiet : ∀ op ∈ ops, op.IsQuiet) (h : Run s ops rs s') :
    s'.Sound ∧ s'.mode = s.mode ∧ (rs ++ s'.owed).Perm (s.owed ++ promised m ops) := by
  induction h generalizing m with
  | done tasks =>
    have keeps := tasks.keeps hs
    refine ⟨tasks.sound hs, keeps.mode, ?_⟩
    rw [promised, List.append_nil]
    exact keeps.owed
  | @op s s1 s2 s' op ops before during rest tasks takes _ ih =>
    have keeps := tasks.keeps hs
    obtain ⟨hs2, hmode, hm2, howed⟩ :=
      takes_meets (tasks.sound hs) (hm.of_keeps keeps) (quiet op List.mem_cons_self) takes
    obtain ⟨hs', hmode', hrest⟩ := ih hs2 hm2 fun x hx => quiet x (List.mem_cons_of_mem _ hx)
    refine ⟨hs', hmode'.trans (hmode.trans keeps.mode), ?_⟩
    calc before ++ during ++ rest ++ s'.owed = before ++ (during ++ (rest ++ s'.owed)) := by
          simp only [List.append_assoc]
      _ |>.Perm (before ++ (during ++ (s2.owed ++ promised (m.meet op).1 ops))) :=
          (hrest.append_left during).append_left before
      _ = before ++ (during ++ s2.owed ++ promised (m.meet op).1 ops) := by rw [List.append_assoc during]
      _ |>.Perm (before ++ (s1.owed ++ (m.meet op).2 ++ promised (m.meet op).1 ops)) :=
          (howed.append_right _).append_left before
      _ = before ++ s1.owed ++ promised m (op :: ops) := by simp only [promised, List.append_assoc]
      _ |>.Perm (s.owed ++ promised m (op :: ops)) := keeps.owed.append_right _

/-! ## The program's own runs -/

/-- what the program does for an operation, and its tasks as far as they get behind it -/
def St.perform (fuel : ℕ) (s : St) : Op → St
  | .subscribe label kinds program => (s.subscribe label kinds program).1
  | .cancel id => s.cancel id
  | .unsubscribe label => s.unsubscribe label
  | .publish e => settle fuel (deliver fuel s e)
  | .clock ms => advance fuel (s.now + ms) s

/-- a publish returns, and the publisher's loop gets there -/
theorem publish_returns {s : St} (hs : s.Sound) (e : Event) :
    ∃ rs s', Takes s (.publish e) rs s' ∧ Settles (fun fuel => deliver fuel s e) s' := by
  have hfinishes : ∃ rs s', Finishes (s.publish e []).1 (s.publish e []).2 rs s' := by
    cases hmode : s.mode with
    | sync =>
      obtain ⟨now, log, hcalls⟩ := finishes_calls s fun d hd => (calling_known (e := e) hs hd).2
      rw [publish_sync hmode]
      exact ⟨_, _, hcalls⟩
    | async =>
      rw [publish_async hmode]
      exact ⟨_, _, .done _⟩
  obtain ⟨rs, s', hfinishes⟩ := hfinishes
  exact ⟨rs, s', .publish hfinishes, hfinishes.settles⟩

/-- what the program does for an operation is one way to do it -/
theorem perform_takes {s : St} (hs : s.Sound) {op : Op} (quiet : op.IsQuiet) :
    ∃ rs s1 s', Takes s op rs s1 ∧ Within s1 s' ∧ Settles (fun fuel => s.perform fuel op) s' := by
  cases op with
  | subscribe label kinds program => exact ⟨[], _, _, .subscribe s label kinds program, .refl _, .const _⟩
  | cancel id => exact ⟨[], _, _, .cancel s id, .refl _, .const _⟩
  | unsubscribe label => exact ⟨[], _, _, .unsubscribe s label, .refl _, .const _⟩
  | publish e =>
    obtain ⟨rs, s1, htakes, hdeliver⟩ := publish_returns hs e
    have hmeets : Meets { s with calls := s.callsDue } s := ⟨rfl, rfl, rfl⟩
    have hs1 : s1.Sound := (takes_meets hs hmeets quiet htakes).1
    obtain ⟨s', hround, hwithin, -⟩ := settle_goes hs1
    exact ⟨rs, s1, s', htakes, hwithin, hdeliver.bind hround⟩
  | clock ms =>
    obtain ⟨s', rs, hsettles, hgo, hnow⟩ := advance_goes hs (Nat.le_add_right s.now ms)
    exact ⟨rs, s', s', .clock hgo hnow, .refl s', hsettles⟩

theorem Run.behind {s s1 s' : St} {ops : List Op} {rs rs' : List Record} (h : GoesOn s rs s1)
    (run : Run s1 ops rs' s') : Run s ops (rs ++ rs') s' := by
  cases run with
  | done tasks => exact .done (h.trans tasks)
  | op tasks takes rest =>
    have hrun := Run.op (h.trans tasks) takes rest
    simp only [List.append_assoc] at hrun ⊢
    exact hrun

/-- **What the program does** for operations, one after the other, is a run. -/
theorem perform_run {s : St} (hs : s.Sound) {ops : List Op} (quiet : ∀ op ∈ ops, op.IsQuiet) :
    ∃ rs s', Run s ops rs s' ∧ Settles (fun fuel => ops.foldl (fun s op => s.perform fuel op) s) s' := by
  induction ops generalizing s with
  | nil => exact ⟨[], s, .done (.refl s), .const s⟩
  | cons op ops ih =>
    have hop : op.IsQuiet := quiet op List.mem_cons_self
    obtain ⟨rs, s1, s2, htakes, hwithin, hsettles⟩ := perform_takes hs hop
    have hmeets : Meets { s with calls := s.callsDue } s := ⟨rfl, rfl, rfl⟩
    have hs1 : s1.Sound := (takes_meets hs hmeets hop htakes).1
    obtain ⟨rs', s', hrun, hrest⟩ := ih (hwithin.sound hs1) fun x hx => quiet x (List.mem_cons_of_mem _ hx)
    obtain ⟨during, hgo⟩ := hwithin.goes
    exact ⟨_, s', .op (.refl s) htakes (.behind hgo hrun),
      hsettles.bind (g := fun fuel s => ops.foldl (fun s op => s.perform fuel op) s) hrest⟩

/-! ## Both modes -/

theorem start_sound (mode : Dispatch) : (start mode).Sound := by
  refine ⟨by simp [start], by simp [start], by simp [start], ?_, fun _ => ⟨rfl, rfl, rfl⟩⟩
  intro r hr g hg
  cases hr
  cases hg

theorem start_meets (mode : Dispatch) : Meets (start .sync) (start mode) := ⟨rfl, rfl, rfl⟩

theorem Takes.log {s s' : St} {op : Op} {rs : List Record} (h : Takes s op rs s') :
    s'.log.map Entry.said = s.log.map Entry.said ++ rs.map Record.said := by
  cases h with
  | subscribe label kinds program => simp [subscribe_eq]
  | cancel id => simp [St.cancel]
  | unsubscribe label => simp [St.unsubscribe]
  | @publish _ e _ returns =>
    have hlog : (s.publish e []).1.log = s.log := by
      unfold St.publish
      cases s.mode <;> rfl
    rw [returns.log, hlog]
  | clock meanwhile now => exact meanwhile.log

theorem Run.log {s s' : St} {ops : List Op} {rs : List Record} (h : Run s ops rs s') :
    s'.log.map Entry.said = s.log.map Entry.said ++ rs.map Record.said := by
  induction h with
  | done tasks => exact tasks.log
  | op tasks takes _ ih =>
    rw [ih, takes.log, tasks.log]
    simp only [List.map_append, List.append_assoc]

/-- **Asynchronous dispatch delivers what synchronous dispatch delivers.** Let things be done to a bus from outside,
with handlers that note, wait, let others run or panic and leave the bus alone, and let its tasks be run in any order
and at any time; only a handler that goes by how often it was called has its calls begin in the order of their events.
- Once every call of the asynchronous bus has ended, its handlers have noted what those of the synchronous one have
  noted: the same events at the same registrations, each as often.
- In both modes that is what the operations promise, which is fixed by who is registered when an event is published.
- The log says what was noted, and tasks that are let go on come to their end.
- What the program itself does for the operations is such a run, in both modes, from some fuel on.
- An asynchronous publish, on any bus and with any handlers, returns with its calls spawned and nothing else changed:
  the clock has not moved, and no handler has been called or has gone on.
-/
theorem async_delivers (ops : List Op) (quiet : ∀ op ∈ ops, op.IsQuiet) :
    (∀ a b ra rb, Run (start .async) ops ra a → a.IsIdle → Run (start .sync) ops rb b → ra.Perm rb) ∧
    (∀ mode rs s, Run (start mode) ops rs s → s.IsIdle → rs.Perm (promised (start .sync) ops)) ∧
    (∀ mode rs s, Run (start mode) ops rs s →
      s.log.map Entry.said = rs.map Record.said ∧ ∃ rs' s', GoesOn s rs' s' ∧ s'.IsIdle) ∧
    (∀ mode, ∃ n rs s, Run (start mode) ops rs s ∧
      ∀ fuel ≥ n, ops.foldl (fun s op => s.perform fuel op) (start mode) = s) ∧
    ∀ s e, s.mode = .async →
      let spawned : St := { s with ready := s.ready ++ (s.audience e).map fun g => [.invoke g e] }
      (∀ rs s', Takes s (.publish e) rs s' → rs = [] ∧ s' = spawned) ∧ ∀ fuel, deliver fuel s e = spawned := by
  have hpromised {mode : Dispatch} {rs : List Record} {s : St} (h : Run (start mode) ops rs s) :
      s.Sound ∧ s.mode = mode ∧ (rs ++ s.owed).Perm (promised (start .sync) ops) :=
    run_promised (start_sound mode) (start_meets mode) quiet h
  have hidle {mode : Dispatch} {rs : List Record} {s : St} (h : Run (start mode) ops rs s) (idle : s.IsIdle) :
      rs.Perm (promised (start .sync) ops) := by
    have hrun := (hpromised h).2.2
    rwa [idle.owed, List.append_nil] at hrun
  refine ⟨?_, fun mode rs s h idle => hidle h idle, ?_, ?_, ?_⟩
  -- a synchronous bus has nothing under way, so both have noted all that was promised
  · intro a b ra rb ha idle hb
    obtain ⟨hsound, hmode, -⟩ := hpromised hb
    exact (hidle ha idle).trans (hidle hb (hsound.alone hmode)).symm
  · intro mode rs s h
    refine ⟨?_, goes_on_to_idle (hpromised h).1⟩
    have hlog := h.log
    rwa [show (start mode).log = [] from rfl, List.map_nil, List.nil_append] at hlog
  · intro mode
    obtain ⟨rs, s, hrun, n, hn⟩ := perform_run (start_sound mode) quiet
    exact ⟨n, rs, s, hrun, hn⟩
  · intro s e hmode spawned
    have hpublish : s.publish e [] = (spawned, []) := by
      simp [spawned, St.publish, hmode]
    refine ⟨?_, fun fuel => ?_⟩
    · intro rs s' h
      cases h with
      | publish returns =>
        rw [hpublish] at returns
        cases returns
        exact ⟨rfl, rfl⟩
    · simp only [deliver, hpublish]
      cases fuel <;> rfl

/-- a handler that takes its time, and one that notes at once and panics -/
def slowAt : Registration Handler := ⟨0, .hostRecovered, ⟨"slow", 0, fun _ _ => [.wait 5, .note]⟩⟩

def hastyAt : Registration Handler := ⟨3, .hostRecovered, ⟨"hasty", 1, fun _ _ => [.note, .panic]⟩⟩

def overtakenOps : List Op :=
  [.subscribe "slow" [.hostRecovered] slowAt.handler.program, .subscribe "hasty" Kind.all hastyAt.handler.program,
    .publish edgeRecovered, .unsubscribe "slow", .clock 5]

theorem overtaken_quiet : ∀ op ∈ overtakenOps, op.IsQuiet := by
  intro op hop
  simp only [overtakenOps, List.mem_cons, List.not_mem_nil, or_false] at hop
  rcases hop with rfl | rfl | rfl | rfl | rfl
  · intro n e a ha
    fin_cases ha <;> rfl
  · intro n e a ha
    fin_cases ha <;> rfl
  all_goals trivial

/-- the call that is spawned second begins first, and the other one notes after its handler was unsubscribed -/
theorem overtaken_async : ∃ ra a, Run (start .async) overtakenOps ra a ∧ a.IsIdle ∧
    ra = [(hastyAt, edgeRecovered), (slowAt, edgeRecovered)] := by
  have hturn : InTurn [[.invoke slowAt edgeRecovered]] (.invoke hastyAt edgeRecovered) := by
    intro d hd hnumber
    injection List.mem_singleton.1 hd with hcall
    injection hcall with hslow
    rw [hslow] at hnumber
    cases hnumber
  refine ⟨_, _, .op (.refl _) (.subscribe _ _ _ _) <| .op (.refl _) (.subscribe _ _ _ _) <|
    .op (.refl _) (.publish (.done _)) <| .op (.refl _) (.unsubscribe _ _) <|
    .op (.step (.runs [[.invoke slowAt edgeRecovered]] (.invoke hastyAt edgeRecovered) [] [] rfl hturn) <|
      .step (.runs [] _ _ _ rfl trivial) <| .step (.runs [] _ _ _ rfl trivial) <| .step (.ends [] _ rfl) <|
      .step (.runs [] _ _ _ rfl (inTurn_nil _)) <| .step (.runs [] _ _ _ rfl trivial) <| .refl _)
    (.clock (.wake 5 (Nat.zero_le _) <| .step (.runs [] _ _ _ rfl trivial) <| .step (.runs [] _ _ _ rfl trivial) <|
      .step (.ends [] _ rfl) <| .refl _) rfl) <| .done (.refl _), ?_, ?_⟩
  · exact ⟨rfl, rfl, rfl⟩
  · rfl

theorem overtaken_sync :
    ∃ rb b, Run (start .sync) overtakenOps rb b ∧ rb = [(slowAt, edgeRecovered), (hastyAt, edgeRecovered)] := by
  refine ⟨_, _, .op (.refl _) (.subscribe _ _ _ _) <| .op (.refl _) (.subscribe _ _ _ _) <|
    .op (.refl _) (.publish (.next <| .next <| .next <| .next <| .next <| .next <| .next <| .done _)) <|
    .op (.refl _) (.unsubscribe _ _) <| .op (.refl _) (.clock (.wake 10 (Nat.le_add_right 5 5) (.refl _)) rfl) <|
    .done (.refl _), ?_⟩
  rfl

/-- the two modes note the same, in different orders -/
theorem async_delivers_overtaken : (∀ op ∈ overtakenOps, op.IsQuiet) ∧
    ∃ ra rb a b, Run (start .async) overtakenOps ra a ∧ a.IsIdle ∧ Run (start .sync) overtakenOps rb b ∧
      ra = [(hastyAt, edgeRecovered), (slowAt, edgeRecovered)] ∧
      rb = [(slowAt, edgeRecovered), (hastyAt, edgeRecovered)] ∧ ra.Perm rb := by
  obtain ⟨ra, a, ha, idle, hra⟩ := overtaken_async
  obtain ⟨rb, b, hb, hrb⟩ := overtaken_sync
  have hdelivers := async_delivers overtakenOps overtaken_quiet
  exact ⟨overtaken_quiet, ra, rb, a, b, ha, idle, hb, hra, hrb, hdelivers.1 a b ra rb ha idle hb⟩

end ServiceMonitor.Bus
