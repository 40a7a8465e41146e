import ServiceMonitor.Proofs.Bus.SyncPublish

/-!
A recorder among other subscribers of a synchronous bus.

A recorder is subscribed to every kind and notes what it gets. The subscribers beside it leave the bus alone: they
note, wait, let others run, or panic. Several publishers may be under way, each with code of its own; `due` is what
the recorder has still to get of one of them.

- `turn_recorder`: a turn of a publisher moves to the recorder's notes what it takes from the front of `due`, and
  nothing else.
- `publish_due`: of an event that is published, the recorder is due one copy.
- `subscribe_records`, `subscribe_beside`: a recorder that subscribes is one, and stays so when others subscribe behind it.
-/

namespace ServiceMonitor.Bus

/-- an action that leaves the bus alone -/
def Action.isQuiet : Action → Bool
  | .note | .wait _ | .yield | .panic => true
  | .cancel _ | .unsubscribe _ | .subscribe .. | .publish _ => false

/-- what a recorder does: it notes every event -/
def recording : Program := fun _ _ => [.note]

def Handler.IsRecorder (label : String) (h : Handler) : Prop := h.label = label ∧ h.program = recording

/-- a subscriber beside a recorder: it goes by another label and leaves the bus alone -/
def Handler.IsBeside (label : String) (h : Handler) : Prop :=
  h.label ≠ label ∧ ∀ n e, ∀ a ∈ h.program n e, a.isQuiet = true

/-- a synchronous bus whose subscribers leave it alone, none of them under the label -/
structure St.Quiet (label : String) (s : St) : Prop where
  sync : s.mode = .sync
  others : ∃ r, s.registry? = some r ∧ ∀ g ∈ r.live, g.handler.IsBeside label
  unheard : ∀ n ∈ s.log, n.label ≠ label

/-- a synchronous bus with one recorder of the label, subscribed to every kind, beside subscribers that leave it alone
-/
structure St.Records (label : String) (s : St) : Prop where
  sync : s.mode = .sync
  once : ∃ r, s.registry? = some r ∧ (∀ g ∈ r.live, g.handler.IsRecorder label ∨ g.handler.IsBeside label) ∧
    ∀ k, ∃ g, (r.ofKind k).filter (fun g => g.handler.label = label) = [g]

/-- the events that handlers of a label have noted -/
def St.noted (label : String) (s : St) : List Event := (s.log.filter (·.label = label)).map (·.event)

/-- the event that an instruction makes handlers of a label note, sooner or later -/
def Instr.due? (label : String) : Instr → Option Event
  | .invoke g e | .act g e .note => if g.handler.label = label then some e else none
  | _ => none

/-- the events that code makes handlers of a label note -/
def due (label : String) (c : Code) : List Event := c.filterMap (Instr.due? label)

/-- code of a publisher beside a recorder: a panic takes nothing from the recorder -/
def Tame (label : String) : Code → Prop
  | [] => True
  | .invoke g _ :: c => (g.handler.IsRecorder label ∨ g.handler.IsBeside label) ∧ Tame label c
  | .act _ _ a :: c => a.isQuiet = true ∧ (a = .panic → due label (afterInvocation c) = due label c) ∧ Tame label c
  | .ended _ :: c => Tame label c

theorem due_ended (label : String) (g : Registration Handler) (c : Code) :
    due label (.ended g :: c) = due label c := rfl

theorem due_invoke (label : String) (g : Registration Handler) (e : Event) (c : Code) :
    due label (.invoke g e :: c) = (if g.handler.label = label then [e] else []) ++ due label c := by
  by_cases hl : g.handler.label = label <;> simp [due, Instr.due?, hl]

theorem due_note (label : String) (g : Registration Handler) (e : Event) (c : Code) :
    due label (.act g e .note :: c) = (if g.handler.label = label then [e] else []) ++ due label c := by
  by_cases hl : g.handler.label = label <;> simp [due, Instr.due?, hl]

/-! ## One turn -/

theorem tame_afterInvocation {label : String} {c : Code} (h : Tame label c) : Tame label (afterInvocation c) := by
  induction c with
  | nil => trivial
  | cons i c ih =>
    cases i with
    | invoke g e => exact ih h.2
    | act g e a => exact ih h.2.2
    | ended g => exact h

/-- what a subscriber beside the recorder does is due to nobody, and a panic of it takes nothing away -/
theorem beside_invocation {label : String} {g : Registration Handler} {e : Event} {actions : List Action} {c : Code}
    (hg : g.handler.label ≠ label) (hq : ∀ a ∈ actions, a.isQuiet = true) (hc : Tame label c) :
    Tame label (invocation g e actions ++ c) ∧ due label (invocation g e actions ++ c) = due label c := by
  induction actions with
  | nil => exact ⟨hc, due_ended label g c⟩
  | cons a actions ih =>
    obtain ⟨htame, hdue⟩ := ih fun a ha => hq a (List.mem_cons_of_mem _ ha)
    have hnone : Instr.due? label (.act g e a) = none := by cases a <;> simp [Instr.due?, hg]
    rw [invocation_cons]
    refine ⟨⟨hq a List.mem_cons_self, fun _ => ?_, htame⟩, ?_⟩
    · rw [afterInvocation_acts, hdue]
    · rw [← hdue, due, List.filterMap_cons_none hnone, due]

/-- a handler that is called does for the recorder what its call was due to do -/
theorem called_invocation {label : String} {g : Registration Handler} {n : ℕ} {e : Event} {c : Code}
    (hg : g.handler.IsRecorder label ∨ g.handler.IsBeside label) (hc : Tame label c) :
    Tame label (invocation g e (g.handler.program n e) ++ c) ∧
      due label (invocation g e (g.handler.program n e) ++ c) = due label (.invoke g e :: c) := by
  rcases hg with ⟨hlabel, hprogram⟩ | ⟨hlabel, hquiet⟩
  · rw [hprogram]
    refine ⟨⟨rfl, by rintro ⟨⟩, hc⟩, ?_⟩
    rw [due_invoke, recording, invocation_cons, due_note, invocation_nil, due_ended]
  · obtain ⟨htame, hdue⟩ := beside_invocation (e := e) hlabel (hquiet n e) hc
    refine ⟨htame, ?_⟩
    rw [hdue, due_invoke, if_neg hlabel, List.nil_append]

theorem St.Records.of_eq {label : String} {s s' : St} (h : s.Records label) (hmode : s'.mode = s.mode)
    (hregistry : s'.registry? = s.registry?) : s'.Records label :=
  ⟨hmode.trans h.sync, by rw [hregistry]; exact h.once⟩

/-- **One turn.** A publisher's turn puts into the recorder's notes what it takes from the front of what is due. -/
theorem turn_recorder {label : String} {s : St} (h : s.Records label) {i : Instr} {c : Code}
    (hc : Tame label (i :: c)) :
    (turn s i c).1.Records label ∧ Tame label (turn s i c).2 ∧
      ∃ es, (turn s i c).1.noted label = s.noted label ++ es ∧
        due label (i :: c) = es ++ due label (turn s i c).2 := by
  cases i with
  | invoke g e =>
    obtain ⟨htame, hdue⟩ := called_invocation (n := s.callsOf g.handler) (e := e) hc.1 hc.2
    rw [turn_invoke]
    exact ⟨h.of_eq rfl rfl, htame, [], by simp [St.noted, St.counted], hdue.symm⟩
  | ended g => exact ⟨h, hc, [], by simp [turn_ended], rfl⟩
  | act g e a =>
    obtain ⟨hquiet, hpanic, htame⟩ := hc
    cases a with
    | note =>
      refine ⟨h.of_eq rfl rfl, htame, if g.handler.label = label then [e] else [], ?_, ?_⟩
      · simp only [turn, exec, St.noted, List.filter_append, List.map_append]
        by_cases hl : g.handler.label = label <;> simp [hl]
      · exact due_note label g e c
    | wait ms =>
      by_cases hms : ms = 0
      · simp only [turn, exec, hms, if_true]
        exact ⟨h, htame, [], by simp, rfl⟩
      · simp only [turn, exec, hms, if_false]
        exact ⟨h.of_eq rfl rfl, htame, [], by simp [St.noted], rfl⟩
    | yield => exact ⟨h, htame, [], by simp [turn, exec], rfl⟩
    | panic =>
      rw [turn_panic]
      refine ⟨h, tame_afterInvocation htame, [], by simp, ?_⟩
      rw [hpanic rfl]; rfl
    | _ => simp [Action.isQuiet] at hquiet

/-! ## Publishing and subscribing -/

theorem due_calls (label : String) (gs : List (Registration Handler)) (e : Event) :
    due label (gs.map (.invoke · e)) = (gs.filter fun g => g.handler.label = label).map fun _ => e := by
  induction gs with
  | nil => rfl
  | cons g gs ih =>
    rw [List.map_cons, due_invoke, ih]
    by_cases hl : g.handler.label = label <;> simp [hl]

theorem tame_calls {label : String} {gs : List (Registration Handler)} (e : Event)
    (h : ∀ g ∈ gs, g.handler.IsRecorder label ∨ g.handler.IsBeside label) : Tame label (gs.map (.invoke · e)) := by
  induction gs with
  | nil => trivial
  | cons g gs ih => exact ⟨h g List.mem_cons_self, ih fun g hg => h g (List.mem_cons_of_mem _ hg)⟩

/-- **One publish.** The publisher's code is due to make the recorder note the event, once. -/
theorem publish_due {label : String} {s : St} (h : s.Records label) (e : Event) :
    (s.publish e []).1 = s ∧ Tame label (s.publish e []).2 ∧ due label (s.publish e []).2 = [e] := by
  obtain ⟨r, hr, hall, honce⟩ := h.once
  obtain ⟨g, hg⟩ := honce e.kind
  have hcode : s.publish e [] = (s, (r.ofKind e.kind).map (.invoke · e)) := by
    simp [St.publish, h.sync, St.audience, hr]
  rw [hcode]
  exact ⟨rfl, tame_calls e fun g hg => hall g (List.mem_filter.1 hg).1, by rw [due_calls, hg]; rfl⟩

theorem subscribe_registry {s : St} {r : Registry Handler} (hr : s.registry? = some r) (label : String)
    (kinds : List Kind) (program : Program) :
    St.registry? (s.subscribe label kinds program).1 = some (r.subscribeEach kinds ⟨label, s.calls.length, program⟩).1 ∧
      (s.subscribe label kinds program).1.log = s.log := by
  simp [St.subscribe, St.register, hr]

/-- **A recorder that subscribes** is one, and has noted nothing yet. -/
theorem subscribe_records {label : String} {s : St} (h : s.Quiet label) :
    (s.subscribe label Kind.all recording).1.Records label ∧
      (s.subscribe label Kind.all recording).1.noted label = [] := by
  obtain ⟨r, hr, hothers⟩ := h.others
  obtain ⟨hregistry, hlog⟩ := subscribe_registry hr label Kind.all recording
  have hlive : (r.subscribeEach Kind.all ⟨label, s.calls.length, recording⟩).1.live =
      r.live ++ Registry.oneOfEach r.nextId ⟨label, s.calls.length, recording⟩ := (Registry.subscribeAll_spec r _).1
  refine ⟨⟨?_, _, hregistry, ?_, ?_⟩, ?_⟩
  · rw [St.subscribe, register_mode]; exact h.sync
  · intro g hg
    rw [hlive] at hg
    rcases List.mem_append.1 hg with hg | hg
    · exact Or.inr (hothers g hg)
    · refine Or.inl ?_
      simp only [Registry.oneOfEach, List.mem_cons, List.not_mem_nil, or_false] at hg
      rcases hg with rfl | rfl | rfl <;> exact ⟨rfl, rfl⟩
  · intro k
    obtain ⟨g, hg, hk, hh, honly⟩ :=
      Registry.exists_mem_oneOfEach r.nextId (⟨label, s.calls.length, recording⟩ : Handler) k
    refine ⟨g, ?_⟩
    have hold : (r.live.filter fun g => g.kind = k).filter (fun g => g.handler.label = label) = [] := by
      refine List.filter_eq_nil_iff.2 fun x hx => ?_
      simpa using (hothers x (List.mem_filter.1 hx).1).1
    have hnew : (Registry.oneOfEach r.nextId (⟨label, s.calls.length, recording⟩ : Handler)).filter
        (fun g => g.kind = k) = [g] :=
      Registry.filter_eq_singleton (by simp [Registry.oneOfEach]) hg (by simpa using hk)
        fun x hx hxk => honly x hx (of_decide_eq_true hxk)
    rw [Registry.ofKind, hlive, List.filter_append, List.filter_append, hold, hnew]
    simp [hh]
  · rw [St.noted, hlog, List.filter_eq_nil_iff.2 (by simpa using h.unheard), List.map_nil]

/-- a subscriber that comes later and leaves the bus alone does not matter to the recorder -/
theorem subscribe_beside {label : String} {s : St} (h : s.Records label) (other : String) (kinds : List Kind)
    {program : Program} (hother : other ≠ label) (hquiet : ∀ n e, ∀ a ∈ program n e, a.isQuiet = true) :
    (s.subscribe other kinds program).1.Records label ∧
      (s.subscribe other kinds program).1.noted label = s.noted label := by
  obtain ⟨r, hr, hall, honce⟩ := h.once
  obtain ⟨hregistry, hlog⟩ := subscribe_registry hr other kinds program
  obtain ⟨new, hlive, hnew⟩ := Registry.subscribeEach_live r kinds (⟨other, s.calls.length, program⟩ : Handler)
  refine ⟨⟨?_, _, hregistry, fun g hg => ?_, fun k => ?_⟩, by rw [St.noted, hlog, St.noted]⟩
  · rw [St.subscribe, register_mode]; exact h.sync
  · rw [hlive] at hg
    rcases List.mem_append.1 hg with hg | hg
    · exact hall g hg
    · exact Or.inr (by rw [hnew g hg]; exact ⟨hother, hquiet⟩)
  · obtain ⟨g, hg⟩ := honce k
    have hnone : (new.filter fun g => g.kind = k).filter (fun g => g.handler.label = label) = [] := by
      refine List.filter_eq_nil_iff.2 fun x hx => ?_
      rw [hnew x (List.mem_filter.1 hx).1]
      simpa using hother
    rw [Registry.ofKind] at hg
    exact ⟨g, by rw [Registry.ofKind, hlive, List.filter_append, List.filter_append, hg, hnone, List.append_nil]⟩

end ServiceMonitor.Bus
