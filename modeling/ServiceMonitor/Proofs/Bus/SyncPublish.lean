import ServiceMonitor.Bus.Delivery
import ServiceMonitor.Proofs.Bus.Registry

/-!
Publishing with synchronous dispatch.

A publisher's task is followed turn by turn (`Runs`) and what can be seen of it is written down as marks: events
published with the registrations looked up for them, calls of handlers, and the end of each call.

`Calls` and `Acts` say what a delivery is without any code or turns. Registrations are called one after the other; a
call takes the actions of the handler's program in their order, up to its end or to a panic; an action changes the
log, the clock or the registry as `performed` says, or publishes, and then the registrations that are there at that
moment are called before the next action.

- `calls_of_runs`: whatever the handlers do, a task that comes to its end has made its calls so. By induction on the
  turns; calls and actions go together because handlers publish.
- `Calls.runs`: calls that come to their end are what a task does with the invocations in front of any code.
- `sync_publish`: a publish calls the registrations of its kind that were there when it began and returns.
-/

namespace ServiceMonitor.Bus

/-! ## What can be seen -/

inductive Mark where
  /-- an event is published while these are registered for it -/
  | published (event : Event) (ids : List Nat)
  | called (id : Nat) (event : Event)
  | returned (id : Nat)
  | panicked (id : Nat)
  deriving DecidableEq, Repr

/-- the marks that an instruction leaves -/
def marksOf (s : St) : Instr → List Mark
  | .invoke g e => [.called g.id e]
  | .ended g => [.returned g.id]
  | .act g _ .panic => [.panicked g.id]
  | .act _ _ (.publish e) => [.published e ((s.audience e).map (·.id))]
  | .act .. => []

/-- `n` turns of a publisher's task, and the marks that they leave -/
inductive Runs : ℕ → St → Code → List Mark → St → Code → Prop
  | refl (s : St) (c : Code) : Runs 0 s c [] s c
  | turn {n : ℕ} {s s' : St} {i : Instr} {c c' : Code} {t : List Mark}
      (rest : Runs n (turn s i c).1 (turn s i c).2 t s' c') : Runs (n + 1) s (i :: c) (marksOf s i ++ t) s' c'

/-- at most `n` turns, as many as there are -/
def follow : ℕ → St → Code → ℕ × List Mark × St × Code
  | 0, s, c => (0, [], s, c)
  | _ + 1, s, [] => (0, [], s, [])
  | n + 1, s, i :: c =>
    let (turns, marks, s', c') := follow n (turn s i c).1 (turn s i c).2
    (turns + 1, marksOf s i ++ marks, s', c')

theorem follow_runs (n : ℕ) (s : St) (c : Code) :
    Runs (follow n s c).1 s c (follow n s c).2.1 (follow n s c).2.2.1 (follow n s c).2.2.2 := by
  induction n generalizing s c with
  | zero => exact .refl s c
  | succ n ih =>
    cases c with
    | nil => exact .refl s []
    | cons i c => exact .turn (ih _ _)

/-! ## What a delivery is -/

/-- the registrations of a kind that are there, in the order of registration -/
def St.present (s : St) (k : Kind) : List (Registration Handler) :=
  match s.registry? with
  | none => []
  | some r => r.live.filter fun g => g.kind = k

/-- the bus with its registrations changed -/
def St.edit (s : St) (ops : List (Registry.Op Handler)) : St :=
  { s with registry? := s.registry?.map fun r => r.applyAll ops }

/-- what the action of a handler does by itself; a panic and a publish are more than this -/
def performed (s : St) (g : Registration Handler) (e : Event) : Action → St
  | .note => { s with log := s.log ++ [⟨g.handler.label, s.now, e⟩] }
  | .wait ms => { s with now := s.now + ms }
  | .cancel id => s.edit [.unsubscribe id]
  | .unsubscribe label => s.edit ((s.handles.filter fun h => h.1 = label).map fun h => .unsubscribe h.2.id)
  | .subscribe label kinds program =>
    let handler : Handler := ⟨label, s.calls.length, program⟩
    let given : List Subscription := s.registry?.elim [] fun r => kinds.mapIdx fun i k => ⟨r.nextId + i, k⟩
    { s.edit (kinds.map (.subscribe · handler)) with
      handles := s.handles ++ given.map fun sub => (label, sub), calls := s.calls ++ [0] }
  | .yield | .panic | .publish _ => s

/-- one call more is counted for a handler -/
def St.counted (s : St) (h : Handler) : St := { s with calls := s.calls.set h.number (s.callsOf h + 1) }

mutual

/-- registrations are called for an event, one after the other -/
inductive Calls : Event → St → List (Registration Handler) → List Mark → St → Prop
  | done (e : Event) (s : St) : Calls e s [] [] s
  | call {e : Event} {s s1 s' : St} {g : Registration Handler} {gs : List (Registration Handler)}
      {inner rest : List Mark} {ending : Mark}
      (body : Acts g e (s.counted g.handler) (g.handler.program (s.callsOf g.handler) e) inner ending s1)
      (others : Calls e s1 gs rest s') : Calls e s (g :: gs) (.called g.id e :: inner ++ ending :: rest) s'

/-- the actions of one call are taken up to its end: the marks in between, and the mark of the end -/
inductive Acts : Registration Handler → Event → St → List Action → List Mark → Mark → St → Prop
  | done (g : Registration Handler) (e : Event) (s : St) : Acts g e s [] [] (.returned g.id) s
  | panic (g : Registration Handler) (e : Event) (s : St) (lost : List Action) :
      Acts g e s (.panic :: lost) [] (.panicked g.id) s
  | publish {g : Registration Handler} {e e' : Event} {s s1 s' : St} {actions : List Action}
      {delivery rest : List Mark} {ending : Mark} (delivered : Calls e' s (s.present e'.kind) delivery s1)
      (others : Acts g e s1 actions rest ending s') :
      Acts g e s (.publish e' :: actions)
        (.published e' ((s.present e'.kind).map (·.id)) :: delivery ++ rest) ending s'
  | other {g : Registration Handler} {e : Event} {s s' : St} {a : Action} {actions : List Action} {inner : List Mark}
      {ending : Mark} (notPanic : a ≠ .panic) (notPublish : ∀ e', a ≠ .publish e')
      (others : Acts g e (performed s g e a) actions inner ending s') : Acts g e s (a :: actions) inner ending s'

end

/-! ## Turns -/

theorem turn_invoke (s : St) (g : Registration Handler) (e : Event) (c : Code) :
    turn s (.invoke g e) c = (s.counted g.handler, invocation g e (g.handler.program (s.callsOf g.handler) e) ++ c) := rfl

theorem turn_ended (s : St) (g : Registration Handler) (c : Code) : turn s (.ended g) c = (s, c) := rfl

theorem turn_panic (s : St) (g : Registration Handler) (e : Event) (c : Code) :
    turn s (.act g e .panic) c = (s, afterInvocation c) := rfl

theorem audience_eq (s : St) (e : Event) : s.audience e = s.present e.kind := rfl

theorem turn_publish {s : St} (hs : s.mode = .sync) (g : Registration Handler) (e e' : Event) (c : Code) :
    turn s (.act g e (.publish e')) c = (s, (s.present e'.kind).map (.invoke · e') ++ c) := by
  simp [turn, exec, St.publish, hs, audience_eq]

theorem subscribeEach_applyAll (r : Registry Handler) (kinds : List Kind) (h : Handler) :
    (r.subscribeEach kinds h).1 = r.applyAll (kinds.map (.subscribe · h)) := by
  induction kinds generalizing r with
  | nil => rfl
  | cons k kinds ih => exact ih _

/-- the subscriptions that are given out carry the next ids, in the order of the kinds -/
theorem subscribeEach_given (r : Registry Handler) (kinds : List Kind) (h : Handler) :
    (r.subscribeEach kinds h).2 = kinds.mapIdx fun i k => ⟨r.nextId + i, k⟩ := by
  induction kinds generalizing r with
  | nil => rfl
  | cons k kinds ih =>
    have hrest := ih (r.subscribe k h).1
    simp only [Registry.subscribe] at hrest
    simp only [Registry.subscribeEach, Registry.subscribe, hrest, List.mapIdx_cons, Nat.add_zero]
    congr 2
    funext i k
    rw [Nat.add_assoc, Nat.add_comm 1 i]

theorem unsubscribe_applyAll (r : Registry Handler) (ids : List Nat) :
    ids.foldl (·.unsubscribe ·) r = r.applyAll (ids.map .unsubscribe) := by
  induction ids generalizing r with
  | nil => rfl
  | cons id ids ih => exact ih _

theorem unsubscribe_performed (s : St) (label : String) :
    s.unsubscribe label =
      s.edit ((s.handles.filter fun h => h.1 = label).map fun h => .unsubscribe h.2.id) := by
  simp only [St.unsubscribe, St.edit, unsubscribe_applyAll, List.map_map]
  rfl

theorem subscribe_performed (s : St) (g : Registration Handler) (e : Event) (label : String) (kinds : List Kind)
    (program : Program) : (s.subscribe label kinds program).1 = performed s g e (.subscribe label kinds program) := by
  cases hr : s.registry? with
  | none => simp [St.subscribe, St.register, performed, St.edit, hr]
  | some r =>
    simp only [St.subscribe, St.register, performed, St.edit, hr, subscribeEach_applyAll, subscribeEach_given,
      Option.map_some, Option.elim_some]

/-- anything but a panic and a publish is performed, and the task goes on behind it; nobody sees it -/
theorem turn_other (s : St) (g : Registration Handler) (e : Event) (a : Action) (c : Code) (hp : a ≠ .panic)
    (hq : ∀ e', a ≠ .publish e') :
    turn s (.act g e a) c = (performed s g e a, c) ∧ marksOf s (.act g e a) = [] := by
  cases a with
  | panic => exact absurd rfl hp
  | publish e' => exact absurd rfl (hq e')
  | wait ms =>
    refine ⟨?_, rfl⟩
    simp only [turn, exec, performed]
    by_cases h : ms = 0 <;> simp [h]
  | unsubscribe label => exact ⟨by simp only [turn, exec, performed, unsubscribe_performed], rfl⟩
  | subscribe label kinds program => exact ⟨by simp only [turn, exec, subscribe_performed s g e], rfl⟩
  | _ => exact ⟨rfl, rfl⟩

theorem performed_mode (s : St) (g : Registration Handler) (e : Event) (a : Action) :
    (performed s g e a).mode = s.mode := by
  cases a <;> rfl

theorem performed_registry {s : St} {r : Registry Handler} (hr : s.registry? = some r) (g : Registration Handler)
    (e : Event) (a : Action) : ∃ ops, St.registry? (performed s g e a) = some (r.applyAll ops) := by
  have hedit (ops : List (Registry.Op Handler)) : St.registry? (s.edit ops) = some (r.applyAll ops) := by
    simp [St.edit, hr]
  cases a with
  | cancel id => exact ⟨_, hedit _⟩
  | unsubscribe label => exact ⟨_, hedit _⟩
  | subscribe label kinds program => exact ⟨_, hedit _⟩
  | _ => exact ⟨[], hr⟩

theorem register_mode (s : St) (kinds : List Kind) (h : Handler) : (s.register kinds h).1.mode = s.mode := by
  simp only [St.register]; split <;> rfl

theorem turn_mode (s : St) (i : Instr) (c : Code) : (turn s i c).1.mode = s.mode := by
  cases i with
  | invoke g e => rfl
  | ended g => rfl
  | act g e a =>
    cases a with
    | wait ms => simp only [turn, exec]; by_cases h : ms = 0 <;> simp [h]
    | publish e' => simp only [turn, exec, St.publish]; cases h : s.mode <;> simp [h]
    | subscribe label kinds program => exact register_mode _ _ _
    | _ => rfl

theorem Runs.mode {n : ℕ} {s s' : St} {c c' : Code} {t : List Mark} (h : Runs n s c t s' c') : s'.mode = s.mode := by
  induction h with
  | refl => rfl
  | turn _ ih => rw [ih, turn_mode]

theorem Runs.trans {n m : ℕ} {s s' s'' : St} {c c' c'' : Code} {t t' : List Mark} (h : Runs n s c t s' c')
    (h' : Runs m s' c' t' s'' c'') : Runs (n + m) s c (t ++ t') s'' c'' := by
  induction h with
  | refl => simpa using h'
  | turn _ ih =>
    rw [Nat.add_right_comm, List.append_assoc]
    exact .turn (ih h')

/-- enough fuel brings a task to its end -/
theorem Runs.finish {n : ℕ} {s s' : St} {c : Code} {t : List Mark} (h : Runs n s c t s' []) :
    ∀ fuel ≥ n, Bus.finish fuel s c = s' := by
  generalize hnil : ([] : Code) = last at h
  induction h with
  | refl s c => subst hnil; intro fuel _; cases fuel <;> rfl
  | turn _ ih =>
    intro fuel hfuel
    obtain ⟨k, rfl⟩ : ∃ k, fuel = k + 1 := ⟨fuel - 1, by omega⟩
    exact ih hnil k (by omega)

/-- a panic takes the rest of its own invocation and nothing behind it -/
theorem afterInvocation_acts (g : Registration Handler) (e : Event) (actions : List Action) (c : Code) :
    afterInvocation (invocation g e actions ++ c) = c := by
  induction actions with
  | nil => rfl
  | cons a actions ih => exact ih

theorem invocation_cons (g : Registration Handler) (e : Event) (a : Action) (actions : List Action) (c : Code) :
    invocation g e (a :: actions) ++ c = .act g e a :: (invocation g e actions ++ c) := rfl

theorem invocation_nil (g : Registration Handler) (e : Event) (c : Code) :
    invocation g e [] ++ c = .ended g :: c := rfl

/-! ## From turns to calls -/

/-- what holds of calls and of actions in front of tasks of at most `n` turns that come to their end -/
structure Whole (n : ℕ) : Prop where
  calls : ∀ {s s' : St} {gs : List (Registration Handler)} {e : Event} {c : Code} {t : List Mark}, s.mode = .sync →
    Runs n s (gs.map (.invoke · e) ++ c) t s' [] →
    ∃ k ≤ n, ∃ s1 t1 t2, t = t1 ++ t2 ∧ Calls e s gs t1 s1 ∧ s1.mode = .sync ∧ Runs k s1 c t2 s' []
  actions : ∀ {s s' : St} {g : Registration Handler} {e : Event} {actions : List Action} {c : Code} {t : List Mark},
    s.mode = .sync → Runs n s (invocation g e actions ++ c) t s' [] →
    ∃ k < n, ∃ s1 inner ending t2, t = inner ++ ending :: t2 ∧ Acts g e s actions inner ending s1 ∧ s1.mode = .sync ∧
      Runs k s1 c t2 s' []

/-- invocations in front are made one after the other, if this holds of shorter tasks -/
theorem whole_calls {n : ℕ} (ih : ∀ m < n, Whole m) {s s' : St} {gs : List (Registration Handler)} {e : Event}
    {c : Code} {t : List Mark} (hs : s.mode = .sync) (h : Runs n s (gs.map (.invoke · e) ++ c) t s' []) :
    ∃ k ≤ n, ∃ s1 t1 t2, t = t1 ++ t2 ∧ Calls e s gs t1 s1 ∧ s1.mode = .sync ∧ Runs k s1 c t2 s' [] := by
  cases gs with
  | nil => exact ⟨n, le_rfl, s, [], t, rfl, .done e s, hs, h⟩
  | cons g gs =>
    rw [List.map_cons, List.cons_append] at h
    cases h with
    | @turn m _ _ _ _ _ t h =>
      rw [turn_invoke] at h
      obtain ⟨k, hk, s1, inner, ending, t2, rfl, hbody, hs1, h⟩ := (ih m (Nat.lt_succ_self m)).actions (by exact hs) h
      obtain ⟨l, hl, s2, t3, t4, rfl, hothers, hs2, h⟩ := (ih k (by omega)).calls hs1 h
      exact ⟨l, by omega, s2, _, t4, by simp [marksOf], .call hbody hothers, hs2, h⟩

/-- the actions of an invocation in front are taken up to its end, if this holds of shorter tasks -/
theorem whole_actions {n : ℕ} (ih : ∀ m < n, Whole m) {s s' : St} {g : Registration Handler} {e : Event}
    {actions : List Action} {c : Code} {t : List Mark} (hs : s.mode = .sync)
    (h : Runs n s (invocation g e actions ++ c) t s' []) :
    ∃ k < n, ∃ s1 inner ending t2, t = inner ++ ending :: t2 ∧ Acts g e s actions inner ending s1 ∧ s1.mode = .sync ∧
      Runs k s1 c t2 s' [] := by
  cases actions with
  | nil =>
    rw [invocation_nil] at h
    cases h with
    | @turn m _ _ _ _ _ t h => exact ⟨m, Nat.lt_succ_self m, s, [], _, t, rfl, .done g e s, hs, h⟩
  | cons a actions =>
    rw [invocation_cons] at h
    cases h with
    | @turn m _ _ _ _ _ t h =>
      by_cases hp : a = .panic
      · subst hp
        rw [turn_panic, afterInvocation_acts] at h
        exact ⟨m, Nat.lt_succ_self m, s, [], _, t, rfl, .panic g e s actions, hs, h⟩
      by_cases hq : ∃ e', a = .publish e'
      · obtain ⟨e', rfl⟩ := hq
        rw [turn_publish hs] at h
        obtain ⟨k, hk, s1, t1, t2, rfl, hdelivered, hs1, h⟩ := (ih m (Nat.lt_succ_self m)).calls hs h
        obtain ⟨l, hl, s2, inner, ending, t3, rfl, hacts, hs2, h⟩ := (ih k (by omega)).actions hs1 h
        exact ⟨l, by omega, s2, _, ending, t3, by simp [marksOf, audience_eq], .publish hdelivered hacts, hs2, h⟩
      · obtain ⟨hturn, hmarks⟩ := turn_other s g e a (invocation g e actions ++ c) hp (not_exists.1 hq)
        have hs1 := (turn_mode s (.act g e a) (invocation g e actions ++ c)).trans hs
        rw [hturn] at h hs1
        obtain ⟨k, hk, s2, inner, ending, t2, rfl, hacts, hs2, h⟩ := (ih m (Nat.lt_succ_self m)).actions hs1 h
        exact ⟨k, by omega, s2, inner, ending, t2, by rw [hmarks, List.nil_append],
          .other hp (not_exists.1 hq) hacts, hs2, h⟩

theorem whole (n : ℕ) : Whole n := by
  induction n using Nat.strong_induction_on with
  | _ n ih => exact ⟨fun hs h => whole_calls ih hs h, fun hs h => whole_actions ih hs h⟩

/-- a task that has nothing but calls to make, and comes to its end, has made them -/
theorem calls_of_runs {n : ℕ} {s s' : St} {gs : List (Registration Handler)} {e : Event} {t : List Mark}
    (hs : s.mode = .sync) (h : Runs n s (gs.map (.invoke · e)) t s' []) : Calls e s gs t s' := by
  rw [← List.append_nil (gs.map _)] at h
  obtain ⟨k, -, s1, t1, t2, rfl, hcalls, -, h⟩ := (whole n).calls hs h
  cases h
  rwa [List.append_nil]

/-! ## From calls to turns -/

/-- code does this in front of any other, and the other is what is left -/
def InFront (s : St) (c : Code) (t : List Mark) (s' : St) : Prop := ∃ n, ∀ code, Runs n s (c ++ code) t s' code

theorem InFront.nil (s : St) : InFront s [] [] s := ⟨0, fun code => .refl s code⟩

theorem InFront.append {s s1 s' : St} {c d : Code} {t t' : List Mark} (h : InFront s c t s1) (h' : InFront s1 d t' s') :
    InFront s (c ++ d) (t ++ t') s' := by
  obtain ⟨n, hn⟩ := h
  obtain ⟨m, hm⟩ := h'
  refine ⟨n + m, fun code => ?_⟩
  rw [List.append_assoc]
  exact (hn (d ++ code)).trans (hm code)

theorem InFront.mode {s s' : St} {c : Code} {t : List Mark} (h : InFront s c t s') : s'.mode = s.mode := by
  obtain ⟨n, hn⟩ := h
  exact (hn []).mode

/-- a turn and what it puts in front -/
theorem InFront.turn {s s1 s' : St} {i : Instr} {c d : Code} {t : List Mark} (h : InFront s1 d t s')
    (hturn : ∀ code, Bus.turn s i (c ++ code) = (s1, d ++ code)) : InFront s (i :: c) (marksOf s i ++ t) s' := by
  obtain ⟨n, hn⟩ := h
  refine ⟨n + 1, fun code => .turn ?_⟩
  rw [List.append_eq, hturn]
  exact hn code

/-- calls that come to their end do so in front of any code -/
theorem Calls.runs {s s' : St} {gs : List (Registration Handler)} {e : Event} {t : List Mark} (h : Calls e s gs t s')
    (hs : s.mode = .sync) : InFront s (gs.map (.invoke · e)) t s' := by
  -- by induction on the calls together with the actions inside them
  refine @Calls.rec (fun e s gs t s' _ => s.mode = .sync → InFront s (gs.map (.invoke · e)) t s')
    (fun g e s actions inner ending s' _ => s.mode = .sync →
      InFront s (invocation g e actions) (inner ++ [ending]) s')
    ?none ?call ?finish ?panic ?publish ?other e s gs t s' h hs
  case none => exact fun e s _ => .nil s
  case call =>
    intro e s s1 s' g gs inner rest ending _ _ hbody hothers hs
    have hcalled := (hbody hs).append (hothers ((hbody hs).mode.trans hs))
    rw [List.append_assoc, List.singleton_append] at hcalled
    exact hcalled.turn fun code => by rw [turn_invoke, List.append_assoc]
  case finish => exact fun g e s _ => (InFront.nil s).turn fun code => turn_ended s g code
  case panic =>
    intro g e s lost _
    refine (InFront.nil s).turn fun code => ?_
    exact (turn_panic s g e _).trans (congrArg _ (afterInvocation_acts g e lost code))
  case publish =>
    intro g e e' s s1 s' actions delivery rest ending _ _ hdelivered hothers hs
    have hpublished := (hdelivered hs).append (hothers ((hdelivered hs).mode.trans hs))
    rw [← List.append_assoc] at hpublished
    refine hpublished.turn fun code => ?_
    rw [turn_publish hs, List.append_assoc]
    rfl
  case other =>
    intro g e s s' a actions inner ending hp hq _ hothers hs
    have hrest := (hothers ((performed_mode s g e a).trans hs)).turn fun code =>
      (turn_other s g e a (invocation g e actions ++ code) hp hq).1
    rwa [(turn_other s g e a [] hp hq).2, List.nil_append] at hrest

/-! ## Registries on the way -/

/-- handlers change the registry by subscribing and unsubscribing only -/
theorem turn_registry {s : St} {r : Registry Handler} (hr : s.registry? = some r) (i : Instr) (c : Code) :
    ∃ ops, St.registry? (turn s i c).1 = some (r.applyAll ops) := by
  cases i with
  | invoke g e => exact ⟨[], hr⟩
  | ended g => exact ⟨[], hr⟩
  | act g e a =>
    by_cases hp : a = .panic
    · exact ⟨[], by rw [hp, turn_panic]; exact hr⟩
    by_cases hq : ∃ e', a = .publish e'
    · obtain ⟨e', rfl⟩ := hq
      refine ⟨[], ?_⟩
      simp only [turn, exec, St.publish]
      cases s.mode <;> exact hr
    · rw [(turn_other s g e a c hp (not_exists.1 hq)).1]
      exact performed_registry hr g e a

theorem Runs.registry {n : ℕ} {s s' : St} {c c' : Code} {t : List Mark} (h : Runs n s c t s' c')
    {r : Registry Handler} (hr : s.registry? = some r) : ∃ ops, s'.registry? = some (r.applyAll ops) := by
  induction h generalizing r with
  | refl => exact ⟨[], hr⟩
  | @turn n s s' i c c' t _ ih =>
    obtain ⟨ops, hops⟩ := turn_registry hr i c
    obtain ⟨later, hlater⟩ := ih hops
    exact ⟨ops ++ later, by rw [hlater, Registry.applyAll_append]⟩

/-! ## Publishing -/

/-- **A publish reaches whoever was registered.** On a synchronous bus whose registry any subscribing and
unsubscribing has led to, let `gs` be the registrations of the event's kind when it is published. Then, whatever the
handlers do:
- the ids of `gs` are distinct, in the order of registration;
- if the calls of `gs`, one after the other, come to their end, this is what the publish does, and then it returns to
  the code behind it;
- a publish that returns has made these calls and nothing else: each of `gs` once, with this event, each ended before
  the next, with its program's actions in between, and all that they publish delivered in the same way to whoever is
  registered by then;
- all the while the registry changes by subscribing and unsubscribing, so that a publish that begins later, or inside,
  is one of the same kind with its own registrations;
- of a handler that was subscribed to every kind, and not unsubscribed since, exactly one registration is among `gs`. -/
theorem sync_publish (ops : List (Registry.Op Handler)) (s : St) (hs : s.mode = .sync)
    (hr : s.registry? = some (Registry.build ops)) (e : Event) :
    let gs := (Registry.build ops).live.filter fun g => g.kind = e.kind
    (gs.map (·.id)).Pairwise (· < ·) ∧
    (∀ t s', Calls e s gs t s' → ∃ n, (∀ code, Runs n s (s.publish e code).2 t s' code) ∧
      ∀ fuel ≥ n, deliver fuel s e = s') ∧
    (∀ n t s', Runs n s (s.publish e []).2 t s' [] → Calls e s gs t s') ∧
    (∀ n code t s' c', Runs n s (s.publish e code).2 t s' c' →
      s'.mode = .sync ∧ ∃ later, s'.registry? = some (Registry.build (ops ++ later))) ∧
    ∀ before handler later, ops = before ++ .subscribeAll handler :: later →
      let subs := ((Registry.build before).subscribeAll handler).2.map (·.id)
      (∀ id ∈ subs, .unsubscribe id ∉ later) → ∃ g, g.handler = handler ∧ gs.filter (fun x => x.id ∈ subs) = [g] := by
  intro gs
  have hcode (code : Code) : s.publish e code = (s, gs.map (.invoke · e) ++ code) := by
    simp [St.publish, hs, audience_eq, St.present, hr, gs]
  refine ⟨(Registry.build_inv ops).ofKind_increasing e.kind, ?_, ?_, ?_, ?_⟩
  · intro t s' hcalls
    obtain ⟨n, hruns⟩ := hcalls.runs hs
    refine ⟨n, fun code => by rw [hcode]; exact hruns code, fun fuel hfuel => ?_⟩
    simp only [deliver, hcode]
    exact (hruns []).finish fuel hfuel
  · intro n t s' h
    rw [hcode, List.append_nil] at h
    exact calls_of_runs hs h
  · intro n code t s' c' h
    obtain ⟨later, hlater⟩ := h.registry hr
    exact ⟨h.mode.trans hs, later, by rw [hlater, Registry.build_append]⟩
  · rintro before handler later rfl subs hsubs
    have hbuild : Registry.build (before ++ .subscribeAll handler :: later) =
        ((Registry.build before).subscribeAll handler).1.applyAll later := Registry.build_append _ _
    simp only [gs, hbuild]
    exact Registry.ofKind_subscribeAll (Registry.build_inv before) handler later hsubs e.kind

/-- a host recovers, another becomes unreachable -/
def edgeRecovered : Event := ⟨.recovered "edge1", default⟩

def nasUnreachable : Event := ⟨.unreachable "nas" "refused", default⟩

/-- when it is called first it ends its own registration, adds a handler, publishes and panics -/
def restless : Handler :=
  ⟨"restless", 0, fun n _ =>
    if n = 0 then [.note, .cancel 2, .subscribe "late" Kind.all fun _ _ => [.note], .publish nasUnreachable, .panic]
    else [.wait 5, .note]⟩

def busyOps : List (Registry.Op Handler) :=
  [.subscribeAll restless, .subscribe .hostRecovered ⟨"calm", 1, fun _ _ => [.note]⟩]

def busy : St := { start .sync with registry? := some (Registry.build busyOps), calls := [0, 0] }

/-- what the turns behind the publish leave -/
def busyRun : ℕ × List Mark × St × Code := follow 40 busy (busy.publish edgeRecovered []).2

/-- The handler that ends its registration and panics is called once, and so is the one behind it. What the first
published in between has reached its own other registration and the handler added just before, after five
milliseconds; the added handler does not get the event that was under way. -/
theorem sync_publish_restless :
    busy.mode = .sync ∧ busy.registry? = some (Registry.build busyOps) ∧
    (∃ n t s', Runs n busy (busy.publish edgeRecovered []).2 t s' [] ∧
      Calls edgeRecovered busy ((Registry.build busyOps).live.filter fun g => g.kind = .hostRecovered) t s' ∧
      (∀ fuel ≥ n, deliver fuel busy edgeRecovered = s') ∧
      t = [.called 2 edgeRecovered, .published nasUnreachable [1, 5],
        .called 1 nasUnreachable, .returned 1, .called 5 nasUnreachable, .returned 5,
        .panicked 2, .called 3 edgeRecovered, .returned 3] ∧
      s'.log = [⟨"restless", 0, edgeRecovered⟩, ⟨"restless", 5, nasUnreachable⟩, ⟨"late", 5, nasUnreachable⟩,
        ⟨"calm", 5, edgeRecovered⟩] ∧
      Option.map (fun r => r.live.map fun g => (g.id, g.handler.label)) s'.registry? =
        some [(0, "restless"), (1, "restless"), (3, "calm"), (4, "late"), (5, "late"), (6, "late")]) ∧
    ∃ g, g.handler = restless ∧
      ((Registry.build busyOps).live.filter fun g => g.kind = .hostRecovered).filter (fun x => x.id ∈ [0, 1, 2]) =
        [g] := by
  obtain ⟨-, hcalls, hruns, -, hall⟩ := sync_publish busyOps busy rfl rfl edgeRecovered
  have hrun : Runs busyRun.1 busy (busy.publish edgeRecovered []).2 busyRun.2.1 busyRun.2.2.1 [] :=
    follow_runs 40 busy (busy.publish edgeRecovered []).2
  have hmade := hruns _ _ _ hrun
  obtain ⟨n, hcode, hfuel⟩ := hcalls _ _ hmade
  exact ⟨rfl, rfl, ⟨n, busyRun.2.1, busyRun.2.2.1, hcode [], hmade, hfuel, by decide, by decide, by decide⟩,
    hall [] restless _ rfl (by simp)⟩

end ServiceMonitor.Bus
