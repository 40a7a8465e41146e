import ServiceMonitor.Proofs.Notifier.Turns

/-!
Closing the manager, whatever else goes on.

- `play_backends`, `play_taken`: a call of close takes exactly the backends that were registered since the last one.
- `run_closing`: from then on nothing but its own turns moves it, and it does what its script says.
- `turn_begins`: a delivery begins with the backends that are registered at that moment, and nothing else begins one.
- `closeBegins_perm`, `play_apart`: which backends are closed, and that none is notified behind that.
- `manager_closing`: all of it, for every run turn by turn, and for every run of the manager.
-/

namespace ServiceMonitor.Notifier

open Bus (Dispatch)

/-! ## What is registered -/

/-- the backend that a turn registers -/
def Turn.backend? : Turn → Option Backend
  | .register b => some b
  | _ => none

/-- the backends registered in a run, in order, one entry for each time -/
def registered (ts : List Turn) : List Backend := ts.filterMap Turn.backend?

/-- those registered since the last call of close -/
def sinceClose (ts : List Turn) : List Backend := registered (ts.rtakeWhile (· ≠ .close))

theorem registered_snoc (ts : List Turn) (t : Turn) : registered (ts ++ [t]) = registered ts ++ t.backend?.toList := by
  rw [registered, List.filterMap_append, registered]
  cases t <;> rfl

theorem turn_backends (s : Calls) {t : Turn} (h : t ≠ .close) :
    (s.turn t).manager.backends = s.manager.backends ++ t.backend?.toList := by
  cases t with
  | close => exact absurd rfl h
  | register b => rfl
  | publish e | tick t => simp only [Calls.turn]; split_ifs <;> simp [St.advanceTo, Turn.backend?]
  | begin n | goOn n => simp only [Calls.turn]; split <;> simp [St.beginOne, Turn.backend?]

/-- **What is registered** is what was registered since the last call of close. -/
theorem play_backends (mode : Dispatch) (ts : List Turn) : (play mode ts).manager.backends = sinceClose ts := by
  induction ts using List.reverseRecOn with
  | nil => rfl
  | append_singleton ts t ih =>
    rw [play_snoc, sinceClose, List.rtakeWhile_concat]
    by_cases ht : t = .close
    · subst ht
      rfl
    · rw [turn_backends _ ht, ih, if_pos (by simpa using ht), registered_snoc]
      rfl

/-! ## The calls of close -/

theorem turn_closings (s : Calls) {t : Turn} (h : t ≠ .close) :
    (s.turn t).closings = match t with
      | .goOn n => s.closings.modify n Closing.goOn
      | _ => s.closings := by
  cases t with
  | close => exact absurd rfl h
  | register b => rfl
  | publish e | tick t => simp only [Calls.turn]; split_ifs <;> rfl
  | begin n => simp only [Calls.turn]; split <;> rfl
  | goOn n =>
    simp only [Calls.turn]
    split
    · rfl
    · rename_i hnone
      rw [List.modify_eq_self (List.getElem?_eq_none_iff.1 hnone)]

/-- what the calls of close have taken -/
theorem turn_taken (s : Calls) (t : Turn) :
    (s.turn t).closings.map (·.taken) =
      s.closings.map (·.taken) ++ if t = .close then [s.manager.backends] else [] := by
  by_cases ht : t = .close
  · subst ht
    simp [Calls.turn, Closing.start]
  · rw [turn_closings s ht, if_neg ht, List.append_nil]
    cases t with
    | goOn n =>
      refine List.ext_getElem? fun i => ?_
      simp only [List.getElem?_map, List.getElem?_modify]
      cases s.closings[i]? with
      | none => rfl
      | some c =>
        by_cases hi : n = i
        · simp [hi, goOn_taken]
        · simp [hi]
    | _ => rfl

/-- **Each entry once.** The calls of close have taken, one after the other, what was registered, up to what still is. -/
theorem play_taken (mode : Dispatch) (ts : List Turn) :
    ((play mode ts).closings.map (·.taken)).flatten ++ (play mode ts).manager.backends = registered ts := by
  induction ts using List.reverseRecOn with
  | nil => rfl
  | append_singleton ts t ih =>
    rw [play_snoc, turn_taken, registered_snoc, ← ih]
    by_cases ht : t = .close
    · subst ht
      simp [Calls.turn, Turn.backend?]
    · rw [turn_backends _ ht, if_neg ht, List.append_nil, List.append_assoc]

theorem play_length (mode : Dispatch) (ts : List Turn) : (play mode ts).closings.length = ts.count .close := by
  induction ts using List.reverseRecOn with
  | nil => rfl
  | append_singleton ts t ih =>
    have hlength := congrArg List.length (turn_taken (play mode ts) t)
    rw [List.length_append, List.length_map, List.length_map, ih] at hlength
    rw [play_snoc, hlength, List.count_append, List.count_singleton]
    by_cases ht : t = .close <;> simp [ht]

/-- a call of close is moved by its own turns only -/
theorem turn_closing {s : Calls} {n : ℕ} {c : Closing} (h : s.closings[n]? = some c) (t : Turn) :
    (s.turn t).closings[n]? = some (if t = .goOn n then c.goOn else c) := by
  by_cases ht : t = .close
  · subst ht
    obtain ⟨hlt, -⟩ := List.getElem?_eq_some_iff.1 h
    simp only [Calls.turn, reduceCtorEq, if_false]
    rw [List.getElem?_append_left hlt, h]
  · rw [turn_closings s ht]
    cases t with
    | close => exact absurd rfl ht
    | goOn k =>
      by_cases hk : k = n <;> simp [h, hk]
    | _ => simpa using h

theorem run_closing {s : Calls} {n : ℕ} {c : Closing} (h : s.closings[n]? = some c) (ts : List Turn) :
    (s.run ts).closings[n]? = some (Closing.goOn^[ts.count (.goOn n)] c) := by
  induction ts generalizing s c with
  | nil => exact h
  | cons t ts ih =>
    rw [run_cons, ih (turn_closing h t), List.count_cons]
    by_cases ht : t = .goOn n <;> simp [ht, Function.iterate_succ_apply]

/-- **One call of close**: it takes what was registered since the last one, and with each of its turns it does the next thing
of its script. -/
theorem closing_marks (mode : Dispatch) (before after : List Turn) :
    ∃ c, (play mode (before ++ .close :: after)).closings[before.count .close]? = some c ∧
      c.taken = sinceClose before ∧
      c.marks = (script (sinceClose before)).take (after.count (.goOn (before.count .close))) := by
  have hstart : ((play mode before).turn .close).closings[before.count .close]? =
      some (.start (sinceClose before)) := by
    simp only [Calls.turn]
    rw [← play_length mode before, play_backends]
    simp
  have hrun : play mode (before ++ .close :: after) = ((play mode before).turn .close).run after := run_append _ _ _
  obtain ⟨hmarks, -⟩ := goOn_iterate (after.count (.goOn (before.count .close))) (.start (sinceClose before))
  refine ⟨_, by rw [hrun]; exact run_closing hstart after, iterate_taken _ _, ?_⟩
  rw [hmarks, start_todo]
  rfl

/-! ## Who is notified -/

/-- what is under way of the deliveries is only the end of it -/
def Calls.OnlyEnds (s : Calls) : Prop := ∀ r ∈ s.manager.pending, r.moment.isEnd = true

theorem deliver_ends (t : ℕ) (e : Event) (bs : List Backend) : ∀ r ∈ (deliver t e bs).2, r.moment.isEnd = true := by
  intro r hr
  rw [deliver_eq] at hr
  obtain ⟨b, -, rfl⟩ := List.mem_map.1 hr
  rfl

theorem turn_onlyEnds {s : Calls} (h : s.OnlyEnds) (t : Turn) : (s.turn t).OnlyEnds := by
  unfold Calls.OnlyEnds at h ⊢
  cases t with
  | register b | close => exact h
  | publish e => simp only [Calls.turn]; split_ifs <;> exact h
  | goOn n => simp only [Calls.turn]; split <;> exact h
  | tick t =>
    simp only [Calls.turn]
    split_ifs
    · exact fun r hr => h r (List.mem_filter.1 hr).1
    · exact h
  | begin n =>
    simp only [Calls.turn]
    split
    · intro r hr
      rcases List.mem_append.1 hr with hr | hr
      · exact h r hr
      · exact deliver_ends _ _ _ r hr
    · exact h

theorem play_onlyEnds (mode : Dispatch) (ts : List Turn) : (play mode ts).OnlyEnds := by
  induction ts using List.reverseRecOn with
  | nil => rintro r ⟨⟩
  | append_singleton ts t ih =>
    rw [play_snoc]
    exact turn_onlyEnds ih t

/-- what a turn adds to the log -/
def Calls.added (s : Calls) : Turn → List Record
  | .begin n => (s.manager.spawned[n]?).elim [] fun e => (deliver s.manager.now e s.manager.backends).1
  | .tick t => if s.manager.now ≤ t then (s.manager.pending.filter (·.time ≤ t)).mergeSort fun a b => a.time ≤ b.time else []
  | .goOn n => (s.closings[n]?).elim [] fun c => (c.record? s.manager.now).toList
  | _ => []

theorem turn_log (s : Calls) (t : Turn) : (s.turn t).manager.log = s.manager.log ++ s.added t := by
  cases t with
  | register b | close => exact (List.append_nil _).symm
  | publish e =>
    simp only [Calls.turn]
    split_ifs <;> exact (List.append_nil _).symm
  | tick t =>
    simp only [Calls.turn, Calls.added]
    split_ifs
    · rfl
    · exact (List.append_nil _).symm
  | begin n =>
    simp only [Calls.turn, Calls.added]
    cases s.manager.spawned[n]? with
    | none => exact (List.append_nil _).symm
    | some e => rfl
  | goOn n =>
    simp only [Calls.turn, Calls.added]
    cases s.closings[n]? with
    | none => exact (List.append_nil _).symm
    | some c => rfl

/-- the notifications that a turn begins -/
def Calls.begins (s : Calls) : Turn → List Record
  | .begin n =>
    (s.manager.spawned[n]?).elim [] fun e =>
      (upTo Backend.panicsAtOnce s.manager.backends).map (began s.manager.now e)
  | _ => []

theorem deliver_begins (t : ℕ) (e : Event) (bs : List Backend) :
    (deliver t e bs).1.filter (·.moment.isBegin) = (upTo Backend.panicsAtOnce bs).map (began t e) := by
  rw [deliver_eq]
  exact opening_begins t e _

theorem isEnd_not_begin {r : Record} (h : r.moment.isEnd = true) :
    r.moment.isBegin = false ∧ r.moment ≠ .closeBegin := by
  cases hm : r.moment <;> simp_all [Moment.isEnd, Moment.isBegin]

theorem isBegin_not_close {r : Record} (h : r.moment.isBegin = true) : r.moment ≠ .closeBegin := by
  cases hm : r.moment <;> simp_all [Moment.isBegin]

/-- a record that the clock brings -/
theorem added_tick {s : Calls} (h : s.OnlyEnds) {t : ℕ} {r : Record} (hr : r ∈ s.added (.tick t)) :
    r.moment.isEnd = true := by
  simp only [Calls.added] at hr
  split_ifs at hr
  · rw [List.mem_mergeSort] at hr
    exact h r (List.mem_filter.1 hr).1
  · cases hr

/-- a delivery begins with the backends that are registered, and no other turn begins one -/
theorem added_begins {s : Calls} (h : s.OnlyEnds) (t : Turn) :
    (s.added t).filter (·.moment.isBegin) = s.begins t := by
  cases t with
  | register b | publish e | close => rfl
  | tick t =>
    refine List.filter_eq_nil_iff.2 fun r hr => ?_
    rw [(isEnd_not_begin (added_tick h hr)).1]
    decide
  | begin n =>
    simp only [Calls.added, Calls.begins]
    cases s.manager.spawned[n]? with
    | none => rfl
    | some e => exact deliver_begins _ _ _
  | goOn n =>
    simp only [Calls.added, Calls.begins]
    cases s.closings[n]? with
    | none => rfl
    | some c =>
      obtain ⟨taken, stage, lastError, marks⟩ := c
      cases stage with
      | next rest => cases rest <;> rfl
      | busy b rest => rfl
      | complete => rfl

/-! ## Who is closed -/

/-- the backends whose close begins in a log -/
def closeBegins (rs : List Record) : List Backend := (rs.filter (·.moment = .closeBegin)).map (·.backend)

theorem closeBegins_append (rs rs' : List Record) : closeBegins (rs ++ rs') = closeBegins rs ++ closeBegins rs' := by
  rw [closeBegins, List.filter_append, List.map_append]
  rfl

theorem closeBegins_eq_nil {rs : List Record} (h : ∀ r ∈ rs, r.moment ≠ .closeBegin) : closeBegins rs = [] := by
  rw [closeBegins, List.filter_eq_nil_iff.2 fun r hr => by simpa using h r hr]
  rfl

def Mark.began? : Mark → Option Backend
  | .began b => some b
  | _ => none

/-- the backends whose close a call has begun -/
def Closing.begun (c : Closing) : List Backend := c.marks.filterMap Mark.began?

theorem goOn_begun (now : ℕ) (c : Closing) : c.goOn.begun = c.begun ++ closeBegins (c.record? now).toList := by
  obtain ⟨taken, stage, lastError, marks⟩ := c
  cases stage with
  | next rest =>
    cases rest <;> simp [Closing.begun, Closing.goOn, Closing.record?, closeBegins, Mark.began?]
  | busy b rest => simp [Closing.begun, Closing.goOn, Closing.record?, closeBegins, Mark.began?]
  | complete => simp [Closing.begun, Closing.goOn, Closing.record?, closeBegins]

/-- no turn but that of a call of close begins to close a backend -/
theorem added_closeBegins {s : Calls} (h : s.OnlyEnds) {t : Turn} (ht : ∀ n, t ≠ .goOn n) :
    closeBegins (s.added t) = [] := by
  refine closeBegins_eq_nil fun r hr => ?_
  cases t with
  | register b | publish e | close => cases hr
  | tick t => exact (isEnd_not_begin (added_tick h hr)).2
  | goOn n => exact absurd rfl (ht n)
  | begin n =>
    simp only [Calls.added] at hr
    cases he : s.manager.spawned[n]? with
    | none => simp [he] at hr
    | some e =>
      rw [he, Option.elim_some, deliver_eq] at hr
      obtain ⟨b, -, hb⟩ := List.mem_flatMap.1 hr
      rcases opening_moment _ _ hb with hbegin | hend
      · exact isBegin_not_close hbegin
      · exact (isEnd_not_begin hend).2

/-- one list among others becomes longer -/
theorem flatMap_modify {α β : Type} {l : List α} {n : ℕ} {a : α} {f : α → α} {g : α → List β} {new : List β}
    (ha : l[n]? = some a) (h : g (f a) = g a ++ new) : ((l.modify n f).flatMap g).Perm (l.flatMap g ++ new) := by
  obtain ⟨hlt, rfl⟩ := List.getElem?_eq_some_iff.1 ha
  have hsplit : l.flatMap g = (l.take n).flatMap g ++ (g l[n] ++ (l.drop (n + 1)).flatMap g) := by
    rw [← List.flatMap_cons, List.getElem_cons_drop, ← List.flatMap_append, List.take_append_drop]
  rw [List.modify_eq_take_cons_drop hlt, List.flatMap_append, List.flatMap_cons, h, hsplit]
  simp only [List.append_assoc]
  exact ((List.perm_append_comm).append_left _).append_left _

theorem turn_begun {s : Calls} (h : s.OnlyEnds) (t : Turn) :
    ((s.turn t).closings.flatMap Closing.begun).Perm (s.closings.flatMap Closing.begun ++ closeBegins (s.added t)) := by
  by_cases hclose : t = .close
  · subst hclose
    simp [Calls.turn, Calls.added, Closing.begun, Closing.start, closeBegins]
  rw [turn_closings s hclose]
  cases t with
  | close => exact absurd rfl hclose
  | goOn n =>
    simp only [Calls.added]
    cases hc : s.closings[n]? with
    | none =>
      rw [List.modify_eq_self (List.getElem?_eq_none_iff.1 hc)]
      simp [closeBegins]
    | some c => exact flatMap_modify hc (goOn_begun s.manager.now c)
  | _ => rw [added_closeBegins h (by simp), List.append_nil]

/-- the closes that the log has are those that the calls of close have begun -/
theorem closeBegins_perm (mode : Dispatch) (ts : List Turn) :
    (closeBegins (play mode ts).manager.log).Perm ((play mode ts).closings.flatMap Closing.begun) := by
  induction ts using List.reverseRecOn with
  | nil => exact List.Perm.refl _
  | append_singleton ts t ih =>
    rw [play_snoc, turn_log, closeBegins_append]
    exact (ih.append_right _).trans (turn_begun (play_onlyEnds mode ts) t).symm

/-- a call has closed the first of those that it has taken -/
theorem begun_first {c : Closing} (h : c.marks ++ c.todo = script c.taken) : c.begun <+: c.taken := by
  have hbacks : ∀ bs : List Backend, (bs.flatMap fun b => [Mark.began b, .ended b]).filterMap Mark.began? = bs := by
    intro bs
    induction bs with
    | nil => rfl
    | cons b bs ih => exact congrArg (b :: ·) ih
  have hscript : (script c.taken).filterMap Mark.began? = c.taken := by
    rw [script, List.filterMap_append, hbacks]
    exact List.append_nil _
  have hsplit := congrArg (List.filterMap Mark.began?) h
  rw [List.filterMap_append, hscript] at hsplit
  exact ⟨_, hsplit⟩

theorem play_scripts (mode : Dispatch) (ts : List Turn) :
    ∀ c ∈ (play mode ts).closings, c.marks ++ c.todo = script c.taken := by
  induction ts using List.reverseRecOn with
  | nil => rintro c ⟨⟩
  | append_singleton ts t ih =>
    intro c hc
    rw [play_snoc] at hc
    by_cases hclose : t = .close
    · subst hclose
      rcases List.mem_append.1 hc with hc | hc
      · exact ih c hc
      · rw [List.mem_singleton.1 hc]
        exact start_todo _
    rw [turn_closings _ hclose] at hc
    cases t with
    | goOn n =>
      obtain ⟨i, hi⟩ := List.mem_iff_getElem?.1 hc
      rw [List.getElem?_modify] at hi
      obtain ⟨c₀, hc₀, rfl⟩ := Option.map_eq_some_iff.1 hi
      have hscript := ih c₀ (List.mem_of_getElem? hc₀)
      split_ifs
      · obtain ⟨hmarks, htodo⟩ := goOn_todo c₀
        rw [hmarks, htodo, goOn_taken, List.append_assoc, List.take_append_drop]
        exact hscript
      · exact hscript
    | close => exact absurd rfl hclose
    | _ => exact ih c hc

/-- what the calls of close have begun to close is, call by call, part of what they have taken -/
theorem begun_sublist {cs : List Closing} (h : ∀ c ∈ cs, c.marks ++ c.todo = script c.taken) :
    (cs.flatMap Closing.begun).Sublist (cs.map (·.taken)).flatten := by
  induction cs with
  | nil => exact List.Sublist.slnil
  | cons c cs ih =>
    rw [List.flatMap_cons, List.map_cons, List.flatten_cons]
    refine List.Sublist.append ?_ (ih fun c' hc' => h c' (List.mem_cons_of_mem c hc'))
    exact (begun_first (h c List.mem_cons_self)).sublist

/-- **At most once.** Every entry is closed at most once over all calls of close. -/
theorem closeBegins_subperm (mode : Dispatch) (ts : List Turn) :
    List.Subperm (closeBegins (play mode ts).manager.log) (registered ts) := by
  rw [← play_taken mode ts]
  have hsublist := begun_sublist (play_scripts mode ts)
  exact (closeBegins_perm mode ts).subperm.trans (hsublist.trans (List.sublist_append_left _ _)).subperm

/-- no notification of a backend begins behind its close -/
def Apart (rs : List Record) : Prop :=
  rs.Pairwise fun r r' => r.moment = .closeBegin → r'.moment.isBegin = true → r'.backend ≠ r.backend

theorem mem_closeBegins {rs : List Record} {r : Record} (hr : r ∈ rs) (h : r.moment = .closeBegin) :
    r.backend ∈ closeBegins rs :=
  List.mem_map_of_mem (List.mem_filter.2 ⟨hr, decide_eq_true h⟩)

/-- more records, which begin notifications of others or close somebody, but not both -/
theorem apart_append {rs rs' : List Record} (h : Apart rs)
    (hothers : ∀ r ∈ rs'.filter (·.moment.isBegin), r.backend ∉ closeBegins rs)
    (hone : rs'.filter (·.moment.isBegin) = [] ∨ closeBegins rs' = []) : Apart (rs ++ rs') := by
  have hbegins {r : Record} (hr : r ∈ rs') (hbegin : r.moment.isBegin = true) : r ∈ rs'.filter (·.moment.isBegin) :=
    List.mem_filter.2 ⟨hr, hbegin⟩
  refine List.pairwise_append.2 ⟨h, List.pairwise_of_forall_mem_list ?_, ?_⟩
  · intro r hr r' hr' hclose hbegin
    rcases hone with hnone | hnone
    · have hmem := hbegins hr' hbegin
      rw [hnone] at hmem
      cases hmem
    · have hmem := mem_closeBegins hr hclose
      rw [hnone] at hmem
      cases hmem
  · intro r hr r' hr' hclose hbegin heq
    refine hothers r' (hbegins hr' hbegin) ?_
    rw [heq]
    exact mem_closeBegins hr hclose

/-- who begins is registered -/
theorem begins_registered {s : Calls} {t : Turn} {r : Record} (h : r ∈ s.begins t) : r.backend ∈ s.manager.backends := by
  cases t with
  | begin n =>
    simp only [Calls.begins] at h
    cases he : s.manager.spawned[n]? with
    | none => simp [he] at h
    | some e =>
      rw [he, Option.elim_some] at h
      obtain ⟨b, hb, rfl⟩ := List.mem_map.1 h
      exact (upTo_sublist _ _).subset hb
  | _ => cases h

/-- **Never behind its close.** If the entries can be told apart, none is notified behind its close. -/
theorem play_apart (mode : Dispatch) {ts : List Turn} (h : (registered ts).Nodup) : Apart (play mode ts).manager.log := by
  induction ts using List.reverseRecOn with
  | nil => exact List.Pairwise.nil
  | append_singleton ts t ih =>
    rw [registered_snoc] at h
    have hbefore := (List.nodup_append.1 h).1
    have hends := play_onlyEnds mode ts
    rw [play_snoc, turn_log]
    refine apart_append (ih hbefore) ?_ ?_
    · -- who begins is registered, and who is being closed has been taken out
      intro r hr hclosed
      rw [added_begins hends] at hr
      rw [← play_taken mode ts] at hbefore
      have htaken : r.backend ∈ ((play mode ts).closings.map (·.taken)).flatten :=
        (begun_sublist (play_scripts mode ts)).subset ((closeBegins_perm mode ts).mem_iff.1 hclosed)
      exact (List.nodup_append.1 hbefore).2.2 _ htaken _ (begins_registered hr) rfl
    · rw [added_begins hends]
      cases t with
      | goOn n => exact Or.inl rfl
      | _ => exact Or.inr (added_closeBegins hends (by simp))

/-! ## Behind a close -/

theorem turn_subscribed (s : Calls) (t : Turn) :
    (s.turn t).manager.subscribed = (s.manager.subscribed && t != .close) := by
  cases t with
  | register b => simp [Calls.turn, St.register]
  | close => simp [Calls.turn]
  | publish e | tick t => simp only [Calls.turn]; split_ifs <;> simp [St.advanceTo]
  | begin n | goOn n => simp only [Calls.turn]; split <;> simp [St.beginOne]

theorem play_subscribed (mode : Dispatch) (ts : List Turn) :
    (play mode ts).manager.subscribed = true ↔ .close ∉ ts := by
  induction ts using List.reverseRecOn with
  | nil => simp [play, Calls.run, start]
  | append_singleton ts t ih =>
    rw [play_snoc, turn_subscribed, Bool.and_eq_true, ih, bne_iff_ne, List.mem_append, not_or, List.mem_singleton]
    exact and_congr_right fun _ => ne_comm

/-- **Closing the manager.** Let backends be registered, events published and delivered, and close be called, in any order and in
either mode, with calls of close going on among all that.
- Each entry is taken by exactly one call of close, the first one behind its registration, or is still registered. So it is
  closed at most once over all calls.
- A call of close takes what was registered since the last one. With each of its turns it does the next thing of its script:
  it closes what it has taken, one after the other, whatever comes of it, and then returns the last error, or none. If nothing
  was registered it only returns.
- A delivery begins with the backends that are registered at that moment, up to one that panics at once, and nothing else
  begins one. So no backend is notified behind its close, where the entries can be told apart.
- From the first close on the manager has no registration on the bus, and an event that is published then changes nothing.

A run of the manager, in which a call of close has all its turns at once, is such a run: with the same calls, the same state,
and the same results. -/
theorem manager_closing (mode : Dispatch) (ts : List Turn) :
    let s := play mode ts
    ((s.closings.map (·.taken)).flatten ++ s.manager.backends = registered ts ∧
      s.manager.backends = sinceClose ts ∧ List.Subperm (closeBegins s.manager.log) (registered ts)) ∧
    (∀ before after, ts = before ++ .close :: after →
      let n := before.count .close
      ∃ c, s.closings[n]? = some c ∧ c.taken = sinceClose before ∧
        c.marks = (script (sinceClose before)).take (after.count (.goOn n)) ∧
        (sinceClose before = [] → c.marks <+: [.returned none])) ∧
    ((∀ t, (s.turn t).manager.log.filter (·.moment.isBegin) =
        s.manager.log.filter (·.moment.isBegin) ++ s.begins t) ∧
      ((registered ts).Nodup → s.manager.log.Pairwise fun r r' =>
        r.moment = .closeBegin → r'.moment.isBegin = true → r'.backend ≠ r.backend)) ∧
    (.close ∈ ts → s.manager.counts = [0, 0, 0] ∧ ∀ e, s.turn (.publish e) = s) ∧
    ∀ acts, ∃ turns, turns.filter Turn.isCall = acts.filterMap Act.call? ∧
      (play mode turns).manager = run mode acts ∧
      (play mode turns).closings.map (·.marks.getLast?) =
        ((start mode).results acts).map fun result => some (.returned result) := by
  intro s
  refine ⟨⟨play_taken mode ts, play_backends mode ts, closeBegins_subperm mode ts⟩, ?_, ⟨?_, play_apart mode⟩, ?_, ?_⟩
  · rintro before after rfl n
    obtain ⟨c, hc, htaken, hmarks⟩ := closing_marks mode before after
    refine ⟨c, hc, htaken, hmarks, fun hnone => ?_⟩
    rw [hmarks, hnone]
    exact List.take_prefix _ _
  · intro t
    rw [turn_log, List.filter_append, added_begins (play_onlyEnds mode ts)]
  · intro hclose
    have hsub : s.manager.subscribed = false := by
      rw [← Bool.not_eq_true, play_subscribed]
      exact not_not_intro hclose
    refine ⟨?_, fun e => ?_⟩
    · simp [St.counts, hsub, Kind.all]
    · simp [Calls.turn, hsub]
  · intro acts
    have hprompt : (start mode).Prompt := fun _ => ⟨rfl, rfl⟩
    have hrun := run_turns (s := ⟨start mode, []⟩) hprompt acts
    refine ⟨(start mode).allTurns 0 acts, allTurns_calls _ _ _, ?_, ?_⟩
    · exact congrArg Calls.manager hrun
    · rw [← allClosed_results]
      exact congrArg (fun s : Calls => s.closings.map (·.marks.getLast?)) hrun

/-- it cannot be closed without an error -/
def stubborn : Backend := ⟨"stubborn", 0, .returns, 3, some .closed, false⟩

/-- two backends are being closed when a third one is registered and a delivery begins that was spawned before; then close is
called again, and both calls go on -/
def crossingTurns : List Turn :=
  [.goOn 0, .register (slow .returns), .begin 0, .close, .goOn 1, .goOn 0, .publish news, .goOn 0, .goOn 1, .goOn 0, .goOn 1,
    .goOn 0]

/-- the first call closes two backends and returns the error of one of them, and the delivery reaches the third backend only -/
theorem manager_closing_crossing :
    let before : List Turn := [.register stubborn, .register steady, .publish news]
    let s := play .async (before ++ .close :: crossingTurns)
    (registered (before ++ .close :: crossingTurns)).Nodup ∧
    (∃ c, s.closings[0]? = some c ∧ c.marks = [.began stubborn, .ended stubborn, .began steady, .ended steady,
      .returned (some .closed)]) ∧
    s.manager.counts = [0, 0, 0] ∧
    (s.manager.log.Pairwise fun r r' =>
      r.moment = .closeBegin → r'.moment.isBegin = true → r'.backend ≠ r.backend) ∧
    s.manager.log.filter (·.moment.isBegin) = [began 0 news (slow .returns)] := by
  intro before s
  have hdistinct : (registered (before ++ .close :: crossingTurns)).Nodup := by decide
  obtain ⟨-, hcalls, ⟨-, hapart⟩, hclosed, -⟩ := manager_closing .async (before ++ .close :: crossingTurns)
  obtain ⟨c, hc, -, hmarks, -⟩ := hcalls before crossingTurns rfl
  refine ⟨hdistinct, ⟨c, hc, ?_⟩, (hclosed (by simp)).1, hapart hdistinct, by decide⟩
  rw [hmarks]
  decide

end ServiceMonitor.Notifier
