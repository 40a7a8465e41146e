import Mathlib.Logic.Relation
import ServiceMonitor.Proofs.Notifier.Turns

/-!
The task that one event is delivered in.

The backends are parts of one task, and the task takes a step whenever one of them can: it begins with the next backend, or one
of those that it waits for is due. Only when there is nothing to do does the clock go on, and it stops where the next backend is
due. Which of the backends that are due comes first is left open, and so is whether one without delay ends before the next one
begins.

- `step_fits`, `reach_fits`: what every step preserves, and so what every way of taking turns does.
- `over_notified`: a task that is over has notified everyone, and it is over exactly after the largest delay.
- `deliver_joined`: what the manager records for backends that do not panic is one such way.
-/

namespace ServiceMonitor.Notifier

open Relation (ReflTransGen)

/-! ## The largest delay -/

/-- the largest delay of some backends -/
def longest (bs : List Backend) : ℕ := bs.foldr (fun b n => max b.delay n) 0

theorem delay_le_longest {b : Backend} {bs : List Backend} (h : b ∈ bs) : b.delay ≤ longest bs := by
  induction bs with
  | nil => cases h
  | cons a as ih =>
    rcases List.mem_cons.1 h with rfl | h
    · exact le_max_left _ _
    · exact (ih h).trans (le_max_right _ _)

theorem add_longest_le {t n : ℕ} {bs : List Backend} (ht : t ≤ n) (h : ∀ b ∈ bs, t + b.delay ≤ n) : t + longest bs ≤ n := by
  induction bs with
  | nil => exact ht
  | cons b bs ih =>
    have hb := h b List.mem_cons_self
    have hbs := ih fun a ha => h a (List.mem_cons_of_mem b ha)
    rw [longest, List.foldr_cons, ← longest]
    omega

/-! ## The task -/

/-- an event handed to backends at a time: all of them begin then, in their order, and each ends after its own delay -/
structure AllNotified (t : ℕ) (e : Event) (bs : List Backend) (rs : List Record) : Prop where
  begins : rs.filter (·.moment.isBegin) = bs.map (began t e)
  ends : (rs.filter (·.moment.isEnd)).Perm (bs.map (ended t e))
  nothingElse : ∀ r ∈ rs, r.moment.isBegin = true ∨ r.moment.isEnd = true
  inTime : rs.Pairwise fun r r' => r.time ≤ r'.time

/-- how far a delivery has come -/
structure Task where
  now : ℕ
  /-- these have not begun -/
  fresh : List Backend
  /-- these are waited for, each until its time -/
  waiting : List (Backend × ℕ)
  records : List Record

inductive Task.Step (e : Event) : Task → Task → Prop
  | begin (now : ℕ) (b : Backend) (bs : List Backend) (waiting : List (Backend × ℕ)) (records : List Record) :
    Step e ⟨now, b :: bs, waiting, records⟩
      ⟨now, bs, waiting ++ [(b, now + b.delay)], records ++ [⟨b, .notifyBegin e, now⟩]⟩
  | finish (now : ℕ) (fresh : List Backend) (front back : List (Backend × ℕ)) (b : Backend) (due : ℕ)
    (records : List Record) (hdue : due ≤ now) :
    Step e ⟨now, fresh, front ++ (b, due) :: back, records⟩
      ⟨now, fresh, front ++ back, records ++ [⟨b, .notifyEnd e, now⟩]⟩
  | tick (now later : ℕ) (waiting : List (Backend × ℕ)) (records : List Record) (hwaits : waiting ≠ [])
    (hlater : now ≤ later) (hdue : ∀ w ∈ waiting, later ≤ w.2) :
    Step e ⟨now, [], waiting, records⟩ ⟨later, [], waiting, records⟩

/-- where a delivery to some backends stands that began at a time -/
structure Task.Fits (t : ℕ) (e : Event) (bs : List Backend) (s : Task) : Prop where
  begins : s.records.filter (·.moment.isBegin) ++ s.fresh.map (began t e) = bs.map (began t e)
  ends : (s.records.filter (·.moment.isEnd) ++ ((s.waiting.map fun w => ended t e w.1) ++ s.fresh.map (ended t e))).Perm
    (bs.map (ended t e))
  nothingElse : ∀ r ∈ s.records, r.moment.isBegin = true ∨ r.moment.isEnd = true
  inTime : s.records.Pairwise fun r r' => r.time ≤ r'.time
  past : ∀ r ∈ s.records, r.time ≤ s.now
  /-- time does not pass before all have begun -/
  still : s.fresh ≠ [] → s.now = t
  due : ∀ w ∈ s.waiting, w.1 ∈ bs ∧ w.2 = t + w.1.delay ∧ s.now ≤ w.2
  started : t ≤ s.now
  soon : s.now ≤ t + longest bs

section

variable {t : ℕ} {e : Event} {bs : List Backend} {s s' : Task}

theorem start_fits (t : ℕ) (e : Event) (bs : List Backend) : Task.Fits t e bs ⟨t, bs, [], []⟩ where
  begins := rfl
  ends := List.Perm.refl _
  nothingElse := by simp
  inTime := List.Pairwise.nil
  past := by simp
  still := fun _ => rfl
  due := by simp
  started := le_rfl
  soon := Nat.le_add_right _ _

/-- a record made now comes last -/
theorem inTime_snoc {rs : List Record} {r : Record} (h : rs.Pairwise fun r r' => r.time ≤ r'.time)
    (hpast : ∀ r' ∈ rs, r'.time ≤ r.time) : (rs ++ [r]).Pairwise fun r r' => r.time ≤ r'.time := by
  rw [List.pairwise_append]
  refine ⟨h, List.pairwise_singleton _ _, ?_⟩
  intro r' hr' r'' hr''
  rw [List.mem_singleton.1 hr'']
  exact hpast r' hr'

/-- **One step** keeps to the plan. -/
theorem step_fits (h : Task.Fits t e bs s) (hstep : Task.Step e s s') : Task.Fits t e bs s' := by
  cases hstep with
  | begin now b rest waiting records =>
    have hnow : now = t := h.still (List.cons_ne_nil b rest)
    subst hnow
    have hmem : b ∈ bs := by
      have hbegan : began now e b ∈ bs.map (began now e) := by
        rw [← h.begins]
        exact List.mem_append_right _ List.mem_cons_self
      obtain ⟨a, ha, heq⟩ := List.mem_map.1 hbegan
      cases heq
      exact ha
    refine { begins := ?_, ends := ?_, nothingElse := ?_, inTime := ?_, past := ?_, still := fun _ => rfl, due := ?_,
             started := le_rfl, soon := h.soon }
    · rw [← h.begins]
      simp [Moment.isBegin, began]
    · have hends := h.ends
      simpa [Moment.isEnd] using hends
    · intro r hr
      rcases List.mem_append.1 hr with hr | hr
      · exact h.nothingElse r hr
      · rw [List.mem_singleton.1 hr]
        exact Or.inl rfl
    · exact inTime_snoc h.inTime h.past
    · intro r hr
      rcases List.mem_append.1 hr with hr | hr
      · exact h.past r hr
      · exact (congrArg Record.time (List.mem_singleton.1 hr)).le
    · intro w hw
      rcases List.mem_append.1 hw with hw | hw
      · exact h.due w hw
      · rw [List.mem_singleton.1 hw]
        exact ⟨hmem, rfl, Nat.le_add_right _ _⟩
  | finish now fresh front back b due records hdue =>
    -- the clock has not passed the time at which the backend is due, so it ends exactly then
    obtain ⟨-, hplan, hnow⟩ := h.due (b, due) (List.mem_append_right front List.mem_cons_self)
    have hrecord : (⟨b, .notifyEnd e, now⟩ : Record) = ended t e b := by
      have htime : now = t + b.delay := (le_antisymm hnow hdue).trans hplan
      rw [htime]
      rfl
    refine { begins := ?_, ends := ?_, nothingElse := ?_, inTime := inTime_snoc h.inTime h.past, past := ?_,
             still := h.still, due := ?_, started := h.started, soon := h.soon }
    · rw [← h.begins]
      simp [Moment.isBegin]
    · refine List.Perm.trans ?_ h.ends
      rw [hrecord]
      have hend : [ended t e b].filter (·.moment.isEnd) = [ended t e b] := rfl
      simp only [List.filter_append, hend, List.map_append, List.map_cons, List.append_assoc, List.nil_append,
        List.cons_append]
      refine List.Perm.append_left _ ?_
      exact List.perm_middle.symm
    · intro r hr
      rcases List.mem_append.1 hr with hr | hr
      · exact h.nothingElse r hr
      · rw [List.mem_singleton.1 hr]
        exact Or.inr rfl
    · intro r hr
      rcases List.mem_append.1 hr with hr | hr
      · exact h.past r hr
      · exact (congrArg Record.time (List.mem_singleton.1 hr)).le
    · intro w hw
      apply h.due w
      rcases List.mem_append.1 hw with hw | hw
      · exact List.mem_append_left _ hw
      · exact List.mem_append_right _ (List.mem_cons_of_mem _ hw)
  | tick now later waiting records hwaits hlater hdue =>
    have hsoon : later ≤ t + longest bs := by
      obtain ⟨w, hw⟩ := List.exists_mem_of_ne_nil waiting hwaits
      obtain ⟨hmem, hplan, -⟩ := h.due w hw
      calc
        later ≤ w.2 := hdue w hw
        _ = t + w.1.delay := hplan
        _ ≤ t + longest bs := Nat.add_le_add_left (delay_le_longest hmem) t
    exact { h with
      past := fun r hr => (h.past r hr).trans hlater
      still := fun hfresh => absurd rfl hfresh
      due := fun w hw => ⟨(h.due w hw).1, (h.due w hw).2.1, hdue w hw⟩
      started := h.started.trans hlater
      soon := hsoon }

/-- **Any way of taking turns** keeps to the plan. -/
theorem reach_fits (h : ReflTransGen (Task.Step e) ⟨t, bs, [], []⟩ s) : Task.Fits t e bs s := by
  induction h with
  | refl => exact start_fits t e bs
  | tail _ hstep ih => exact step_fits ih hstep

/-- **A task that is over** has notified everyone, and has taken as long as the slowest backend. -/
theorem over_notified {now : ℕ} {rs : List Record} (h : ReflTransGen (Task.Step e) ⟨t, bs, [], []⟩ ⟨now, [], [], rs⟩) :
    AllNotified t e bs rs ∧ now = t + longest bs := by
  obtain ⟨hbegins, hends, hnothing, htime, hpast, -, -, hstarted, hsoon⟩ := reach_fits h
  simp only [List.map_nil, List.append_nil] at hbegins hends
  refine ⟨⟨hbegins, hends, hnothing, htime⟩, le_antisymm hsoon ?_⟩
  apply add_longest_le hstarted
  intro b hb
  have hmem : ended t e b ∈ rs.filter (·.moment.isEnd) := hends.mem_iff.2 (List.mem_map_of_mem hb)
  exact hpast _ (List.mem_filter.1 hmem).1

/-! ## What the manager records -/

/-- all backends begin, and those without delay end at once -/
theorem begin_all (t : ℕ) (e : Event) (bs : List Backend) (waiting : List (Backend × ℕ)) (records : List Record) :
    ReflTransGen (Task.Step e) ⟨t, bs, waiting, records⟩
      ⟨t, [], waiting ++ (bs.filter (·.delay ≠ 0)).map (fun b => (b, t + b.delay)),
        records ++ bs.flatMap (opening t e)⟩ := by
  induction bs generalizing waiting records with
  | nil => simp [ReflTransGen.refl]
  | cons b bs ih =>
    refine ReflTransGen.head (Task.Step.begin t b bs waiting records) ?_
    by_cases hb : b.delay = 0
    · have hfinish := Task.Step.finish (e := e) t bs waiting [] b (t + b.delay) (records ++ [began t e b]) (by omega)
      refine ReflTransGen.head hfinish ?_
      have hrest := ih (waiting ++ []) (records ++ [began t e b] ++ [⟨b, .notifyEnd e, t⟩])
      simpa [opening, ended, hb] using hrest
    · have hrest := ih (waiting ++ [(b, t + b.delay)]) (records ++ [began t e b])
      simpa [opening, hb, began] using hrest

/-- those waited for end in the order of their delays -/
theorem end_all (t : ℕ) (e : Event) {bs : List Backend} (hsorted : bs.Pairwise fun a b => a.delay ≤ b.delay)
    {now : ℕ} {waiting : List (Backend × ℕ)} (hwaiting : waiting.Perm (bs.map fun b => (b, t + b.delay)))
    (hnow : ∀ b ∈ bs, now ≤ t + b.delay) (records : List Record) :
    ReflTransGen (Task.Step e) ⟨now, [], waiting, records⟩
      ⟨lastTime now (bs.map (ended t e)), [], [], records ++ bs.map (ended t e)⟩ := by
  induction bs generalizing now waiting records with
  | nil =>
    have hnil : waiting = [] := hwaiting.eq_nil
    subst hnil
    simp [lastTime, ReflTransGen.refl]
  | cons b bs ih =>
    obtain ⟨hfirst, hsorted⟩ := List.pairwise_cons.1 hsorted
    have hmem : (b, t + b.delay) ∈ waiting := hwaiting.mem_iff.2 List.mem_cons_self
    have hlater : now ≤ t + b.delay := hnow b List.mem_cons_self
    have hdue : ∀ w ∈ waiting, t + b.delay ≤ w.2 := by
      intro w hw
      obtain ⟨a, ha, rfl⟩ := List.mem_map.1 (hwaiting.mem_iff.1 hw)
      rcases List.mem_cons.1 ha with rfl | ha
      · exact le_rfl
      · exact Nat.add_le_add_left (hfirst a ha) t
    refine ReflTransGen.head (Task.Step.tick now _ waiting records (List.ne_nil_of_mem hmem) hlater hdue) ?_
    obtain ⟨front, back, rfl⟩ := List.append_of_mem hmem
    refine ReflTransGen.head (Task.Step.finish _ [] front back b _ records le_rfl) ?_
    have hwaiting' : (front ++ back).Perm (bs.map fun b => (b, t + b.delay)) :=
      (List.perm_middle.symm.trans hwaiting).cons_inv
    have hrest := ih hsorted hwaiting' (fun a ha => Nat.add_le_add_left (hfirst a ha) t) (records ++ [ended t e b])
    have htime : lastTime now ((b :: bs).map (ended t e)) = lastTime (t + b.delay) (bs.map (ended t e)) := by
      rw [List.map_cons, lastTime, List.foldl_cons, max_eq_right]
      · rfl
      · exact hlater
    rw [List.append_assoc, List.singleton_append] at hrest
    rw [htime, List.map_cons]
    exact hrest

/-- none of these panics -/
def Calm (bs : List Backend) : Prop := ∀ b ∈ bs, b.ending ≠ .panics

theorem calm_deliver (h : Calm bs) :
    deliver t e bs = (bs.flatMap (opening t e), (byDelay (bs.filter (·.delay ≠ 0))).map (ended t e)) := by
  have hcalm : ∀ b ∈ bs, b.panics = false := by
    intro b hb
    simpa [Backend.panics] using h b hb
  have honce : ∀ b ∈ bs, b.panicsAtOnce = false := by
    intro b hb
    rw [Backend.panicsAtOnce, hcalm b hb, Bool.and_false]
  have hunder : underWay bs = bs.filter (·.delay ≠ 0) := by
    rw [underWay, if_neg]
    simpa using honce
  have hlater : ∀ b ∈ byDelay (bs.filter (·.delay ≠ 0)), b.panics = false := by
    intro b hb
    exact hcalm b (List.mem_filter.1 ((byDelay_perm _).mem_iff.1 hb)).1
  rw [deliver_eq, hunder, upTo_eq_self honce, upTo_eq_self hlater]

/-- **The manager's records** of a delivery to backends that do not panic are those of a task that takes turns. -/
theorem deliver_joined (t : ℕ) (e : Event) (h : Calm bs) :
    ReflTransGen (Task.Step e) ⟨t, bs, [], []⟩
      ⟨lastTime t (deliver t e bs).2, [], [], (deliver t e bs).1 ++ (deliver t e bs).2⟩ := by
  rw [calm_deliver h]
  refine (begin_all t e bs [] []).trans ?_
  refine end_all t e (byDelay_sorted _) ?_ (fun b _ => Nat.le_add_right t b.delay) (bs.flatMap (opening t e))
  exact ((byDelay_perm (bs.filter (·.delay ≠ 0))).map _).symm

/-- **One delivery** to backends that do not panic. -/
theorem deliver_all (t : ℕ) (e : Event) (h : Calm bs) :
    AllNotified t e bs ((deliver t e bs).1 ++ (deliver t e bs).2) ∧ lastTime t (deliver t e bs).2 = t + longest bs :=
  over_notified (deliver_joined t e h)

end

end ServiceMonitor.Notifier
