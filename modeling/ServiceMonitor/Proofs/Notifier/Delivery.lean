import Mathlib.Data.List.Induction
import Mathlib.Data.List.Sort
import Mathlib.Data.List.TakeWhile
import ServiceMonitor.Notifier.Manager

/-!
The delivery of one event to the backends.

The backends notified of an event share one task, and a panic is caught around the task as a whole. So it is the first panic
that counts: the backends begin as they were registered, up to one that panics at once, and end by their delays, those of one
delay as they were registered, up to one that panics (`Notified`). Errors that are returned do not matter.

- `byDelay_split`: who comes before a backend in the order of the delays.
- `deliver_notified`: the records of a delivery.
-/

namespace ServiceMonitor.Notifier

/-! ## Lists up to an element -/

/-- a list up to the first element that satisfies `p`, and with it -/
def upTo {α : Type} (p : α → Bool) : List α → List α
  | [] => []
  | a :: as => if p a then [a] else a :: upTo p as

section

variable {α : Type} {p q : α → Bool} {as bs : List α}

theorem upTo_append (h : ∀ a ∈ as, p a = false) : upTo p (as ++ bs) = as ++ upTo p bs := by
  induction as with
  | nil => rfl
  | cons a as ih =>
    rw [List.cons_append, upTo, h a List.mem_cons_self, ih fun b hb => h b (List.mem_cons_of_mem a hb)]
    rfl

theorem upTo_eq_self (h : ∀ a ∈ as, p a = false) : upTo p as = as := by
  have hnil : upTo p (as ++ []) = as ++ upTo p [] := upTo_append h
  rwa [List.append_nil, upTo, List.append_nil] at hnil

theorem upTo_append_of_any (h : as.any p = true) : upTo p (as ++ bs) = upTo p as := by
  induction as with
  | nil => cases h
  | cons a as ih =>
    rw [List.cons_append, upTo, upTo]
    split_ifs with ha
    · rfl
    · rw [List.any_cons, Bool.or_eq_true] at h
      rw [ih (h.resolve_left ha)]

theorem upTo_filter : upTo p (as.filter q) = (upTo (fun a => q a && p a) as).filter q := by
  induction as with
  | nil => rfl
  | cons a as ih =>
    by_cases hq : q a = true
    · by_cases hp : p a = true
      · simp [upTo, hq, hp]
      · simp [upTo, hq, hp, ih]
    · simp [upTo, hq, ih]

theorem upTo_sublist (p : α → Bool) (as : List α) : (upTo p as).Sublist as := by
  induction as with
  | nil => exact List.Sublist.slnil
  | cons a as ih =>
    rw [upTo]
    split_ifs
    · exact (List.nil_sublist as).cons_cons a
    · exact ih.cons_cons a

/-- only what stands before an element that does not satisfy `q` matters to `takeWhile` -/
theorem takeWhile_append_of_neg (as bs : List α) {a : α} (h : q a = false) :
    (as ++ a :: bs).takeWhile q = as.takeWhile q ∧ (as ++ a :: bs).dropWhile q = as.dropWhile q ++ a :: bs := by
  induction as with
  | nil => simp [h]
  | cons b as ih =>
    cases hb : q b with
    | true => simpa [hb] using ih
    | false => simp [hb]

end

/-! ## The order of the delays -/

theorem delay_trans (a b c : Backend) (hab : decide (a.delay ≤ b.delay) = true) (hbc : decide (b.delay ≤ c.delay) = true) :
    decide (a.delay ≤ c.delay) = true := by
  rw [decide_eq_true_eq] at *
  exact le_trans hab hbc

theorem delay_total (a b : Backend) : (decide (a.delay ≤ b.delay) || decide (b.delay ≤ a.delay)) = true := by
  rw [Bool.or_eq_true, decide_eq_true_eq, decide_eq_true_eq]
  exact le_total a.delay b.delay

theorem byDelay_perm (bs : List Backend) : (byDelay bs).Perm bs := List.mergeSort_perm bs _

theorem byDelay_sorted (bs : List Backend) : (byDelay bs).Pairwise fun a b => a.delay ≤ b.delay := by
  have h := List.pairwise_mergeSort delay_trans delay_total bs
  simpa only [byDelay, decide_eq_true_eq] using h

/-- a backend registered before others comes before those of its delay -/
theorem byDelay_cons (b : Backend) (bs : List Backend) :
    byDelay (b :: bs) =
      (byDelay bs).takeWhile (·.delay < b.delay) ++ b :: (byDelay bs).dropWhile (·.delay < b.delay) := by
  obtain ⟨front, back, hcons, hbs, hfront⟩ := List.mergeSort_cons delay_trans delay_total b bs
  have hless : ∀ a ∈ front, decide (a.delay < b.delay) = true := by
    intro a ha
    simpa using hfront a ha
  have hsorted := byDelay_sorted (b :: bs)
  rw [byDelay, hcons] at hsorted
  have hback : back.takeWhile (·.delay < b.delay) = [] ∧ back.dropWhile (·.delay < b.delay) = back := by
    cases back with
    | nil => exact ⟨rfl, rfl⟩
    | cons a back =>
      have hle : b.delay ≤ a.delay :=
        List.rel_of_pairwise_cons (List.pairwise_append.1 hsorted).2.1 List.mem_cons_self
      simp [hle]
  rw [byDelay, byDelay, hcons, hbs, List.takeWhile_append_of_pos hless, List.dropWhile_append_of_pos hless, hback.1,
    hback.2, List.append_nil]

/-- backends without delay come first, as they were registered -/
theorem byDelay_eq (bs : List Backend) :
    byDelay bs = bs.filter (·.delay = 0) ++ byDelay (bs.filter (·.delay ≠ 0)) := by
  induction bs with
  | nil => simp [byDelay]
  | cons b bs ih =>
    by_cases hb : b.delay = 0
    · have hnone : ∀ as : List Backend, as.takeWhile (·.delay < b.delay) = [] ∧ as.dropWhile (·.delay < b.delay) = as := by
        rintro (- | ⟨a, as⟩) <;> simp [hb]
      rw [byDelay_cons, (hnone _).1, (hnone _).2, List.filter_cons_of_pos (by simpa using hb),
        List.filter_cons_of_neg (by simpa using hb), ih]
      rfl
    · have hfirst : ∀ a ∈ bs.filter (·.delay = 0), decide (a.delay < b.delay) = true := by
        intro a ha
        have hzero : a.delay = 0 := by simpa using (List.mem_filter.1 ha).2
        rw [decide_eq_true_eq, hzero]
        exact Nat.pos_of_ne_zero hb
      rw [byDelay_cons, List.filter_cons_of_neg (by simpa using hb), List.filter_cons_of_pos (by simpa using hb),
        byDelay_cons, ih, List.takeWhile_append_of_pos hfirst, List.dropWhile_append_of_pos hfirst, List.append_assoc]

/-- before a backend come those with a shorter delay, and those with its delay that were registered before it -/
theorem byDelay_split (bs bs' : List Backend) (b : Backend) :
    ∃ front back, byDelay (bs ++ b :: bs') = front ++ b :: back ∧
      front.Perm (bs.filter (·.delay ≤ b.delay) ++ bs'.filter (·.delay < b.delay)) := by
  induction bs with
  | nil =>
    refine ⟨_, _, byDelay_cons b bs', ?_⟩
    have hsorted := byDelay_sorted (b :: bs')
    rw [byDelay_cons] at hsorted
    have hback : ∀ a ∈ (byDelay bs').dropWhile (·.delay < b.delay), ¬decide (a.delay < b.delay) = true := by
      intro a ha
      simpa using List.rel_of_pairwise_cons (List.pairwise_append.1 hsorted).2.1 ha
    have hpassed : ∀ a ∈ (byDelay bs').takeWhile (·.delay < b.delay), decide (a.delay < b.delay) = true := by
      intro a ha
      have h := List.mem_takeWhile_imp ha
      exact h
    have hfront := (byDelay_perm bs').filter (·.delay < b.delay)
    rw [← List.takeWhile_append_dropWhile (p := (·.delay < b.delay)) (l := byDelay bs'), List.filter_append,
      List.filter_eq_nil_iff.2 hback, List.append_nil,
      List.filter_eq_self.2 hpassed] at hfront
    exact hfront
  | cons a bs ih =>
    obtain ⟨front, back, hsplit, hperm⟩ := ih
    rw [List.cons_append, byDelay_cons, hsplit]
    by_cases hab : a.delay ≤ b.delay
    · have hstop : decide (b.delay < a.delay) = false := by simpa using hab
      obtain ⟨htake, hdrop⟩ := takeWhile_append_of_neg front back (q := (·.delay < a.delay)) hstop
      rw [htake, hdrop]
      refine ⟨front.takeWhile (·.delay < a.delay) ++ a :: front.dropWhile (·.delay < a.delay), back, by simp, ?_⟩
      rw [List.filter_cons_of_pos (by simpa using hab)]
      refine List.perm_middle.trans ?_
      rw [List.takeWhile_append_dropWhile]
      exact hperm.cons a
    · rw [not_le] at hab
      have hfront : ∀ x ∈ front ++ [b], decide (x.delay < a.delay) = true := by
        intro x hx
        rw [List.mem_append, List.mem_singleton, hperm.mem_iff, List.mem_append, List.mem_filter, List.mem_filter] at hx
        simp only [decide_eq_true_eq] at hx ⊢
        rcases hx with (⟨-, hx⟩ | ⟨-, hx⟩) | rfl
        · exact lt_of_le_of_lt hx hab
        · exact lt_trans hx hab
        · exact hab
      rw [List.append_cons front b back, List.takeWhile_append_of_pos hfront, List.dropWhile_append_of_pos hfront]
      refine ⟨front, back.takeWhile (·.delay < a.delay) ++ a :: back.dropWhile (·.delay < a.delay), by simp, ?_⟩
      rw [List.filter_cons_of_neg (by simpa using hab)]
      exact hperm

/-! ## One delivery -/

def Backend.panics (b : Backend) : Bool := b.ending = .panics

def Backend.panicsAtOnce (b : Backend) : Bool := b.delay = 0 && b.panics

/-- the record of a backend that begins with an event -/
def began (t : ℕ) (e : Event) (b : Backend) : Record := ⟨b, .notifyBegin e, t⟩

/-- the record of a backend that ends with an event that it began with at a time -/
def ended (t : ℕ) (e : Event) (b : Backend) : Record := ⟨b, .notifyEnd e, t + b.delay⟩

def Moment.isBegin : Moment → Bool
  | .notifyBegin _ => true
  | _ => false

def Moment.isEnd : Moment → Bool
  | .notifyEnd _ => true
  | _ => false

/-- the records of an event that is handed to backends at a time: they begin as they were registered, up to one that panics at
once, and end after their delays, up to one that panics -/
structure Notified (t : ℕ) (e : Event) (bs : List Backend) (rs : List Record) : Prop where
  begins : rs.filter (·.moment.isBegin) = (upTo Backend.panicsAtOnce bs).map (began t e)
  ends : rs.filter (·.moment.isEnd) = (upTo Backend.panics (byDelay bs)).map (ended t e)
  nothingElse : ∀ r ∈ rs, r.moment.isBegin = true ∨ r.moment.isEnd = true

/-- what a backend does as it begins -/
def opening (t : ℕ) (e : Event) (b : Backend) : List Record := began t e b :: if b.delay = 0 then [ended t e b] else []

/-- the backends that are under way when all have begun -/
def underWay (bs : List Backend) : List Backend := if bs.any Backend.panicsAtOnce then [] else bs.filter (·.delay ≠ 0)

variable (t : ℕ) (e : Event)

theorem beginAll_fst (bs : List Backend) : (beginAll t e bs).1 = (upTo Backend.panicsAtOnce bs).flatMap (opening t e) := by
  induction bs with
  | nil => rfl
  | cons b bs ih =>
    by_cases hb : b.delay = 0
    · by_cases hp : b.ending = .panics
      · simp [beginAll, upTo, opening, began, ended, Backend.panicsAtOnce, Backend.panics, hb, hp]
      · simp [beginAll, upTo, opening, began, ended, Backend.panicsAtOnce, Backend.panics, hb, hp, ih]
    · simp [beginAll, upTo, opening, began, Backend.panicsAtOnce, hb, ih]

theorem beginAll_snd (bs : List Backend) : (beginAll t e bs).2.getD [] = underWay bs := by
  have h : (beginAll t e bs).2 = if bs.any Backend.panicsAtOnce then none else some (bs.filter (·.delay ≠ 0)) := by
    induction bs with
    | nil => rfl
    | cons b bs ih =>
      by_cases hb : b.delay = 0
      · by_cases hp : b.ending = .panics
        · simp [beginAll, Backend.panicsAtOnce, Backend.panics, hb, hp]
        · simp [beginAll, Backend.panicsAtOnce, Backend.panics, hb, hp, ih]
      · have hlater : b.panicsAtOnce = false := by simp [Backend.panicsAtOnce, hb]
        simp only [beginAll, hb, if_false, ih]
        rw [List.any_cons, hlater, Bool.false_or, List.filter_cons_of_pos (by simpa using hb)]
        split_ifs <;> rfl
  rw [h, underWay]
  split_ifs <;> rfl

theorem endAll_eq (bs : List Backend) : endAll t e bs = (upTo Backend.panics bs).map (ended t e) := by
  induction bs with
  | nil => rfl
  | cons b bs ih =>
    by_cases hp : b.ending = .panics
    · simp [endAll, upTo, ended, Backend.panics, hp]
    · simp [endAll, upTo, ended, Backend.panics, hp, ih]

theorem deliver_eq (bs : List Backend) :
    deliver t e bs = ((upTo Backend.panicsAtOnce bs).flatMap (opening t e),
      (upTo Backend.panics (byDelay (underWay bs))).map (ended t e)) := by
  rw [← beginAll_fst, ← endAll_eq, ← beginAll_snd]
  rfl

/-- those that end at once and those under way end in the order of their delays -/
theorem upTo_byDelay (bs : List Backend) :
    upTo Backend.panics (byDelay bs) =
      (upTo Backend.panicsAtOnce bs).filter (·.delay = 0) ++ upTo Backend.panics (byDelay (underWay bs)) := by
  have hzeros : upTo Backend.panics (bs.filter (·.delay = 0)) = (upTo Backend.panicsAtOnce bs).filter (·.delay = 0) :=
    upTo_filter
  rw [byDelay_eq, underWay, ← hzeros]
  split_ifs with hany
  · have hpanics : (bs.filter (·.delay = 0)).any Backend.panics = true := by
      rw [List.any_filter]
      exact hany
    rw [upTo_append_of_any hpanics]
    simp [byDelay, upTo]
  · have hnone : ∀ b ∈ bs.filter (·.delay = 0), b.panics = false := by
      intro b hb
      obtain ⟨hmem, hzero⟩ := List.mem_filter.1 hb
      rw [List.any_eq_true, not_exists] at hany
      simpa [Backend.panicsAtOnce, hmem, of_decide_eq_true hzero] using hany b
    rw [upTo_append hnone, upTo_eq_self hnone]

theorem opening_begins (bs : List Backend) :
    (bs.flatMap (opening t e)).filter (·.moment.isBegin) = bs.map (began t e) := by
  have hone : ∀ b, (opening t e b).filter (·.moment.isBegin) = [began t e b] := by
    intro b
    rw [opening]
    split_ifs <;> rfl
  simp only [List.filter_flatMap, hone]
  exact List.map_eq_flatMap.symm

theorem opening_ends (bs : List Backend) :
    (bs.flatMap (opening t e)).filter (·.moment.isEnd) = (bs.filter (·.delay = 0)).map (ended t e) := by
  induction bs with
  | nil => rfl
  | cons b bs ih =>
    rw [List.flatMap_cons, List.filter_append, ih]
    by_cases hb : b.delay = 0
    · simp [opening, began, ended, Moment.isEnd, hb]
    · simp [opening, began, Moment.isEnd, hb]

theorem opening_moment {b : Backend} {r : Record} (h : r ∈ opening t e b) :
    r.moment.isBegin = true ∨ r.moment.isEnd = true := by
  rw [opening, List.mem_cons] at h
  rcases h with rfl | h
  · exact Or.inl rfl
  · split_ifs at h
    · rw [List.mem_singleton.1 h]
      exact Or.inr rfl
    · cases h

/-- **One delivery.** The records of an event handed to backends. -/
theorem deliver_notified (bs : List Backend) : Notified t e bs ((deliver t e bs).1 ++ (deliver t e bs).2) := by
  have hends : ∀ as : List Backend, (as.map (ended t e)).filter (·.moment.isBegin) = [] ∧
      (as.map (ended t e)).filter (·.moment.isEnd) = as.map (ended t e) := by
    intro as
    simp [ended, Moment.isBegin, Moment.isEnd]
  rw [deliver_eq]
  refine ⟨?_, ?_, fun r hr => ?_⟩
  · rw [List.filter_append, (hends _).1, List.append_nil, opening_begins]
  · rw [List.filter_append, (hends _).2, upTo_byDelay bs, List.map_append, opening_ends]
  · rcases List.mem_append.1 hr with hr | hr
    · obtain ⟨b, -, hb⟩ := List.mem_flatMap.1 hr
      exact opening_moment t e hb
    · obtain ⟨b, -, rfl⟩ := List.mem_map.1 hr
      exact Or.inr rfl

/-- what follows a delivery is the ends of backends that do not end at once -/
theorem deliver_later {bs : List Backend} {r : Record} (h : r ∈ (deliver t e bs).2) : ∃ b ∈ bs, b.delay ≠ 0 ∧ r = ended t e b := by
  rw [deliver_eq] at h
  obtain ⟨b, hb, rfl⟩ := List.mem_map.1 h
  have hunder : b ∈ underWay bs := (byDelay_perm _).mem_iff.1 ((upTo_sublist _ _).subset hb)
  rw [underWay] at hunder
  split_ifs at hunder
  · cases hunder
  · obtain ⟨hmem, hdelay⟩ := List.mem_filter.1 hunder
    exact ⟨b, hmem, by simpa using hdelay, rfl⟩

/-- what follows a delivery is over when every backend has had its delay -/
theorem deliver_due {bs : List Backend} {until_ : ℕ} (h : ∀ b ∈ bs, t + b.delay ≤ until_) :
    ∀ r ∈ (deliver t e bs).2, r.time ≤ until_ := by
  intro r hr
  obtain ⟨b, hb, -, rfl⟩ := deliver_later t e hr
  exact h b hb

end ServiceMonitor.Notifier
