import Mathlib.Tactic
import ServiceMonitor.Bus.Delivery

/-!
The registry of a bus against what was asked of it.

`Call` is what is done to a bus from outside: a handler is subscribed to one kind or to all of them, and a handle that
was given out is unsubscribed, by whoever holds it and as often as they like. `made` and `ended` are read off the calls
alone. They forget nothing: `made` lists every registration ever made, in order, and `ended` every handle that was ever
unsubscribed.

- `run_books`: behind any calls the registry holds what was made and never ended, in the order in which it was made.
- `registry_exact`: that registry, its counts, and what one more unsubscribing does to it: it takes away the
  registration of its own handle, or nothing at all if that is gone already or the bus is.
-/

namespace ServiceMonitor.Bus

/-- what is done to a bus from outside -/
inductive Call where
  | subscribe (kind : Kind) (handler : Handler)
  | subscribeAll (handler : Handler)
  /-- by the place of the handle among all that were given out -/
  | unsubscribe (n : ℕ)

/-- the `n`-th handle that was given out is unsubscribed; before that it is in nobody's hands -/
def St.release (s : St) (n : ℕ) : St :=
  match s.handles[n]? with
  | some (_, sub) => s.cancel sub.id
  | none => s

def St.call (s : St) : Call → St
  | .subscribe k h => (s.register [k] h).1
  | .subscribeAll h => (s.register Kind.all h).1
  | .unsubscribe n => s.release n

def St.callAll (s : St) (calls : List Call) : St := calls.foldl St.call s

/-! ## What was asked for -/

/-- the registrations of a handler for kinds, with ids from `n` on -/
def registrations (n : ℕ) (handler : Handler) : List Kind → List (Registration Handler)
  | [] => []
  | k :: ks => ⟨n, k, handler⟩ :: registrations (n + 1) handler ks

/-- the registrations that a call makes behind `n` others -/
def Call.makes (n : ℕ) : Call → List (Registration Handler)
  | .subscribe k h => registrations n h [k]
  | .subscribeAll h => registrations n h Kind.all
  | .unsubscribe _ => []

/-- the handles that a call unsubscribes when `n` were given out -/
def Call.ends (n : ℕ) : Call → List ℕ
  | .subscribe _ _ | .subscribeAll _ => []
  | .unsubscribe i => if i < n then [i] else []

/-- every registration that calls make, in order, behind `n` others -/
def made (n : ℕ) : List Call → List (Registration Handler)
  | [] => []
  | c :: cs => c.makes n ++ made (n + (c.makes n).length) cs

/-- every handle that calls unsubscribe when `n` were given out before -/
def ended (n : ℕ) : List Call → List ℕ
  | [] => []
  | c :: cs => c.ends n ++ ended (n + (c.makes n).length) cs

/-- the registrations that are still there -/
def kept (all : List (Registration Handler)) (gone : List ℕ) : List (Registration Handler) :=
  all.filter fun g => g.id ∉ gone

/-- the handle of a registration -/
def handleOf (g : Registration Handler) : Subscription := ⟨g.id, g.kind⟩

theorem registrations_length (n : ℕ) (handler : Handler) (kinds : List Kind) :
    (registrations n handler kinds).length = kinds.length := by
  induction kinds generalizing n with
  | nil => rfl
  | cons k ks ih => rw [registrations, List.length_cons, ih, List.length_cons]

theorem registrations_ids (n : ℕ) (handler : Handler) (kinds : List Kind) :
    (registrations n handler kinds).map (·.id) = List.range' n kinds.length := by
  induction kinds generalizing n with
  | nil => rfl
  | cons k ks ih => rw [registrations, List.map_cons, ih, List.length_cons, List.range'_succ]

theorem subscribeEach_eq (r : Registry Handler) (kinds : List Kind) (handler : Handler) :
    r.subscribeEach kinds handler =
      (⟨r.nextId + kinds.length, r.live ++ registrations r.nextId handler kinds⟩,
        (registrations r.nextId handler kinds).map handleOf) := by
  induction kinds generalizing r with
  | nil => simp [Registry.subscribeEach, registrations]
  | cons k ks ih =>
    simp [Registry.subscribeEach, Registry.subscribe, ih, registrations, handleOf, Nat.add_assoc, Nat.add_comm 1]

/-! ## The registry keeps the books -/

/-- a bus behind registrations of which some have ended -/
structure Books (s : St) (all : List (Registration Handler)) (gone : List ℕ) : Prop where
  registry : s.registry? = some ⟨all.length, kept all gone⟩
  handles : s.handles.map (·.2) = all.map handleOf
  /-- a registration's id is its place -/
  ids : all.map (·.id) = List.range all.length
  past : ∀ i ∈ gone, i < all.length

theorem books_start (mode : Dispatch) : Books (start mode) [] [] := by
  constructor <;> simp [start, Registry.empty, kept]

section

variable {s : St} {m : List (Registration Handler)} {e : List ℕ}

theorem Books.id_getElem? (h : Books s m e) {i : ℕ} {g : Registration Handler} (hg : m[i]? = some g) : g.id = i := by
  have hi : (m.map (·.id))[i]? = some g.id := by rw [List.getElem?_map, hg, Option.map_some]
  rw [h.ids, List.getElem?_eq_some_iff] at hi
  obtain ⟨_, hi⟩ := hi
  rw [← hi, List.getElem_range]

theorem Books.nodup (h : Books s m e) : (m.map (·.id)).Nodup := h.ids ▸ List.nodup_range

/-- the handles that were given out are those of the registrations -/
theorem Books.release_eq (h : Books s m e) (i : ℕ) : s.release i = if i < m.length then s.cancel i else s := by
  have hget : (s.handles[i]?).map (·.2) = m[i]?.map handleOf := by
    rw [← List.getElem?_map, h.handles, List.getElem?_map]
  unfold St.release
  split_ifs with hi
  · have hg := List.getElem?_eq_getElem hi
    rw [hg, Option.map_some, Option.map_eq_some_iff] at hget
    obtain ⟨⟨label, sub⟩, hentry, hsub⟩ := hget
    rw [hentry]
    have hid : sub.id = i := (congrArg Subscription.id hsub).trans (h.id_getElem? hg)
    simp only [hid]
  · rw [List.getElem?_eq_none (Nat.le_of_not_lt hi), Option.map_none, Option.map_eq_none_iff] at hget
    rw [hget]

theorem kept_append (a b : List (Registration Handler)) (e : List ℕ) : kept (a ++ b) e = kept a e ++ kept b e :=
  List.filter_append ..

theorem kept_filter (m : List (Registration Handler)) (e : List ℕ) (i : ℕ) :
    (kept m e).filter (fun g => g.id != i) = kept m (e ++ [i]) := by
  unfold kept
  rw [List.filter_filter]
  refine List.filter_congr fun g _ => ?_
  by_cases hi : g.id = i <;> simp [hi]

theorem Books.register (h : Books s m e) (kinds : List Kind) (handler : Handler) :
    Books (s.register kinds handler).1 (m ++ registrations m.length handler kinds) e := by
  have hreg : (s.register kinds handler).1 =
      { s with
        registry? := some ⟨m.length + kinds.length, kept m e ++ registrations m.length handler kinds⟩
        handles := s.handles ++
          ((registrations m.length handler kinds).map handleOf).map fun sub => (handler.label, sub) } := by
    simp [St.register, h.registry, subscribeEach_eq]
  -- what has ended is older than the new ones
  have hnew : ∀ g ∈ registrations m.length handler kinds, g.id ∉ e := by
    intro g hg hended
    have hmem := List.mem_map_of_mem (f := (·.id)) hg
    rw [registrations_ids, List.mem_range'_1] at hmem
    exact absurd (h.past _ hended) (Nat.not_lt.2 hmem.1)
  rw [hreg]
  constructor
  · have hall : kept (registrations m.length handler kinds) e = registrations m.length handler kinds :=
      List.filter_eq_self.2 fun g hg => decide_eq_true (hnew g hg)
    rw [kept_append, hall, List.length_append, registrations_length]
  · simp [h.handles, Function.comp_def]
  · rw [List.map_append, h.ids, registrations_ids, List.length_append, registrations_length, List.range_eq_range',
      List.range_eq_range', ← List.range'_append_1, Nat.zero_add]
  · intro i hi
    rw [List.length_append]
    exact Nat.lt_add_right _ (h.past i hi)

theorem Books.release (h : Books s m e) (i : ℕ) :
    Books (s.release i) m (e ++ if i < m.length then [i] else []) := by
  rw [h.release_eq]
  split_ifs with hi
  · refine ⟨?_, h.handles, h.ids, fun j hj => ?_⟩
    · simp [St.cancel, h.registry, Registry.unsubscribe, kept_filter]
    · rcases List.mem_append.1 hj with hj | hj
      · exact h.past j hj
      · rwa [List.mem_singleton.1 hj]
  · rwa [List.append_nil]

theorem Books.call (h : Books s m e) (c : Call) :
    Books (s.call c) (m ++ c.makes m.length) (e ++ c.ends m.length) := by
  cases c with
  | subscribe k handler =>
    rw [Call.ends, List.append_nil]
    exact h.register [k] handler
  | subscribeAll handler =>
    rw [Call.ends, List.append_nil]
    exact h.register Kind.all handler
  | unsubscribe i =>
    rw [Call.makes, List.append_nil]
    exact h.release i

/-- **The books are kept.** Behind any calls the registry holds what was made and not ended, in order. -/
theorem run_books (h : Books s m e) (calls : List Call) :
    Books (s.callAll calls) (m ++ made m.length calls) (e ++ ended m.length calls) := by
  induction calls generalizing s m e with
  | nil => simpa [made, ended, St.callAll] using h
  | cons c cs ih =>
    have hstep := ih (h.call c)
    rw [List.length_append, List.append_assoc, List.append_assoc] at hstep
    exact hstep

/-- a word of 64 bits tells the ids apart as long as there are no more of them -/
theorem Books.nodup_words (h : Books s m e) (hfew : m.length < 2 ^ 64) :
    (m.map fun g => UInt64.ofNat g.id).Nodup := by
  have hwords : (m.map fun g => UInt64.ofNat g.id) = (m.map (·.id)).map UInt64.ofNat := by simp
  rw [hwords]
  refine List.Nodup.map_on (fun a ha b hb hab => ?_) h.nodup
  rw [h.ids, List.mem_range] at ha hb
  have hnat := congrArg UInt64.toNat hab
  simpa only [UInt64.toNat_ofNat_of_lt' (ha.trans hfew), UInt64.toNat_ofNat_of_lt' (hb.trans hfew)] using hnat

theorem Books.cancel_eq (h : Books s m e) (n : ℕ) :
    s.cancel n = { s with registry? := some ⟨m.length, (kept m e).filter fun g => g.id != n⟩ } := by
  simp [St.cancel, h.registry, Registry.unsubscribe]

/-- a handle that was unsubscribed before, or that nobody has, does nothing -/
theorem Books.release_gone (h : Books s m e) {n : ℕ} (hn : n ∈ e) : s.release n = s := by
  have hall : (kept m e).filter (fun g => g.id != n) = kept m e := by
    refine List.filter_eq_self.2 fun g hg => ?_
    have hkept : g.id ∉ e := of_decide_eq_true (List.mem_filter.1 hg).2
    rw [bne_iff_ne]
    rintro rfl
    exact hkept hn
  rw [h.release_eq, if_pos (h.past n hn), h.cancel_eq, hall, ← h.registry]

/-- any other handle takes away its own registration -/
theorem Books.release_removes (h : Books s m e) {n : ℕ} (hn : n < m.length) (hended : n ∉ e) :
    ∃ before g after, m[n]? = some g ∧ kept m e = before ++ g :: after ∧
      s.release n = { s with registry? := some ⟨m.length, before ++ after⟩ } := by
  have hg := List.getElem?_eq_getElem hn
  have hid : m[n].id = n := h.id_getElem? hg
  have hmem : m[n] ∈ kept m e := List.mem_filter.2 ⟨List.getElem_mem hn, by simpa [hid] using hended⟩
  obtain ⟨before, after, hsplit⟩ := List.append_of_mem hmem
  -- the registration stands there once
  have hnodup : ((before ++ m[n] :: after).map (·.id)).Nodup := hsplit ▸ h.nodup.sublist (List.filter_sublist.map _)
  rw [List.map_append, List.map_cons, hid, List.nodup_middle, List.nodup_cons, ← List.map_append] at hnodup
  have hothers : ∀ g ∈ before ++ after, (g.id != n) = true := fun g hg =>
    bne_iff_ne.2 fun hgid => hnodup.1 (hgid ▸ List.mem_map_of_mem hg)
  have hself : ¬(m[n].id != n) = true := by rw [hid, bne_self_eq_false]; exact Bool.false_ne_true
  have hrest : (before ++ m[n] :: after).filter (fun g => g.id != n) = before ++ after := by
    rw [List.filter_append, List.filter_cons, if_neg hself, ← List.filter_append, List.filter_eq_self.2 hothers]
  refine ⟨before, m[n], after, hg, hsplit, ?_⟩
  rw [h.release_eq, if_pos hn, h.cancel_eq, hsplit, hrest]

end

theorem cancel_comm (s : St) (i j : ℕ) : (s.cancel i).cancel j = (s.cancel j).cancel i := by
  cases hr : s.registry? with
  | none => simp [St.cancel, hr]
  | some r =>
    simp only [St.cancel, hr, Option.map_some, Registry.unsubscribe, List.filter_filter]
    simp only [Bool.and_comm]

theorem release_comm (s : St) (i j : ℕ) : (s.release i).release j = (s.release j).release i := by
  have hhandles : ∀ id, (s.cancel id).handles = s.handles := fun _ => rfl
  cases hi : s.handles[i]? <;> cases hj : s.handles[j]? <;> simp [St.release, hi, hj, hhandles, cancel_comm]

theorem release_drop (s : St) (n : ℕ) : s.drop.release n = s.drop := by
  unfold St.release
  split <;> rfl

/-- **The registry is what was asked of it.** Behind any calls, let `all` be every registration that they made and
`gone` the handles that they unsubscribed.
- The registry holds those of `all` that are not in `gone`, in the order in which they were made.
- A kind has as many subscribers as there are registrations of that kind among them.
- One handle was given out for each registration; no two have the same id, nor, with fewer than 2^64 of them, the same
  word of 64 bits.
- Unsubscribing a handle that is in `gone` does nothing; any other one takes away the registration made with it, and
  nothing else changes.
- Two handles may be unsubscribed in either order.
- Once the bus is dropped, unsubscribing any handles changes nothing. -/
theorem registry_exact (mode : Dispatch) (calls : List Call) :
    let s := (start mode).callAll calls
    let all := made 0 calls
    let gone := ended 0 calls
    s.registry?.map (·.live) = some (kept all gone) ∧
    (∀ k, s.registry?.map (·.count k) = some ((kept all gone).countP fun g => g.kind = k)) ∧
    (s.handles.map (·.2) = all.map handleOf ∧ (all.map (·.id)).Nodup ∧
      (all.length < 2 ^ 64 → (all.map fun g => UInt64.ofNat g.id).Nodup)) ∧
    (∀ n ∈ gone, s.release n = s) ∧
    (∀ n < all.length, n ∉ gone → ∃ before g after, all[n]? = some g ∧ kept all gone = before ++ g :: after ∧
      s.release n = { s with registry? := some ⟨all.length, before ++ after⟩ }) ∧
    (∀ m n, (s.release m).release n = (s.release n).release m) ∧
    ∀ later : List ℕ, later.foldl St.release s.drop = s.drop := by
  intro s all gone
  have h : Books s all gone := by simpa using run_books (books_start mode) calls
  refine ⟨by rw [h.registry, Option.map_some], fun k => ?_, ⟨h.handles, h.nodup, h.nodup_words⟩,
    fun n hn => h.release_gone hn, fun n hn hended => h.release_removes hn hended, release_comm s, fun later => ?_⟩
  · rw [h.registry, Option.map_some, Registry.count, Registry.ofKind, List.countP_eq_length_filter]
  · induction later with
    | nil => rfl
    | cons n later ih => rw [List.foldl_cons, release_drop, ih]

def noting : Handler := ⟨"noting", 0, fun _ _ => [.note]⟩

/-- a handler with four registrations; one of them is unsubscribed twice, and one before it is there -/
def sharedCalls : List Call :=
  [.unsubscribe 3, .subscribeAll noting, .unsubscribe 1, .subscribe .hostUnreachable noting, .unsubscribe 1]

theorem registry_exact_shared :
    let s := (start .async).callAll sharedCalls
    (made 0 sharedCalls).length < 2 ^ 64 ∧ 1 ∈ ended 0 sharedCalls ∧ 3 < (made 0 sharedCalls).length ∧
    3 ∉ ended 0 sharedCalls ∧ (s.registry?.map (·.live)).map (·.map (·.id)) = some [0, 2, 3] ∧
    s.registry?.map (·.count .hostUnreachable) = some 1 ∧
    ((made 0 sharedCalls).map fun g => UInt64.ofNat g.id).Nodup ∧ s.release 1 = s ∧
    (∃ before g after, (made 0 sharedCalls)[3]? = some g ∧
      s.release 3 = { s with registry? := some ⟨4, before ++ after⟩ }) ∧
    [3, 0].foldl St.release s.drop = s.drop := by
  intro s
  obtain ⟨hlive, hcount, ⟨-, -, hwords⟩, hgone, hremoves, -, hdropped⟩ := registry_exact .async sharedCalls
  have hfew : (made 0 sharedCalls).length < 2 ^ 64 := by decide
  have hone : 1 ∈ ended 0 sharedCalls := by decide
  have hthree : 3 < (made 0 sharedCalls).length := by decide
  have hthree' : 3 ∉ ended 0 sharedCalls := by decide
  obtain ⟨before, g, after, hg, -, hrest⟩ := hremoves 3 hthree hthree'
  have hids : (kept (made 0 sharedCalls) (ended 0 sharedCalls)).map (·.id) = [0, 2, 3] := by decide
  exact ⟨hfew, hone, hthree, hthree', by rw [hlive, Option.map_some, hids],
    (hcount .hostUnreachable).trans (by decide), hwords hfew, hgone 1 hone, ⟨before, g, after, hg, hrest⟩,
    hdropped [3, 0]⟩

end ServiceMonitor.Bus
