import ServiceMonitor.Proofs.Hub.Members

/-!
Broadcasting entry by entry.

The hub goes through its map twice: first it hands the text to every entry, in whatever order the map has, and notes those
that would not take it; then it takes the noted ones off the map, one by one. `St.broadcastIn` is this, with the order as a
parameter, and `St.broadcast` offers the text to all clients at once. Both are the same (`broadcastIn_eq`): behind some
entries, those among them that take the text have it, and the others are noted (`foldl_visit`).

- `foldl_visit`, `foldl_unregister`: the two loops.
- `run_keys`: in every run the clients have different numbers, so the map is one.
- `broadcast_exact`: what a broadcast does, to every client and to the hub, in any order.
-/

namespace ServiceMonitor.Hub

/-! ## The two loops -/

/-- what comes of a text that is handed to a queue -/
inductive Handing where
  | delivered
  | full
  | closed
  deriving DecidableEq, Repr

/-- a queue takes a text if its receiver is there and there is room -/
def Client.handing (capacity : ℕ) (c : Client) : Handing :=
  if c.isOpen then (if c.queue.length < capacity then .delivered else .full) else .closed

def Client.push (text : String) (c : Client) : Client := { c with queue := c.queue ++ [text] }

/-- the client is the map's entry for this number -/
def Client.isEntry (id : ℕ) (c : Client) : Bool := c.registered && c.id == id

/-- the map's entry for a number -/
def clientOf? (clients : List Client) (id : ℕ) : Option Client := clients.find? (·.isEntry id)

/-- the numbers on the map -/
def St.keys (s : St) : List ℕ := (s.clients.filter (·.registered)).map (·.id)

/-- how far the first loop has come: the clients, how many have taken the text, and who has not -/
structure Round where
  clients : List Client
  delivered : ℕ
  lost : List ℕ
  deriving DecidableEq, Repr

/-- the text is handed to one entry -/
def Round.visit (capacity : ℕ) (text : String) (r : Round) (id : ℕ) : Round :=
  match (clientOf? r.clients id).map (Client.handing capacity) with
  | some .delivered =>
    { r with
      clients := r.clients.map fun c => if c.isEntry id then c.push text else c
      delivered := r.delivered + 1 }
  | some .full | some .closed => { r with lost := r.lost ++ [id] }
  | none => r

/-- an entry is taken off the map, and its tasks are told to end -/
def unregister (clients : List Client) (id : ℕ) : List Client :=
  clients.map fun c => if c.isEntry id then c.drop else c

/-- an event is broadcast over the map in a given order: how many have taken it, and the hub behind it -/
def St.broadcastIn (order : List ℕ) (s : St) (e : Event) : ℕ × St :=
  let text := (WireMessage.ofEvent e).text
  let r := order.foldl (Round.visit s.limits.capacity text) ⟨s.clients, 0, []⟩
  (r.delivered, { s with clients := r.lost.foldl unregister r.clients, broadcasts := s.broadcasts ++ [text] })

/-! ## Entries -/

section

variable {cs : List Client} {c : Client} {id : ℕ} {capacity : ℕ}

theorem isEntry_iff : c.isEntry id = true ↔ c.registered = true ∧ c.id = id := by
  simp [Client.isEntry]

theorem handing_of_accepts (h : c.accepts capacity = true) : c.handing capacity = .delivered := by
  simp only [Client.accepts, Bool.and_eq_true, decide_eq_true_eq] at h
  rw [Client.handing, if_pos h.1.2, if_pos h.2]

theorem handing_of_not_accepts (hr : c.registered = true) (h : c.accepts capacity = false) :
    c.handing capacity = .full ∨ c.handing capacity = .closed := by
  unfold Client.handing
  split_ifs with hopen hroom
  · simp [Client.accepts, hr, hopen, hroom] at h
  · exact Or.inl rfl
  · exact Or.inr rfl

variable (hkeys : ((cs.filter (·.registered)).map (·.id)).Nodup)

include hkeys

/-- a number has one entry -/
theorem entry_unique {c' : Client} (hc : c ∈ cs) (hc' : c' ∈ cs) (h : c.isEntry id = true) (h' : c'.isEntry id = true) :
    c = c' := by
  obtain ⟨hr, hid⟩ := isEntry_iff.1 h
  obtain ⟨hr', hid'⟩ := isEntry_iff.1 h'
  exact List.inj_on_of_nodup_map hkeys (List.mem_filter.2 ⟨hc, hr⟩) (List.mem_filter.2 ⟨hc', hr'⟩) (hid.trans hid'.symm)

theorem clientOf_eq (hc : c ∈ cs) (h : c.isEntry id = true) : clientOf? cs id = some c := by
  cases hfind : clientOf? cs id with
  | none => exact absurd h (List.find?_eq_none.1 hfind c hc)
  | some c' =>
    rw [entry_unique hkeys hc (List.mem_of_find?_eq_some hfind) h (List.find?_some hfind)]

end

/-! ## The first loop -/

/-- the entry of a number takes the text -/
def takes (capacity : ℕ) (cs : List Client) (id : ℕ) : Bool := (clientOf? cs id).any (·.accepts capacity)

/-- the text is handed to a client if its number is among those visited -/
def Client.reached (capacity : ℕ) (text : String) (visited : List ℕ) (c : Client) : Client :=
  if c.accepts capacity && visited.contains c.id then c.push text else c

section

variable {capacity : ℕ} {text : String} {cs : List Client} {visited : List ℕ} {id : ℕ}

theorem isEntry_reached (c : Client) : (c.reached capacity text visited).isEntry id = c.isEntry id := by
  unfold Client.reached
  split_ifs <;> rfl

theorem reached_of_notMem {c : Client} (h : c.id ∉ visited) : c.reached capacity text visited = c := by
  rw [Client.reached, if_neg]
  simp [h]

/-- visiting one number more is nothing to the clients of other numbers -/
theorem reached_snoc_ne {c : Client} (h : c.isEntry id = false) :
    c.reached capacity text (visited ++ [id]) = c.reached capacity text visited := by
  by_cases hr : c.registered = true
  · have hne : c.id ≠ id := fun heq => by simp [isEntry_iff.2 ⟨hr, heq⟩] at h
    simp [Client.reached, hne]
  · simp [Client.reached, Client.accepts, hr]

variable (hkeys : ((cs.filter (·.registered)).map (·.id)).Nodup)

include hkeys

/-- **One entry.** It has the text or is noted. -/
theorem visit_reached (hnew : id ∉ visited) (hentry : ∃ c ∈ cs, c.isEntry id = true) (n : ℕ) (lost : List ℕ) :
    Round.visit capacity text ⟨cs.map (·.reached capacity text visited), n, lost⟩ id =
      ⟨cs.map (·.reached capacity text (visited ++ [id])), n + [id].countP (takes capacity cs),
        lost ++ [id].filter fun id => !takes capacity cs id⟩ := by
  obtain ⟨c, hc, hid⟩ := hentry
  obtain ⟨hr, rfl⟩ := isEntry_iff.1 hid
  have hfind : clientOf? cs c.id = some c := clientOf_eq hkeys hc hid
  have hfind' : clientOf? (cs.map (·.reached capacity text visited)) c.id = some c := by
    have hsame : (Client.isEntry c.id ∘ Client.reached capacity text visited) = Client.isEntry c.id :=
      funext isEntry_reached
    rw [clientOf?, List.find?_map, hsame, ← clientOf?, hfind, Option.map_some, reached_of_notMem hnew]
  have htakes : takes capacity cs c.id = c.accepts capacity := by rw [takes, hfind, Option.any_some]
  -- the other clients are left as they are
  have hmap {f : Client → Client} (hf : f c = c.reached capacity text (visited ++ [c.id]))
      (hother : ∀ x ∈ cs, x.isEntry c.id = false → f x = x.reached capacity text visited) :
      cs.map f = cs.map (·.reached capacity text (visited ++ [c.id])) := by
    refine List.map_congr_left fun x hx => ?_
    cases hx' : x.isEntry c.id with
    | true =>
      obtain rfl := entry_unique hkeys hc hx hid hx'
      exact hf
    | false => rw [hother x hx hx', reached_snoc_ne hx']
  unfold Round.visit
  rw [hfind', Option.map_some]
  cases haccepts : c.accepts capacity with
  | true =>
    rw [handing_of_accepts haccepts]
    simp only [List.map_map, List.countP_singleton, List.filter_singleton, htakes, haccepts, if_true, Bool.not_true,
      cond_false, List.append_nil, Round.mk.injEq, and_true]
    refine hmap ?_ fun x _ hx => ?_
    · simp only [Function.comp_apply, reached_of_notMem hnew, hid, if_true]
      simp [Client.reached, haccepts]
    · simp [isEntry_reached, hx]
  | false =>
    have hleft : cs.map (·.reached capacity text visited) = cs.map (·.reached capacity text (visited ++ [c.id])) :=
      hmap (by simp [Client.reached, haccepts]) fun _ _ _ => rfl
    rcases handing_of_not_accepts hr haccepts with h | h <;> rw [h] <;>
      simp [htakes, haccepts, hleft]

/-- **The first loop**, over any entries in any order. -/
theorem foldl_visit {order : List ℕ} (hnodup : order.Nodup) (hentries : ∀ id ∈ order, ∃ c ∈ cs, c.isEntry id = true) :
    order.foldl (Round.visit capacity text) ⟨cs, 0, []⟩ =
      ⟨cs.map (·.reached capacity text order), order.countP (takes capacity cs),
        order.filter fun id => !takes capacity cs id⟩ := by
  induction order using List.reverseRecOn with
  | nil => simp [Client.reached]
  | append_singleton order id ih =>
    obtain ⟨hfront, -, hnew⟩ := List.nodup_append.1 hnodup
    have hid : id ∉ order := fun hmem => hnew id hmem id (List.mem_singleton_self id) rfl
    rw [List.foldl_append, ih hfront fun id' h => hentries id' (List.mem_append_left _ h), List.foldl_cons,
      List.foldl_nil, visit_reached hkeys hid (hentries id (by simp)), List.countP_append, List.filter_append]

end

/-! ## The second loop -/

/-- **The second loop** takes off the map who is noted and on it. -/
theorem foldl_unregister (lost : List ℕ) (cs : List Client) :
    lost.foldl unregister cs = cs.map fun c => if c.registered && lost.contains c.id then c.drop else c := by
  induction lost generalizing cs with
  | nil => simp
  | cons id lost ih =>
    rw [List.foldl_cons, ih, unregister, List.map_map]
    refine List.map_congr_left fun c _ => ?_
    by_cases hentry : c.isEntry id = true
    · obtain ⟨hr, hid⟩ := isEntry_iff.1 hentry
      simp [hentry, drop_registered, hr, hid]
    · have hne : c.registered = true → c.id ≠ id := fun hr heq => hentry (isEntry_iff.2 ⟨hr, heq⟩)
      cases hr : c.registered with
      | true => simp [hentry, hr, hne hr]
      | false => simp [hentry, hr]

/-! ## Both loops -/

/-- in every run the numbers on the map are different -/
theorem run_keys (limits : Limits) (acts : List Act) : (run (start limits) acts).keys.Nodup := by
  have horderly := run_orderly (start_orderly limits) acts
  have hids : ((run (start limits) acts).clients.map (·.id)).Nodup := by
    rw [horderly.ids]
    exact List.nodup_range
  exact hids.sublist (List.filter_sublist.map _)

section

variable {s : St} {e : Event} {order : List ℕ}

/-- **The order does not matter**: going through the map is offering to all at once. -/
theorem broadcastIn_eq (hkeys : s.keys.Nodup) (horder : order.Perm s.keys) :
    s.broadcastIn order e = (s.accepting, s.broadcast e) := by
  have hentry {c : Client} (hc : c ∈ s.clients) (hr : c.registered = true) : clientOf? s.clients c.id = some c :=
    clientOf_eq hkeys hc (isEntry_iff.2 ⟨hr, rfl⟩)
  have hentries : ∀ id ∈ order, ∃ c ∈ s.clients, c.isEntry id = true := by
    intro id hid
    obtain ⟨c, hc, rfl⟩ := List.mem_map.1 (horder.mem_iff.1 hid)
    obtain ⟨hc, hr⟩ := List.mem_filter.1 hc
    exact ⟨c, hc, isEntry_iff.2 ⟨hr, rfl⟩⟩
  have hcount : order.countP (takes s.limits.capacity s.clients) = s.accepting := by
    rw [horder.countP_eq, St.keys, List.countP_map, List.countP_filter, St.accepting, ← List.countP_eq_length_filter]
    refine List.countP_congr fun c hc => ?_
    cases hr : c.registered with
    | true => simp [takes, hentry hc hr]
    | false => simp [Client.accepts, hr]
  have hclients (text : String) :
      (order.filter fun id => !takes s.limits.capacity s.clients id).foldl unregister
        (s.clients.map (·.reached s.limits.capacity text order)) = s.clients.map (·.offer s.limits.capacity text) := by
    rw [foldl_unregister, List.map_map]
    refine List.map_congr_left fun c hc => ?_
    cases hr : c.registered with
    | true =>
      have hmem : c.id ∈ order :=
        horder.mem_iff.2 (List.mem_map.2 ⟨c, List.mem_filter.2 ⟨hc, hr⟩, rfl⟩)
      have htakes : takes s.limits.capacity s.clients c.id = c.accepts s.limits.capacity := by
        rw [takes, hentry hc hr, Option.any_some]
      cases haccepts : c.accepts s.limits.capacity with
      | true => simp [Client.reached, Client.offer, Client.push, haccepts, hmem, htakes]
      | false => simp [Client.reached, Client.offer, haccepts, hmem, htakes, hr]
    | false => simp [Client.reached, Client.offer, Client.accepts, Client.drop, hr]
  rw [St.broadcastIn, foldl_visit hkeys (horder.nodup_iff.2 hkeys) hentries]
  simp only [hcount, hclients]
  rfl

end

/-- **A broadcast is exact**, whoever is on the map, whatever their queues hold and whether their receivers are there. Going
through the map in any order, it
- appends the text once to the queue of every client that is on the map, has a receiver and has room, and returns how many;
- takes all others off the map and tells their tasks to end, and nothing else about them changes;
- leaves every client that is not on the map as it is, and the rest of the hub as well.
So behind it the map holds those that have taken the text. -/
theorem broadcast_exact (s : St) (e : Event) (hkeys : s.keys.Nodup) :
    let text := (WireMessage.ofEvent e).text
    let after := s.broadcast e
    (∀ order, order.Perm s.keys → s.broadcastIn order e = (s.accepting, after)) ∧
    s.accepting = s.clients.countP (fun c => c.registered && c.isOpen && decide (c.queue.length < s.limits.capacity)) ∧
    after.clients.length = s.clients.length ∧
    (∀ (i : ℕ) (c : Client), s.clients[i]? = some c → c.registered = true →
      (c.isOpen = true → c.queue.length < s.limits.capacity →
        after.clients[i]? = some { c with queue := c.queue ++ [text] }) ∧
      (c.isOpen = false ∨ s.limits.capacity ≤ c.queue.length →
        after.clients[i]? = some { c with registered := false, cancelled := true })) ∧
    (∀ (i : ℕ) (c : Client), s.clients[i]? = some c → c.registered = false → after.clients[i]? = some c) ∧
    after = { s with clients := after.clients, broadcasts := s.broadcasts ++ [text] } ∧
    after.clientCount = s.accepting := by
  intro text after
  have hget (i : ℕ) (c : Client) (hc : s.clients[i]? = some c) :
      after.clients[i]? = some (c.offer s.limits.capacity text) := by
    change (s.clients.map _)[i]? = _
    rw [List.getElem?_map, hc, Option.map_some]
  refine ⟨fun order horder => broadcastIn_eq hkeys horder, List.countP_eq_length_filter.symm, List.length_map _,
    fun i c hc hr => ⟨fun hopen hroom => ?_, fun hshut => ?_⟩, fun i c hc hr => ?_, rfl, ?_⟩
  · rw [hget i c hc, Client.offer, if_pos (by simp [Client.accepts, hr, hopen, hroom])]
  · have hrefuses : c.accepts s.limits.capacity = false := by
      rcases hshut with hclosed | hfull
      · simp [Client.accepts, hclosed]
      · simp [Client.accepts, hfull]
    rw [hget i c hc, Client.offer, hrefuses, if_neg Bool.false_ne_true, Client.drop, if_pos hr]
  · rw [hget i c hc]
    simp [Client.offer, Client.accepts, Client.drop, hr]
  · -- those who are left are those who have taken the text
    change ((s.clients.map _).filter _).length = _
    rw [List.filter_map, List.length_map, St.accepting]
    congr 2
    funext c
    cases haccepts : c.accepts s.limits.capacity with
    | true =>
      have hr : c.registered = true := by simp [Client.accepts] at haccepts; exact haccepts.1.1
      simp [Client.offer, haccepts, hr]
    | false => simp [Client.offer, haccepts, drop_registered]

/-- a map of queues for one message: the first is full, the second has no receiver, and the third has room; somebody else was
turned away -/
def mixedMap : St :=
  { start ⟨1, .ofSecs 30, .ofSecs 10, 256⟩ with
    clients :=
      [{ Client.joined 0 30000 with queue := ["before"] }, { Client.joined 1 30000 with writer := .done },
        .joined 2 30000, .turnedAway 3]
    nextId := 4 }

theorem broadcast_exact_mixed :
    let e : Event := ⟨.recovered "nas", default⟩
    let text := (WireMessage.ofEvent e).text
    mixedMap.keys.Nodup ∧ mixedMap.broadcastIn [2, 0, 1] e = mixedMap.broadcastIn [0, 1, 2] e ∧
      (mixedMap.broadcastIn [2, 0, 1] e).1 = 1 ∧
      (mixedMap.broadcast e).clients =
        [{ Client.joined 0 30000 with registered := false, cancelled := true, queue := ["before"] },
          { Client.joined 1 30000 with registered := false, cancelled := true, writer := .done },
          { Client.joined 2 30000 with queue := [text] }, .turnedAway 3] := by
  intro e text
  have hkeys : mixedMap.keys.Nodup := by decide
  obtain ⟨horders, -, hlength, hmap, hothers, -, -⟩ := broadcast_exact mixedMap e hkeys
  have hfirst := horders [2, 0, 1] (by decide)
  refine ⟨hkeys, hfirst.trans (horders [0, 1, 2] (by decide)).symm, by rw [hfirst]; rfl, ?_⟩
  refine List.ext_getElem? fun i => ?_
  match i with
  | 0 => exact (hmap 0 _ rfl rfl).2 (.inr (by decide))
  | 1 => exact (hmap 1 _ rfl rfl).2 (.inl rfl)
  | 2 => exact (hmap 2 _ rfl rfl).1 rfl (by decide)
  | 3 => exact hothers 3 _ rfl rfl
  | i + 4 => exact List.getElem?_eq_none (by rw [hlength]; exact Nat.le_add_left _ _)

end ServiceMonitor.Hub
