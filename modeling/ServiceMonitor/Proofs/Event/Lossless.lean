import ServiceMonitor.Event.Json
import ServiceMonitor.Proofs.Json.Written
import ServiceMonitor.Proofs.Time.Timestamp

/-!
An event is read back from its JSON.

Each field of a kind takes the member that an event of that kind writes for it and leaves the other members of the draft
alone (`fields_take`). Going through members in any order keeps `Filling`: what has been seen is in the draft, what has
not is still to come, and nothing comes twice; members of other names are passed over. At the end the draft holds the
event. With the tag taken wherever it stands, this gives `ofBytes_written`.
-/

namespace ServiceMonitor.Event

open ServiceMonitor.Json (Bytes Error TakesMember Textual)

/-- the member that tells the kind -/
def tag (k : Kind) : String × Json := ("kind", .str k.text)

/-! ## Drafts -/

/-- what a draft holds under a name -/
def Draft.member (d : Draft) (name : String) : Json :=
  if name = "host" then .str d.host
  else if name = "service_name" then .str d.name
  else if name = "source" then .str d.source
  else if name = "old_state" then .str d.old.text
  else if name = "new_state" then .str d.new.text
  else if name = "reason" then .str d.reason
  else if name = "timestamp" then d.timestamp.json
  else .null

/-- the field takes the value: it is in the draft afterwards, and nothing else has changed there -/
def Takes (f : DraftField) (v : Json) : Prop :=
  ∀ d, ∃ d', f.2 v d = .ok d' ∧ d'.member f.1 = v ∧ ∀ n, n ≠ f.1 → d'.member n = d.member n

theorem lookup_lifecycle (s : Lifecycle) : Json.lookup Lifecycle.named s.text = .ok s := by cases s <;> rfl

theorem lookup_kind (k : Kind) : Json.lookup Kind.named k.text = .ok k := by cases k <;> rfl

theorem takes_text {name s : String} {set : String → Draft → Draft} (hself : ∀ d, (set s d).member name = .str s)
    (hother : ∀ d n, n ≠ name → (set s d).member n = d.member n) : Takes (textField name set) (.str s) := fun d =>
  ⟨set s d, rfl, hself d, hother d⟩

theorem takes_state {name : String} {s : Lifecycle} {set : Lifecycle → Draft → Draft}
    (hself : ∀ d, (set s d).member name = .str s.text)
    (hother : ∀ d n, n ≠ name → (set s d).member n = d.member n) : Takes (stateField name set) (.str s.text) := fun d =>
  ⟨set s d, by simp [stateField, lifecycleOf, lookup_lifecycle, bind, Except.bind], hself d, hother d⟩

theorem takes_timestamp (t : Timestamp) : Takes timestampField t.json := fun d =>
  ⟨{ d with timestamp := t },
    by simp [timestampField, timestampOf, Timestamp.json, textOf, Timestamp.parse_text, bind, Except.bind],
    by simp [Draft.member, timestampField], fun n hn => by
      have hn : n ≠ "timestamp" := hn
      simp [Draft.member, hn]⟩

/-- each field of a kind has its member in an event of the kind, in the same order, and takes it -/
theorem fields_take (e : Event) :
    List.Forall₂ (fun f m => f.1 = m.1 ∧ Takes f m.2) (fieldsOf e.kind) e.members := by
  obtain ⟨change, t⟩ := e
  have hhost : ∀ s, Takes hostField (.str s) := fun s =>
    takes_text (fun _ => by simp [Draft.member]) fun _ n hn => by simp [Draft.member, hn]
  cases change with
  | service host name source old new =>
    refine .cons ⟨rfl, hhost host⟩ (.cons ⟨rfl, ?_⟩ (.cons ⟨rfl, ?_⟩ (.cons ⟨rfl, ?_⟩ (.cons ⟨rfl, ?_⟩
      (.cons ⟨rfl, takes_timestamp t⟩ .nil)))))
    · exact takes_text (fun _ => by simp [Draft.member]) fun _ n hn => by simp [Draft.member, hn]
    · exact takes_text (fun _ => by simp [Draft.member]) fun _ n hn => by simp [Draft.member, hn]
    · exact takes_state (fun _ => by simp [Draft.member]) fun _ n hn => by simp [Draft.member, hn]
    · exact takes_state (fun _ => by simp [Draft.member]) fun _ n hn => by simp [Draft.member, hn]
  | unreachable host reason =>
    refine .cons ⟨rfl, hhost host⟩ (.cons ⟨rfl, ?_⟩ (.cons ⟨rfl, takes_timestamp t⟩ .nil))
    exact takes_text (fun _ => by simp [Draft.member]) fun _ n hn => by simp [Draft.member, hn]
  | recovered host => exact .cons ⟨rfl, hhost host⟩ (.cons ⟨rfl, takes_timestamp t⟩ .nil)

/-- the names of an event's members -/
def names (e : Event) : List String := e.members.map (·.1)

theorem names_eq (e : Event) : (fieldsOf e.kind).map (·.1) = e.names := by
  obtain ⟨change, t⟩ := e
  cases change <;> rfl

theorem names_nodup (e : Event) : e.names.Nodup := by
  rw [← names_eq]
  cases e.kind <;> decide

theorem kind_notMem_names (e : Event) : "kind" ∉ e.names := by
  rw [← names_eq]
  cases e.kind <;> decide

/-- members of one name are one -/
theorem member_unique {e : Event} {m m' : String × Json} (h : m ∈ e.members) (h' : m' ∈ e.members)
    (hname : m.1 = m'.1) : m = m' :=
  List.inj_on_of_nodup_map e.names_nodup h h' hname

/-- a member's name finds the field that takes it -/
theorem find_field {e : Event} {m : String × Json} (h : m ∈ e.members) :
    ∃ f, (fieldsOf e.kind).find? (fun f => f.1 == m.1) = some f ∧ f.1 = m.1 ∧ Takes f m.2 := by
  have htake := fields_take e
  have hnodup := e.names_nodup
  rw [names] at hnodup
  generalize fieldsOf e.kind = fields, e.members = ms at h htake hnodup
  induction htake with
  | nil => exact absurd h List.not_mem_nil
  | @cons f m' _ ms' hf _ ih =>
    rw [List.map_cons, List.nodup_cons] at hnodup
    rcases List.mem_cons.1 h with rfl | hmem
    · exact ⟨f, by simp [hf.1], hf.1, hf.2⟩
    · have hne : f.1 ≠ m.1 := fun heq => hnodup.1 (hf.1 ▸ heq ▸ List.mem_map_of_mem hmem)
      rw [List.find?_cons_of_neg (by simpa using hne)]
      exact ih hmem hnodup.2

theorem find_field_none {e : Event} {name : String} (h : name ∉ e.names) :
    (fieldsOf e.kind).find? (fun f => f.1 == name) = none := by
  rw [List.find?_eq_none]
  intro f hf heq
  rw [← names_eq, ← beq_iff_eq.1 heq] at h
  exact h (List.mem_map_of_mem hf)

theorem lifecycle_eq {s s' : Lifecycle} (h : s.text = s'.text) : s = s' := by
  have heq := lookup_lifecycle s
  rw [h, lookup_lifecycle] at heq
  exact (Except.ok.inj heq).symm

theorem timestamp_eq {t t' : Timestamp} (h : t.json = t'.json) : t = t' := Timestamp.text_injective (Json.str.inj h)

/-- **The members of an event are all that it is.** -/
theorem ofDraft_members {e : Event} {d : Draft} (h : ∀ m ∈ e.members, d.member m.1 = m.2) : ofDraft e.kind d = e := by
  obtain ⟨change, t⟩ := e
  cases change with
  | service host name source old new =>
    simp [members, Change.members, Draft.member] at h
    obtain ⟨hhost, hname, hsource, hold, hnew, ht⟩ := h
    simp [ofDraft, kind, Change.kind, hhost, hname, hsource, lifecycle_eq hold, lifecycle_eq hnew, timestamp_eq ht]
  | unreachable host reason =>
    simp [members, Change.members, Draft.member] at h
    obtain ⟨hhost, hreason, ht⟩ := h
    simp [ofDraft, kind, Change.kind, hhost, hreason, timestamp_eq ht]
  | recovered host =>
    simp [members, Change.members, Draft.member] at h
    obtain ⟨hhost, ht⟩ := h
    simp [ofDraft, kind, Change.kind, hhost, timestamp_eq ht]

/-! ## Members in any order -/

/-- what is known between two members: those still to come, the names seen, and the draft -/
structure Filling (e : Event) (ms : List (String × Json)) (seen : List String) (d : Draft) : Prop where
  own : ∀ m ∈ ms, m.1 ∈ e.names → m ∈ e.members
  once : ((ms.map (·.1)).filter (· ∈ e.names) ++ seen).Nodup
  all : ∀ n ∈ e.names, n ∈ seen ∨ n ∈ ms.map (·.1)
  held : ∀ m ∈ e.members, m.1 ∈ seen → d.member m.1 = m.2

theorem Filling.other {e : Event} {m : String × Json} {ms : List (String × Json)} {seen : List String} {d : Draft}
    (h : Filling e (m :: ms) seen d) (hm : m.1 ∉ e.names) : Filling e ms seen d where
  own m' hm' := h.own m' (List.mem_cons_of_mem _ hm')
  once := by simpa [hm] using h.once
  all n hn := (h.all n hn).imp_right fun hmem => by
    rcases List.mem_cons.1 hmem with rfl | hmem
    · exact absurd hn hm
    · exact hmem
  held := h.held

theorem Filling.next {e : Event} {m : String × Json} {ms : List (String × Json)} {seen : List String} {d d' : Draft}
    (h : Filling e (m :: ms) seen d) (hm : m.1 ∈ e.names) (hself : d'.member m.1 = m.2)
    (hother : ∀ n, n ≠ m.1 → d'.member n = d.member n) : Filling e ms (m.1 :: seen) d' where
  own m' hm' := h.own m' (List.mem_cons_of_mem _ hm')
  once := by
    have h := h.once
    simp only [List.map_cons, List.filter_cons, hm, decide_true, if_true, List.cons_append] at h
    exact (List.perm_middle.nodup_iff).2 h
  all n hn := by
    rcases h.all n hn with hseen | hmem
    · exact .inl (List.mem_cons_of_mem _ hseen)
    · rcases List.mem_cons.1 hmem with rfl | hmem
      · exact .inl List.mem_cons_self
      · exact .inr hmem
  held m' hm' hseen := by
    have hown := h.own m List.mem_cons_self hm
    by_cases hname : m'.1 = m.1
    · rw [member_unique hm' hown hname, hself]
    · rw [hother _ hname]
      exact h.held m' hm' ((List.mem_cons.1 hseen).resolve_left hname)

theorem ofMembers_filling {e : Event} {ms : List (String × Json)} {seen : List String} {d : Draft}
    (h : Filling e ms seen d) :
    ∃ d', ofMembers (fieldsOf e.kind) ms seen d = .ok d' ∧ ofDraft e.kind d' = e := by
  induction ms generalizing seen d with
  | nil =>
    -- nothing is to come any more, so every name has been seen
    have hseen : ∀ n ∈ e.names, n ∈ seen := fun n hn => (h.all n hn).resolve_right List.not_mem_nil
    have hfind : (fieldsOf e.kind).find? (fun f => !seen.contains f.1) = none := by
      simp only [List.find?_eq_none, Bool.not_eq_true', Bool.not_eq_false, List.contains_iff_mem]
      exact fun f hf => hseen f.1 (names_eq e ▸ List.mem_map_of_mem hf)
    exact ⟨d, by simp only [ofMembers, hfind],
      ofDraft_members fun m hm => h.held m hm (hseen m.1 (List.mem_map_of_mem hm))⟩
  | cons m ms ih =>
    by_cases hm : m.1 ∈ e.names
    · obtain ⟨f, hfind, hname, htakes⟩ := find_field (h.own m List.mem_cons_self hm)
      obtain ⟨d₁, hread, hself, hother⟩ := htakes d
      have hfresh : m.1 ∉ seen := by
        have h := h.once
        simp only [List.map_cons, List.filter_cons, hm, decide_true, if_true, List.cons_append, List.nodup_cons] at h
        exact fun hseen => h.1 (List.mem_append_right _ hseen)
      rw [hname] at hself hother
      obtain ⟨d', hrest, hevent⟩ := ih (h.next hm hself hother)
      exact ⟨d', by simp [ofMembers, hfind, hfresh, hread, bind, Except.bind, hrest], hevent⟩
    · obtain ⟨d', hrest, hevent⟩ := ih (h.other hm)
      exact ⟨d', by simp only [ofMembers, find_field_none hm, hrest], hevent⟩

/-- members that are those of an event and others of unknown names fill a draft from nothing -/
theorem filling_start {e : Event} {ms extra : List (String × Json)} (hextra : ∀ m ∈ extra, m.1 ∉ e.names)
    (hperm : ms.Perm (e.members ++ extra)) (d : Draft) : Filling e ms [] d where
  own m hm hname := by
    rcases List.mem_append.1 (hperm.mem_iff.1 hm) with h | h
    · exact h
    · exact absurd hname (hextra m h)
  once := by
    have hnames : ((ms.map (·.1)).filter (· ∈ e.names)).Perm e.names := by
      refine ((hperm.map _).filter _).trans (List.Perm.of_eq ?_)
      have hown : (e.members.map (·.1)).filter (· ∈ e.names) = e.names :=
        List.filter_eq_self.2 fun n hn => decide_eq_true hn
      have hnone : (extra.map (·.1)).filter (· ∈ e.names) = [] := by
        rw [List.filter_eq_nil_iff]
        intro n hn hmem
        obtain ⟨m, hm, rfl⟩ := List.mem_map.1 hn
        exact hextra m hm (of_decide_eq_true hmem)
      rw [List.map_append, List.filter_append, hown, hnone, List.append_nil]
    rw [List.append_nil]
    exact hnames.nodup_iff.2 e.names_nodup
  all n hn := by
    obtain ⟨m, hm, rfl⟩ := List.mem_map.1 hn
    exact .inr (List.mem_map_of_mem (hperm.mem_iff.2 (List.mem_append_left _ hm)))
  held m _ hseen := absurd hseen List.not_mem_nil

/-! ## The text -/

/-- what reading does with a written member of an event of kind `k` -/
def keep (k : Kind) (s : Option Kind × List (String × Json)) (m : String × Json) :
    Except Error (Option Kind × List (String × Json)) :=
  if m.1 = "kind" then if s.1.isSome then .error (.duplicateField m.1) else .ok (some k, s.2)
  else .ok (s.1, m :: s.2)

theorem kindReader_written (k : Kind) (d : ℕ) (r : Bytes) : kindReader d (Json.bytes (.str k.text) ++ r) = .ok (k, r) := by
  simp [kindReader, Json.text_written, bind, Except.bind, lookup_kind]

theorem takes_tag (d : ℕ) (k : Kind) : TakesMember (readMember d) (keep k) (tag k) := by
  intro s r
  by_cases hs : s.1.isSome
  · simp [readMember, keep, tag, hs, Except.map]
  · simp [readMember, keep, tag, hs, Except.map, Json.colon_self, bind, Except.bind, kindReader_written]

theorem takes_other {d : ℕ} {k : Kind} {m : String × Json} (hname : m.1 ≠ "kind") (hvalue : Textual d m.2) :
    TakesMember (readMember d) (keep k) m := by
  intro s r
  simp [readMember, keep, hname, Except.map, Json.colon_self, bind, Except.bind, Json.value_written hvalue]

theorem foldlM_keep (k : Kind) {ms : List (String × Json)} (h : ∀ m ∈ ms, m.1 ≠ "kind")
    (s : Option Kind × List (String × Json)) : ms.foldlM (keep k) s = .ok (s.1, ms.reverse ++ s.2) := by
  induction ms generalizing s with
  | nil => rfl
  | cons m ms ih =>
    have hkeep : keep k s m = .ok (s.1, m :: s.2) := if_neg (h m List.mem_cons_self)
    simp [List.foldlM_cons, hkeep, bind, Except.bind, ih fun m hm => h m (List.mem_cons_of_mem _ hm)]

/-- the tag is found wherever it stands -/
theorem foldlM_keep_tag (k : Kind) {front back : List (String × Json)} (hfront : ∀ m ∈ front, m.1 ≠ "kind")
    (hback : ∀ m ∈ back, m.1 ≠ "kind") :
    (front ++ tag k :: back).foldlM (keep k) (none, []) = .ok (some k, (front ++ back).reverse) := by
  have htag : ∀ ms, keep k (none, ms) (tag k) = .ok (some k, ms) := fun _ => rfl
  simp [List.foldlM_append, List.foldlM_cons, foldlM_keep k hfront, foldlM_keep k hback, htag, bind, Except.bind]

theorem reader_brace (d : ℕ) (r : Bytes) : reader (d + 2) (0x7B :: r) = (do
    let ((k, ms), r) ← Json.foldMembers (readMember (d + 1)) (r.length + 1) true (none, []) r
    match k with
    | none => .error (.missingField "kind")
    | some k => do
      let r ← Json.endObject r
      let d ← ofMembers (fieldsOf k) ms.reverse [] default
      .ok (ofDraft k d, r)) := by
  have hdepth : ¬d + 2 ≤ 1 := by omega
  change (if d + 2 ≤ 1 then Except.error Error.recursionLimit else _) = _
  exact if_neg hdepth

theorem members_strings (e : Event) : ∀ m ∈ e.members, ∃ s, m.2 = .str s := by
  obtain ⟨change, t⟩ := e
  cases change <;> simp [members, Change.members, Timestamp.json]

/-- **An event is read from its members in any order**, with any others of unknown names among them. -/
theorem ofBytes_written {e : Event} {ms extra : List (String × Json)}
    (hextra : ∀ m ∈ extra, m.1 ≠ "kind" ∧ m.1 ∉ e.names ∧ ∃ s, m.2 = .str s)
    (hperm : ms.Perm (tag e.kind :: e.members ++ extra)) :
    ofBytes (Utf8.ofString (Json.render (.obj ms))) = .ok e := by
  -- the tag stands somewhere; without it the members are those of the event and the others
  obtain ⟨front, back, rfl⟩ := List.append_of_mem (hperm.mem_iff.2 List.mem_cons_self)
  have hrest : (front ++ back).Perm (e.members ++ extra) := (List.perm_middle.symm.trans hperm).cons_inv
  have hother : ∀ m ∈ front ++ back, m.1 ≠ "kind" ∧ ∃ s, m.2 = .str s := by
    intro m hm
    rcases List.mem_append.1 (hrest.mem_iff.1 hm) with h | h
    · exact ⟨fun heq => e.kind_notMem_names (heq ▸ List.mem_map_of_mem h), e.members_strings m h⟩
    · exact ⟨(hextra m h).1, (hextra m h).2.2⟩
  have htakes : ∀ m ∈ front ++ tag e.kind :: back, TakesMember (readMember 127) (keep e.kind) m := by
    intro m hm
    rcases List.mem_cons.1 (List.perm_middle.mem_iff.1 hm) with rfl | hm
    · exact takes_tag 127 e.kind
    · obtain ⟨hname, s, hs⟩ := hother m hm
      exact takes_other hname (hs ▸ .str 127 s)
  have hkeep := foldlM_keep_tag e.kind (fun m hm => (hother m (List.mem_append_left _ hm)).1)
    (fun m hm => (hother m (List.mem_append_right _ hm)).1)
  obtain ⟨d, hmembers, hevent⟩ := ofMembers_filling (filling_start (fun m hm => (hextra m hm).2.1) hrest default)
  refine Json.decode_written fun r => ?_
  rw [Json.bytes_obj_append]
  change reader (126 + 2) _ = _
  simp only [reader_brace, Json.foldMembers_written htakes, hkeep, Except.map, bind, Except.bind, Json.endObject_self,
    List.reverse_reverse, hmembers, hevent]

theorem ofBytes_perm {e : Event} {ms : List (String × Json)} (h : ms.Perm (tag e.kind :: e.members)) :
    ofBytes (Utf8.ofString (Json.render (.obj ms))) = .ok e :=
  @ofBytes_written e ms [] (fun _ h => absurd h List.not_mem_nil) (by rwa [List.append_nil])

/-- an event is read as it was written -/
theorem ofBytes_render (e : Event) : ofBytes (Utf8.ofString e.json.render) = .ok e := ofBytes_perm (.refl _)

/-! ## Writing again -/

/-- a text is read and written again -/
def rewritten (bs : Bytes) : Except Error String := (ofBytes bs).map fun e => e.json.render

theorem rewritten_ok {bs : Bytes} {text : String} (h : rewritten bs = .ok text) :
    ∃ e, ofBytes bs = .ok e ∧ e.json.render = text := by
  unfold rewritten at h
  cases hread : ofBytes bs with
  | error fault => rw [hread] at h; cases h
  | ok e =>
    rw [hread] at h
    exact ⟨e, rfl, Except.ok.inj h⟩

/-- **Nothing of an event is lost in its JSON.** It is read as it was written, also with its members in another order
and others of unknown names among them; no two events have one text; and what an accepted text becomes when it is read
and written again holds the same event and stays as it is. -/
theorem json_lossless :
    (∀ e : Event, ofBytes (Utf8.ofString e.json.render) = .ok e) ∧
      (∀ (e : Event) (ms extra : List (String × Json)),
        (∀ m ∈ extra, m.1 ≠ "kind" ∧ m.1 ∉ e.names ∧ ∃ s, m.2 = .str s) →
        ms.Perm (tag e.kind :: e.members ++ extra) → ofBytes (Utf8.ofString (Json.obj ms).render) = .ok e) ∧
      (∀ e e' : Event, e.json.render = e'.json.render ↔ e = e') ∧
      ∀ (bs : Bytes) (text : String), rewritten bs = .ok text →
        ofBytes (Utf8.ofString text) = ofBytes bs ∧ rewritten (Utf8.ofString text) = .ok text := by
  refine ⟨ofBytes_render, fun e ms extra hextra hperm => ofBytes_written hextra hperm, fun e e' => ⟨fun h => ?_, ?_⟩,
    fun bs text h => ?_⟩
  · have hread := ofBytes_render e
    rw [h, ofBytes_render] at hread
    exact (Except.ok.inj hread).symm
  · rintro rfl
    rfl
  · obtain ⟨e, hread, rfl⟩ := rewritten_ok h
    exact ⟨by rw [ofBytes_render, hread], by rw [rewritten, ofBytes_render]; rfl⟩

/-- an event whose members were moved about, with a note among them -/
theorem json_lossless_moved :
    let e : Event := ⟨.recovered "nas", .epoch⟩
    let moved := Utf8.ofString
      (Json.obj [("timestamp", e.timestamp.json), ("note", .str "rack 2"), tag .hostRecovered, ("host", .str "nas")]).render
    ofBytes moved = .ok e ∧ rewritten moved = .ok e.json.render ∧
      rewritten (Utf8.ofString e.json.render) = .ok e.json.render := by
  intro e moved
  have hread : ofBytes moved = .ok e := by
    refine json_lossless.2.1 e _ [("note", .str "rack 2")] ?_ ?_
    · intro m hm
      rw [List.mem_singleton.1 hm]
      exact ⟨by decide, by decide, "rack 2", rfl⟩
    · exact @List.perm_append_comm _ [("timestamp", e.timestamp.json), ("note", .str "rack 2")]
        [tag .hostRecovered, ("host", .str "nas")]
  have hwritten : rewritten moved = .ok e.json.render := by rw [rewritten, hread]; rfl
  exact ⟨hread, hwritten, (json_lossless.2.2.2 moved _ hwritten).2⟩

end ServiceMonitor.Event
