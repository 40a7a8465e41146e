import ServiceMonitor.Hub.Wire
import ServiceMonitor.Notifier.Webhook
import ServiceMonitor.Proofs.Event.Lossless
import ServiceMonitor.Proofs.Json.Canonical

/-!
An event to clients, an event to a webhook, and the event itself.

All three have the same members. A message to clients splits off the kind as its type, a webhook's document has the
whole event under one name; both put members in order of their names, which an event is read from as well
(`Event.ofTree_canonical`). So the event can be had back from either (`WireMessage.event?_ofEvent`,
`Webhook.event?_document`), and either is read as it was written (`WireMessage.ofBytes_text`, `Webhook.ofString?_render`).
-/

namespace ServiceMonitor

open Json (Bytes Error Textual)

/-! ## The event's own JSON -/

namespace Event

/-- the event that a value holds -/
def ofTree (v : Json) : Except Error Event := ofBytes (Utf8.ofString v.render)

theorem distinct_members (e : Event) : Json.Distinct e.members := e.names_nodup

theorem distinct_tagged (e : Event) : Json.Distinct (tag e.kind :: e.members) :=
  List.nodup_cons.2 ⟨e.kind_notMem_names, e.names_nodup⟩

theorem tagged_strings (e : Event) : ∀ m ∈ tag e.kind :: e.members, ∃ s, m.2 = .str s :=
  List.forall_mem_cons.2 ⟨⟨_, rfl⟩, e.members_strings⟩

theorem canonical_members (e : Event) : Json.canonical (.obj e.members) = .obj (Json.sortMembers e.members) := by
  rw [Json.canonical, Json.canonicalMembers_strings e.members_strings]

theorem canonical_json (e : Event) : Json.canonical e.json = .obj (Json.sortMembers (tag e.kind :: e.members)) := by
  change Json.canonical (.obj (tag e.kind :: e.members)) = _
  rw [Json.canonical, Json.canonicalMembers_strings e.tagged_strings]

theorem ofTree_canonical (e : Event) : ofTree (Json.canonical e.json) = .ok e := by
  rw [canonical_json]
  exact ofBytes_perm (Json.sortMembers_perm e.distinct_tagged)

theorem host_json (e : Event) : Json.member? "host" e.json = some (.str e.host) := by
  obtain ⟨change, timestamp⟩ := e
  cases change <;> rfl

end Event

/-! ## Messages to clients -/

/-- the kind of event that a message of this type is about -/
def WireType.kind? : WireType → Option Kind
  | .serviceUpdate => some .serviceStateChanged
  | .hostUnreachable => some .hostUnreachable
  | .hostRecovered => some .hostRecovered
  | .ping => none

theorem WireType.kind?_ofKind (k : Kind) : (WireType.ofKind k).kind? = some k := by cases k <;> rfl

theorem WireType.lookup_text (t : WireType) : Json.lookup WireType.named t.text = .ok t := by cases t <;> rfl

namespace WireMessage

/-- the event that a message is about, by its type and its payload -/
def event? (m : WireMessage) : Option Event :=
  match m.type.kind?, m.payload with
  | some k, .obj ms => (Event.ofTree (.obj (Event.tag k :: ms))).toOption
  | _, _ => none

theorem event?_ofEvent (e : Event) : (ofEvent e).event? = some e := by
  have hread : Event.ofTree (.obj (Event.tag e.kind :: Json.sortMembers e.members)) = .ok e :=
    Event.ofBytes_perm ((Json.sortMembers_perm e.distinct_members).cons _)
  simp [event?, ofEvent, WireType.kind?_ofKind, Event.canonical_members, hread, Except.toOption]

/-- a field of the message that the record sets -/
def put (m : WireMessage) (name : String) (a : WireMessage) : WireMessage :=
  if name = "type" then { a with type := m.type }
  else if name = "timestamp" then { a with timestamp := m.timestamp }
  else { a with payload := m.payload }

theorem timestampReader_written (t : Timestamp) (d : ℕ) (r : Bytes) :
    timestampReader d (Json.bytes t.json ++ r) = .ok (t, r) := by
  simp [timestampReader, Json.parsed, Timestamp.json, Json.text_written, Timestamp.parse_text, bind, Except.bind,
    Except.mapError]

theorem payloadReader_written {v : Json} {d : ℕ} (h : Textual d v) (hcanonical : Json.canonical v = v) (r : Bytes) :
    payloadReader d (Json.bytes v ++ r) = .ok (v, r) := by
  simp [payloadReader, Json.value_written h, hcanonical, bind, Except.bind]

/-- **A message is read as it was written**, if its payload is in canonical form and goes no deeper than is read. -/
theorem ofBytes_text {m : WireMessage} (h : Textual 127 m.payload) (hcanonical : Json.canonical m.payload = m.payload) :
    ofBytes (Utf8.ofString m.text) = .ok m := by
  refine Json.decode_written fun r => ?_
  rw [json, Json.bytes_obj_append]
  change Json.record _ _ _ (126 + 2) _ = _
  rw [Json.record_brace, @Json.foldMembers_written _ _ (Json.putMember m.put)]
  · rfl
  · simp only [List.forall_mem_cons, List.not_mem_nil, false_implies, implies_true, and_true]
    refine ⟨Json.takesMember_put rfl fun a r => ?_, Json.takesMember_put rfl fun a r => ?_,
      Json.takesMember_put rfl fun a r => ?_⟩
    · simp [Json.Field.of, Json.oneOf_written m.type.lookup_text, bind, Except.bind, put]
    · simp [Json.Field.of, timestampReader_written, bind, Except.bind, put]
    · simp [Json.Field.of, payloadReader_written h hcanonical, bind, Except.bind, put]

theorem ofBytes_ofEvent (e : Event) : ofBytes (Utf8.ofString (ofEvent e).text) = .ok (ofEvent e) :=
  ofBytes_text (Json.textual_strings e.members_strings 125).canonical (Json.canonical_canonical _)

theorem timestamp_payload (e : Event) : Json.member? "timestamp" (ofEvent e).payload = some e.timestamp.json :=
  Json.member?_canonical e.distinct_members (List.mem_append_right _ List.mem_cons_self)

end WireMessage

/-! ## Documents for webhooks -/

namespace Webhook

/-- the members of a document before they are put in order -/
def members (e : Event) : List (String × Json) :=
  [("message", .str e.summary), ("host", .str e.host), ("event", e.json), ("timestamp", .str e.timestamp.textWithOffset)]

theorem distinct_members (e : Event) : Json.Distinct (members e) := by
  change ["message", "host", "event", "timestamp"].Nodup
  decide

/-- a member of the document -/
theorem member?_document {e : Event} {k : String} {v : Json} (h : (k, v) ∈ members e) :
    Json.member? k (document e) = some (Json.canonical v) :=
  Json.member?_canonical (distinct_members e) h

/-- the event that a document is about -/
def event? (document : Json) : Option Event :=
  (Json.member? "event" document).bind fun v => (Event.ofTree v).toOption

theorem event?_document (e : Event) : event? (document e) = some e := by
  have hmember : Json.member? "event" (document e) = some (Json.canonical e.json) := member?_document (by simp [members])
  simp [event?, hmember, Event.ofTree_canonical, Except.toOption]

theorem textual_document (e : Event) : Textual 128 (document e) := by
  refine Textual.canonical (.obj ?_)
  simp only [List.forall_mem_cons, List.not_mem_nil, false_implies, implies_true, and_true]
  exact ⟨.str _ _, .str _ _, Json.textual_strings e.tagged_strings 125, .str _ _⟩

/-- **A document is read as it was written.** -/
theorem ofString?_render (e : Event) : Json.ofString? (document e).render = .ok (document e) :=
  Json.decode_written (Json.value_written (textual_document e))

end Webhook

/-! ## All of them -/

theorem WireType.ofKind_eq {k k' : Kind} : ofKind k = ofKind k' ↔ k = k' := by
  refine ⟨fun h => ?_, congrArg ofKind⟩
  have hkind := kind?_ofKind k
  rw [h, kind?_ofKind] at hkind
  exact (Option.some.inj hkind).symm

/-- the payload is the event's value but for its kind -/
theorem WireMessage.payload_ofEvent (e : Event) :
    ∃ ms, (ofEvent e).payload = .obj ms ∧ "kind" ∉ ms.map (·.1) ∧
      Json.canonical e.json = .obj (Json.insertMember "kind" (.str e.kind.text) ms) := by
  have hperm := Json.sortMembers_perm e.distinct_members
  refine ⟨Json.sortMembers e.members, e.canonical_members, fun hmem => ?_, ?_⟩
  · exact e.kind_notMem_names ((hperm.map _).mem_iff.1 hmem)
  · rw [Event.canonical_json, Json.sortMembers_cons e.distinct_tagged]
    rfl

theorem WireMessage.text_inj {e e' : Event} : (ofEvent e).text = (ofEvent e').text ↔ e = e' := by
  refine ⟨fun h => ?_, fun h => h ▸ rfl⟩
  -- one text is read as one message, which is about one event
  have hread := ofBytes_ofEvent e
  rw [h, ofBytes_ofEvent] at hread
  have hevent := event?_ofEvent e
  rw [← Except.ok.inj hread, event?_ofEvent] at hevent
  exact (Option.some.inj hevent).symm

/-- **All encodings of an event say the same.** The message to clients has the event's value as its payload, but for the
kind, which its type stands for, and the event's instant; the webhook's document has that value too, beside the host that
the value names and the instant. Each text is read as it was written, the event can be had back from either, and no two
events have one text. -/
theorem encodings_agree (e : Event) :
    (∃ ms, (WireMessage.ofEvent e).payload = .obj ms ∧ "kind" ∉ ms.map (·.1) ∧
        Json.canonical e.json = .obj (Json.insertMember "kind" (.str e.kind.text) ms)) ∧
      (∀ e' : Event, (WireMessage.ofEvent e).type = (WireMessage.ofEvent e').type ↔ e.kind = e'.kind) ∧
      (WireMessage.ofEvent e).type.kind? = some e.kind ∧
      (WireMessage.ofEvent e).timestamp = e.timestamp ∧
      Json.member? "timestamp" (WireMessage.ofEvent e).payload = some (WireMessage.ofEvent e).timestamp.json ∧
      Json.member? "event" (Webhook.document e) = some (Json.canonical e.json) ∧
      Json.member? "host" (Webhook.document e) = some (.str e.host) ∧ Json.member? "host" e.json = some (.str e.host) ∧
      (∃ s, Json.member? "timestamp" (Webhook.document e) = some (.str s) ∧ Timestamp.parse s = .ok e.timestamp) ∧
      WireMessage.ofBytes (Utf8.ofString (WireMessage.ofEvent e).text) = .ok (WireMessage.ofEvent e) ∧
      (WireMessage.ofEvent e).event? = some e ∧
      (∃ v, Json.ofString? (Webhook.document e).render = .ok v ∧ Webhook.event? v = some e) ∧
      ∀ e' : Event, (WireMessage.ofEvent e).text = (WireMessage.ofEvent e').text ↔ e = e' :=
  ⟨WireMessage.payload_ofEvent e,
    fun _ => WireType.ofKind_eq,
    WireType.kind?_ofKind e.kind,
    rfl,
    WireMessage.timestamp_payload e,
    @Webhook.member?_document e "event" e.json (by simp [Webhook.members]),
    @Webhook.member?_document e "host" (.str e.host) (by simp [Webhook.members]),
    e.host_json,
    ⟨e.timestamp.textWithOffset,
      @Webhook.member?_document e "timestamp" (.str e.timestamp.textWithOffset) (by simp [Webhook.members]),
      Timestamp.parse_textWithOffset e.timestamp⟩,
    WireMessage.ofBytes_ofEvent e,
    WireMessage.event?_ofEvent e,
    ⟨Webhook.document e, Webhook.ofString?_render e, Webhook.event?_document e⟩,
    fun _ => WireMessage.text_inj⟩

end ServiceMonitor
