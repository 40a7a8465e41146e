import ServiceMonitor.Proofs.Agent.Framing
import ServiceMonitor.Proofs.Agent.Listed
import ServiceMonitor.Proofs.Json.MendedRecords

/-!
A service is the same whether it is listed or streamed.

An element of a list is decoded as it is; a line of the stream is read as text, malformed UTF-8 included, trimmed, and decoded
from the bytes of that text. An element that decodes begins and ends with a sign that is no blank (`element_shape`), so what is
trimmed are blanks only, and decoding what was mended comes to the same (`ofBytes_mend`).

- `item?_of_element`: a line that is an element of a list holds what the element does.
- `decoded_alike`: the list of one element and the stream of one line, and what the monitor makes of both.
-/

namespace ServiceMonitor.Agent

open Json (Blank Bytes maxDepth skipBlank)
open Monitor (Policy Target Worker)
open Utf8 (mend)

/-! ## Reading as text -/

theorem decodeLossy_append (front : Bytes) {b : UInt8} (hb : b.toNat < 0x80) (bs : Bytes) :
    Utf8.decodeLossy (front ++ b :: bs) = Utf8.decodeLossy front ++ Char.ofNat b.toNat :: Utf8.decodeLossy bs := by
  rw [Utf8.decodeLossy, Utf8.read_append .start front hb, List.map_append, List.map_cons]
  rfl

/-- the blanks of a list are blank characters -/
theorem blank_decodeLossy {bs : Bytes} (h : Blank bs) : ∀ c ∈ Utf8.decodeLossy bs, Text.isBlank c = true := by
  induction bs with
  | nil => exact nofun
  | cons b bs ih =>
    obtain ⟨hb, hbs⟩ := List.forall_mem_cons.1 h
    have hsplit := decodeLossy_append [] (Json.low_of_blank b hb) bs
    rw [List.nil_append] at hsplit
    rw [hsplit]
    refine List.forall_mem_append.2 ⟨nofun, List.forall_mem_cons.2 ⟨?_, ih hbs⟩⟩
    simp only [Json.isBlankByte, Bool.or_eq_true, decide_eq_true_eq] at hb
    rcases hb with ((rfl | rfl) | rfl) | rfl <;> decide

/-- blanks around a text that begins and ends with other characters are trimmed, and nothing else -/
theorem trim_between {front text behind : List Char} {c d : Char} (hfront : ∀ x ∈ front, Text.isBlank x = true)
    (hbehind : ∀ x ∈ behind, Text.isBlank x = true) (hc : Text.isBlank c = false) (hd : Text.isBlank d = false) :
    Text.trim (front ++ c :: (text ++ d :: behind)) = c :: (text ++ [d]) := by
  have hstart : Text.trimStart (front ++ c :: (text ++ d :: behind)) = c :: (text ++ d :: behind) := by
    rw [Text.trimStart, List.dropWhile_append_of_pos hfront, List.dropWhile_cons_of_neg (by simp [hc])]
  have hreverse : (c :: (text ++ d :: behind)).reverse = behind.reverse ++ d :: (text.reverse ++ [c]) := by simp
  have hblank : ∀ x ∈ behind.reverse, Text.isBlank x = true := fun x hx => hbehind x (List.mem_reverse.1 hx)
  rw [Text.trim, hstart, Text.trimEnd, hreverse, List.dropWhile_append_of_pos hblank,
    List.dropWhile_cons_of_neg (by simp [hd])]
  simp

/-! ## Elements -/

/-- the fields of a service are texts -/
theorem service_mends : ∀ f ∈ ([.of "name" Json.anyString (fun v s => { s with name := v }) .required,
      .of "state" Json.anyString (fun v s => { s with state := v }) .required,
      .of "status" Json.anyString (fun v s => { s with status := v }) (.default fun s => { s with status := "" })] :
      List (Json.Field Service)), f.Mends := by
  intro f hf
  simp only [List.mem_cons, List.not_mem_nil, or_false] at hf
  rcases hf with rfl | rfl | rfl <;> exact Json.Field.mends_text _ _ _ _

/-- an element is blanks, a text with signs at both ends that is read as a service, and blanks -/
theorem element_shape {part : Bytes} {service : Service} (h : Service.ofBytes part = .ok service) :
    ∃ front c text d behind, part = front ++ c :: (text ++ d :: behind) ∧ Blank front ∧ Blank behind ∧
      (c = 0x7B ∨ c = 0x5B) ∧ (d = 0x7D ∨ d = 0x5D) ∧
      Service.reader maxDepth (c :: (text ++ [d])) = .ok (service, []) := by
  obtain ⟨behind, hread, hbehind⟩ := ofBytes_iff.1 h
  obtain ⟨c, r, hstart, hc⟩ := Json.record_starts hread
  obtain ⟨front, hfront, hpart⟩ := Json.exists_blanks part
  rw [← service_enclosed.blanks, hstart] at hread
  rw [hstart] at hpart
  obtain ⟨d, ⟨init, hinit⟩, hd⟩ := Json.record_ends service_near hread
  cases init with
  | nil =>
    obtain ⟨rfl, -⟩ := List.cons.inj hinit
    rcases hc with rfl | rfl <;> simp at hd
  | cons c' text =>
    obtain ⟨rfl, rfl⟩ := List.cons.inj hinit
    refine ⟨front, c', text, d, behind, hpart, hfront, hbehind, hc, hd, ?_⟩
    obtain ⟨whole, -, hwhole, hclose⟩ := service_enclosed.closes hread
    have hsame : whole = c' :: (text ++ [d]) := by
      have hboth : whole ++ behind = c' :: (text ++ [d]) ++ behind := by rw [← hwhole]; simp
      exact List.append_cancel_right hboth
    have hnone := hclose []
    rw [List.append_nil, hsame] at hnone
    exact hnone

/-- **Mended bytes** hold the same service. -/
theorem ofBytes_mend {text : Bytes} {service : Service} (h : Service.reader maxDepth text = .ok (service, [])) :
    Service.ofBytes (mend text) = .ok service :=
  ofBytes_iff.2 ⟨[], Json.record_mend service_near service_mends h, nofun⟩

/-- **A line that is an element of a list** yields the observation of the element. -/
theorem item?_of_element {part : Bytes} {service : Service} (h : Service.ofBytes part = .ok service) :
    item? part = some (.ok service.observation) := by
  obtain ⟨front, c, text, d, behind, rfl, hfront, hbehind, hc, hd, hread⟩ := element_shape h
  have hlow : c.toNat < 0x80 ∧ d.toNat < 0x80 := by
    rcases hc with rfl | rfl <;> rcases hd with rfl | rfl <;> decide
  have hsigns : Text.isBlank (Char.ofNat c.toNat) = false ∧ Text.isBlank (Char.ofNat d.toNat) = false := by
    rcases hc with rfl | rfl <;> rcases hd with rfl | rfl <;> decide
  have htrim : Text.trim (Utf8.decodeLossy (front ++ c :: (text ++ d :: behind))) =
      Utf8.decodeLossy (c :: (text ++ [d])) := by
    have hinner := decodeLossy_append [] hlow.1 (text ++ [d])
    rw [List.nil_append] at hinner
    rw [decodeLossy_append front hlow.1, decodeLossy_append text hlow.2, hinner, decodeLossy_append text hlow.2]
    exact trim_between (blank_decodeLossy hfront) (blank_decodeLossy hbehind) hsigns.1 hsigns.2
  have hmend : Service.ofBytes (Utf8.encode (Utf8.decodeLossy (c :: (text ++ [d])))) = .ok service := ofBytes_mend hread
  unfold item?
  rw [htrim]
  cases hchars : Utf8.decodeLossy (c :: (text ++ [d])) with
  | nil =>
    have hinner := decodeLossy_append [] hlow.1 (text ++ [d])
    rw [List.nil_append, hchars] at hinner
    exact absurd hinner.symm (List.append_ne_nil_of_right_ne_nil _ (List.cons_ne_nil _ _))
  | cons x xs =>
    rw [hchars] at hmend
    simp only [hmend]

/-! ## Lists of one element -/

/-- what stands between the brackets of a list with one element is that element -/
theorem element_of_list {b : Bytes} {service : Service}
    (h : Service.listOfBytes (0x5B :: (b ++ [0x5D])) = .ok [service]) : Service.ofBytes b = .ok service := by
  obtain ⟨parts, ⟨before, inside, behind, hbody, hbefore, hbehind, hinside⟩, hparts⟩ := listOfBytes_iff.1 h
  obtain ⟨part, hpart, rfl⟩ : ∃ part, Service.ofBytes part = .ok service ∧ parts = [part] := by
    cases hparts with
    | cons hpart hnil =>
      cases hnil
      exact ⟨_, hpart, rfl⟩
  obtain rfl : inside = part := by
    rcases hinside with ⟨hnil, -⟩ | ⟨-, rfl⟩
    · cases hnil
    · exact List.intercalate_singleton
  -- neither bracket is a blank, so nothing stands outside of them
  obtain rfl : before = [] := by
    cases before with
    | nil => rfl
    | cons x before =>
      have hblank := hbefore x List.mem_cons_self
      rw [List.cons_append, List.cons.injEq] at hbody
      rw [← hbody.1] at hblank
      exact absurd hblank (by decide)
  rw [List.nil_append, List.cons.injEq] at hbody
  obtain ⟨-, hbody⟩ := hbody
  obtain rfl : behind = [] := by
    by_contra hne
    have hlast := congrArg List.getLast? hbody
    rw [List.getLast?_append, List.getLast?_append, List.getLast?_cons_of_ne_nil hne] at hlast
    have hmem : (0x5D : UInt8) ∈ behind := List.mem_of_getLast? (by simpa [List.getLast?_eq_some_getLast hne] using hlast.symm)
    exact absurd (hbehind _ hmem) (by decide)
  rw [List.append_cancel_right hbody]
  exact hpart

/-- a line at the front of what the splitter holds is taken out -/
theorem cut_line {b : Bytes} (h : newline ∉ b) (more : Bytes) : cut (b ++ newline :: more) = some (b, more) := by
  induction b with
  | nil => rfl
  | cons x b ih =>
    obtain ⟨hx, hb⟩ := not_or.1 (mt List.mem_cons.2 h)
    rw [List.cons_append, cut, if_neg (Ne.symm hx), ih hb]
    rfl

/-- the only line of a stream -/
theorem streamItems_line {b : Bytes} (h : newline ∉ b) (hlimit : b.length ≤ maxLine) {chunks : List Bytes}
    (hchunks : chunks.flatten = b ++ [newline]) : streamItems (chunks.map .ok) = (item? b).toList := by
  have hbytes : received (chunks.map .ok) = b ++ [newline] := by
    have := received_ok chunks []
    rwa [List.append_nil, received, List.append_nil, hchunks] at this
  have hending : ending (chunks.map .ok) = [] := by
    have := ending_ok chunks []
    rwa [List.append_nil] at this
  have hsplit : (b ++ [newline]).splitOn newline = [b, []] := by
    rw [List.splitOn_append_cons_self_of_not_mem h]
    rfl
  have hwithin : WithinLimit (b ++ [newline]) := by
    intro line hline
    rw [hsplit] at hline
    rcases List.mem_pair.1 hline with rfl | rfl
    · exact hlimit
    · exact Nat.zero_le _
  rw [streamItems, Splitter.items_eq _ (by rw [List.nil_append, hbytes]; exact hwithin), List.nil_append, hbytes,
    hending, endedLines, hsplit, List.append_nil]
  cases hitem : item? b <;> simp [hitem]

/-- **Polling and streaming decode alike.** Where a list of one element yields an observation, the same bytes as a line of the
stream yield the same observation: out of a buffer with anything behind the line, or out of chunks in any cut if the line is
within the limit. What a worker has to tell of the item is what it has to tell of the list. -/
theorem decoded_alike {b : Bytes} {o : Observation} (hline : newline ∉ b)
    (hlist : Provider.observations? (0x5B :: (b ++ [0x5D])) = .ok [o]) :
    item? b = some (.ok o) ∧
    (∀ more coming, Splitter.items ⟨b ++ newline :: more, coming⟩ = .ok o :: Splitter.items ⟨more, coming⟩) ∧
    (∀ chunks : List Bytes, chunks.flatten = b ++ [newline] → b.length ≤ maxLine →
      streamItems (chunks.map .ok) = [.ok o]) ∧
    ∀ (p : Policy) (t : Target) (now : ℕ) (w : Worker) (due : ℕ) (rest : Monitor.Stream),
      w.phase = .listening (some (due, monitorItem (.ok o))) rest →
      (w.proceed p t now).phase = .reporting now (Worker.reportsOf (.ok [o])) (.listen rest) := by
  have hitem : item? b = some (.ok o) := by
    unfold Provider.observations? at hlist
    cases hservices : Service.listOfBytes (0x5B :: (b ++ [0x5D])) with
    | error e => rw [hservices] at hlist; cases hlist
    | ok services =>
      rw [hservices] at hlist
      obtain ⟨service, rfl, rfl⟩ := List.map_eq_singleton_iff.1 (Except.ok.inj hlist)
      exact item?_of_element (element_of_list hservices)
  refine ⟨hitem, fun more coming => ?_, fun chunks hchunks hlimit => ?_, fun p t now w due rest hphase => ?_⟩
  · rw [Splitter.items_of_cut (cut_line hline more), hitem]
    rfl
  · rw [streamItems_line hline hlimit hchunks, hitem]
    rfl
  · rw [Worker.proceed, hphase]
    rfl

/-- blanks around a service, an escape in a member's name, and a member that is passed over and holds bytes that are no text -/
def oddService : Bytes :=
  Utf8.ofString " \x7b\"id\":[\"" ++ [0xFF, 0xE2, 0x82] ++
    Utf8.ofString "\"],\"st\\u0061te\":\"Up\",\"status\":\"5 \\u00b5s\",\"name\":\"café\"\x7d\t"

theorem decoded_alike_odd :
    newline ∉ oddService ∧ Provider.observations? (0x5B :: (oddService ++ [0x5D])) = .ok [⟨"café", .running, "5 µs"⟩] ∧
      streamItems [.ok (oddService.take 9), .ok (oddService.drop 9 ++ [newline])] = [.ok ⟨"café", .running, "5 µs"⟩] := by
  have hline : newline ∉ oddService := by decide +kernel
  have hlist : Provider.observations? (0x5B :: (oddService ++ [0x5D])) = .ok [⟨"café", .running, "5 µs"⟩] := by
    decide +kernel
  refine ⟨hline, hlist, ?_⟩
  have hchunks := (decoded_alike hline hlist).2.2.1 [oddService.take 9, oddService.drop 9 ++ [newline]]
  exact hchunks (by rw [List.flatten_cons, List.flatten_singleton, ← List.append_assoc, List.take_append_drop])
    (by decide +kernel)

end ServiceMonitor.Agent
