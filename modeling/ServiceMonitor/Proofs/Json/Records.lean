import Mathlib.Data.List.DropRight
import ServiceMonitor.Proofs.Json.Skipping

/-!
Records are read up to their closing sign, and no further.

What stands behind a record does not matter to it (`record_closes`), whether it is written as an object or as an array,
with members of other names or without. Nor do the levels left, as long as one can be opened (`record_depth`).
-/

namespace ServiceMonitor.Json

/-! ## Members -/

/-- behind the comma between two members -/
def memberName (bs : Bytes) : Except Error (Bool × Bytes) :=
  match skipBlank bs with
  | [] => .error .eofValue
  | c :: r =>
    if c = 0x22 then .ok (true, r)
    else if c = 0x7D then .error .trailingComma
    else .error .keyNotString

theorem memberName_closes {more : Bool} {bs rest : Bytes} (h : memberName bs = .ok (more, rest)) :
    Closes memberName (more, ·) bs rest := by
  cases hs : skipBlank bs with
  | nil => simp [memberName, hs] at h
  | cons c r =>
    simp only [memberName, hs] at h
    split_ifs at h with hquote
    cases h
    exact closes_sign hs fun bs r hs => by simp only [memberName, hs, hquote, if_true]

theorem nextMember_stops {first more : Bool} {bs rest : Bytes} (h : nextMember first bs = .ok (more, rest)) :
    Stops (nextMember first) (more, ·) bs rest ∧ (more = true → rest.length < bs.length) := by
  cases hs : skipBlank bs with
  | nil => simp [nextMember, hs] at h
  | cons b r =>
    simp only [nextMember, hs] at h
    split_ifs at h with hclose hfirst hquote hcomma
    · cases h
      exact ⟨(stops_ok _).from_sign hs fun bs r hs => by simp [nextMember, hs, hclose], by rintro ⟨⟩⟩
    · cases h
      have hcloses : Closes (nextMember first) (true, ·) bs rest :=
        closes_sign hs fun bs r hs => by simp [nextMember, hs, hfirst, hquote]
      exact ⟨hcloses.stops, fun _ => hcloses.length_lt⟩
    · have hcloses : Closes (nextMember first) (more, ·) bs rest :=
        (memberName_closes h).sign hs fun bs r hs => by
          simp only [nextMember, hs, if_neg hclose, if_neg hfirst, if_pos hcomma]
          rfl
      exact ⟨hcloses.stops, fun _ => hcloses.length_lt⟩

section

variable {σ : Type} {step : σ → String → Bytes → Except Error (σ × Bytes)}

/-- what is done with a member looks no further than the byte behind it -/
def StepStops (step : σ → String → Bytes → Except Error (σ × Bytes)) : Prop :=
  ∀ ⦃s name bs s' rest⦄, step s name bs = .ok (s', rest) → Stops (step s name) (s', ·) bs rest

/-- one turn of `foldMembers`: what it makes of another member, or none if there is no other -/
def takeMember (step : σ → String → Bytes → Except Error (σ × Bytes)) (first : Bool) (s : σ) (bs : Bytes) :
    Except Error (Option σ × Bytes) := do
  let (more, r) ← nextMember first bs
  if more then
    let (name, r) ← string r
    let (s, r) ← step s name r
    .ok (some s, r)
  else .ok (none, r)

theorem foldMembers_succ (fuel : ℕ) (first : Bool) (s : σ) (bs : Bytes) :
    foldMembers step (fuel + 1) first s bs = takeMember step first s bs >>= fun x =>
      match x.1 with
      | some s => foldMembers step fuel false s x.2
      | none => .ok (s, x.2) := by
  rw [foldMembers, takeMember]
  cases nextMember first bs with
  | error e => rfl
  | ok x =>
    obtain ⟨more, r⟩ := x
    cases more with
    | false => rfl
    | true =>
      cases hstring : string r with
      | error e => simp [bind, Except.bind, hstring]
      | ok y => cases hvalue : step s y.1 y.2 <;> simp [bind, Except.bind, hstring, hvalue]

theorem takeMember_stops (hstep : StepStops step) {first : Bool} {s : σ} {x : Option σ} {bs rest : Bytes}
    (h : takeMember step first s bs = .ok (x, rest)) :
    Stops (takeMember step first s) (x, ·) bs rest ∧ (x.isSome → rest.length < bs.length) := by
  obtain ⟨⟨more, mid⟩, hnext, hthen⟩ := bind_eq_ok h
  obtain ⟨hstops, hlt⟩ := nextMember_stops hnext
  cases more with
  | false =>
    cases hthen
    exact ⟨hstops.bind (stops_ok _), by simp⟩
  | true =>
    obtain ⟨⟨name, value⟩, hname, hthen⟩ := bind_eq_ok hthen
    obtain ⟨⟨s', behind⟩, hvalue, hthen⟩ := bind_eq_ok hthen
    cases hthen
    have hclose := string_closes hname
    have hread := hstep hvalue
    refine ⟨hstops.bind (hclose.stops.bind (hread.bind (stops_ok _))), fun _ => ?_⟩
    exact hread.length_le.trans_lt (hclose.length_lt.trans (hlt rfl))

/-- going through members, with a unit of fuel for each byte and one for the end -/
theorem foldMembers_stops (hstep : StepStops step) {fuel : ℕ} {first : Bool} {s s' : σ} {bs rest : Bytes}
    (h : foldMembers step fuel first s bs = .ok (s', rest)) :
    ∃ front, bs = front ++ rest ∧ ∀ fuel more, front.length < fuel → more.head? = rest.head? →
      foldMembers step fuel first s (front ++ more) = .ok (s', more) := by
  induction fuel generalizing first s bs with
  | zero => cases h
  | succ fuel ih =>
    rw [foldMembers_succ] at h
    obtain ⟨⟨x, mid⟩, htake, hthen⟩ := bind_eq_ok h
    obtain ⟨⟨front, rfl, hfront⟩, hlt⟩ := takeMember_stops hstep htake
    cases x with
    | none =>
      cases hthen
      refine ⟨front, rfl, fun fuel more hfuel hmore => ?_⟩
      obtain ⟨fuel, rfl⟩ := Nat.exists_eq_add_of_le' (Nat.one_le_of_lt hfuel)
      rw [foldMembers_succ, hfront more hmore]
      rfl
    | some s₁ =>
      obtain ⟨front', rfl, hrest⟩ := ih hthen
      have hlt := hlt rfl
      refine ⟨front ++ front', (List.append_assoc _ _ _).symm, fun fuel more hfuel hmore => ?_⟩
      obtain ⟨fuel, rfl⟩ := Nat.exists_eq_add_of_le' (Nat.one_le_of_lt hfuel)
      simp only [List.length_append] at hlt hfuel
      rw [List.append_assoc, foldMembers_succ, hfront _ (head?_front hmore)]
      exact hrest fuel more (by omega) hmore

theorem members_stop (hstep : StepStops step) {first : Bool} {s s' : σ} {bs rest : Bytes}
    (h : foldMembers step (bs.length + 1) first s bs = .ok (s', rest)) :
    Stops (fun bs => foldMembers step (bs.length + 1) first s bs) (s', ·) bs rest := by
  obtain ⟨front, hbs, hfront⟩ := foldMembers_stops hstep h
  refine ⟨front, hbs, fun more hmore => hfront _ more ?_ hmore⟩
  rw [List.length_append]
  omega

end

/-! ## Items -/

/-- behind the comma between two items -/
def itemStart (bs : Bytes) : Except Error (Bool × Bytes) :=
  match skipBlank bs with
  | [] => .error .eofValue
  | c :: r => if c = 0x5D then .error .trailingComma else .ok (true, c :: r)

theorem itemStart_stops {more : Bool} {bs rest : Bytes} (h : itemStart bs = .ok (more, rest)) :
    Stops itemStart (more, ·) bs rest := by
  cases hs : skipBlank bs with
  | nil => simp [itemStart, hs] at h
  | cons c r =>
    simp only [itemStart, hs] at h
    split_ifs at h with hbracket
    cases h
    exact (stops_ok _).from_sign hs fun bs r hs => by simp only [itemStart, hs, if_neg hbracket]

theorem nextItem_stops {first more : Bool} {bs rest : Bytes} (h : nextItem first bs = .ok (more, rest)) :
    Stops (nextItem first) (more, ·) bs rest := by
  cases hs : skipBlank bs with
  | nil => simp [nextItem, hs] at h
  | cons b r =>
    simp only [nextItem, hs] at h
    split_ifs at h with hclose hfirst hcomma
    · cases h
      exact (stops_ok _).from_sign hs fun bs r hs => by simp [nextItem, hs, hclose]
    · cases h
      exact (stops_ok _).from_sign hs fun bs r hs => by simp [nextItem, hs, hclose, hfirst]
    · refine (itemStart_stops h).sign hs fun bs r hs => ?_
      simp only [nextItem, hs, if_neg hclose, if_neg hfirst, if_pos hcomma]
      rfl

/-! ## Records -/

theorem text_closes {expected : String} {depth : ℕ} {bs rest : Bytes} {s : String}
    (h : text expected depth bs = .ok (s, rest)) : Closes (text expected depth) (s, ·) bs rest := by
  cases hs : skipBlank bs with
  | nil => simp [text, hs] at h
  | cons b r =>
    simp only [text, hs] at h
    split_ifs at h with hquote
    exact (string_closes h).sign hs fun bs r hs => by simp only [text, hs, if_pos hquote]

/-- a field whose reader looks no further than one byte, however many levels are left -/
structure Field.Near {α : Type} (f : Field α) : Prop where
  stops : ∀ {depth a bs a' rest}, f.read depth a bs = .ok (a', rest) → Stops (f.read depth a) (a', ·) bs rest
  anyDepth : ∀ depth depth', f.read depth = f.read depth'

theorem Field.near_text {α : Type} (name expected : String) (set : String → α → α) (absent : Absent α) :
    (Field.of name (text expected) set absent).Near where
  stops := by
    intro depth a bs a' rest h
    obtain ⟨⟨s, mid⟩, hread, hthen⟩ := bind_eq_ok h
    cases hthen
    exact (text_closes hread).stops.bind (stops_ok _)
  anyDepth _ _ := rfl

section

variable {α : Type} {fields : List (Field α)} {depth : ℕ}

theorem readMember_stops (hfields : ∀ f ∈ fields, f.Near) : StepStops (readMember fields depth) := by
  intro s name bs s' rest h
  cases hfind : fields.find? (fun f => f.name == name) with
  | none =>
    have hf : readMember fields depth s name = fun bs => colon bs >>= fun bs => skip bs >>= fun bs => .ok (s, bs) := by
      funext bs
      simp only [readMember, hfind]
    rw [hf] at h ⊢
    obtain ⟨mid, hcolon, hthen⟩ := bind_eq_ok h
    obtain ⟨behind, hskip, hthen⟩ := bind_eq_ok hthen
    cases hthen
    exact (colon_closes hcolon).stops.bind ((skip_stops hskip).bind (stops_ok _))
  | some f =>
    have hnear := hfields f (List.mem_of_find?_eq_some hfind)
    by_cases hseen : s.1.contains name = true
    · simp only [readMember, hfind, if_pos hseen] at h
      cases h
    · have hf : readMember fields depth s name = fun bs => colon bs >>= fun bs => f.read depth s.2 bs >>= fun x =>
          .ok ((name :: s.1, x.1), x.2) := by
        funext bs
        simp only [readMember, hfind, if_neg hseen]
      rw [hf] at h ⊢
      obtain ⟨mid, hcolon, hthen⟩ := bind_eq_ok h
      obtain ⟨⟨a, behind⟩, hread, hthen⟩ := bind_eq_ok hthen
      cases hthen
      exact (colon_closes hcolon).stops.bind ((hnear.stops hread).bind (stops_ok _))

theorem readItems_stops {size : String} (hfields : ∀ f ∈ fields, f.Near) {i : ℕ} {a a' : α} {bs rest : Bytes}
    (h : readItems size depth fields i a bs = .ok (a', rest)) :
    Stops (readItems size depth fields i a) (a', ·) bs rest := by
  induction fields generalizing i a bs with
  | nil =>
    cases h
    exact stops_ok _
  | cons f fs ih =>
    have hfs : ∀ f ∈ fs, f.Near := fun f hf => hfields f (List.mem_cons_of_mem _ hf)
    obtain ⟨fname, read, absent⟩ := f
    rw [readItems] at h
    obtain ⟨⟨more, mid⟩, hnext, hthen⟩ := bind_eq_ok h
    have hstops := nextItem_stops hnext
    cases more with
    | true =>
      obtain ⟨⟨a₁, behind⟩, hread, hthen⟩ := bind_eq_ok hthen
      exact hstops.bind (((hfields _ List.mem_cons_self).stops hread).bind (ih hfs hthen))
    | false =>
      cases absent with
      | default set => exact hstops.bind (ih hfs hthen)
      | required => cases hthen
      | optional => cases hthen

/-- what is read of a record behind its brace -/
def recordMembers (fields : List (Field α)) (blank : α) (depth : ℕ) (r : Bytes) : Except Error (α × Bytes) := do
  let ((seen, a), r) ← foldMembers (readMember fields depth) (r.length + 1) true ([], blank) r
  let a ← fillAbsent fields seen a
  let r ← endObject r
  .ok (a, r)

theorem recordMembers_closes (hfields : ∀ f ∈ fields, f.Near) {blank a : α} {bs rest : Bytes}
    (h : recordMembers fields blank depth bs = .ok (a, rest)) :
    Closes (recordMembers fields blank depth) (a, ·) bs rest := by
  obtain ⟨⟨⟨seen, a₁⟩, mid⟩, hmembers, hthen⟩ := bind_eq_ok h
  obtain ⟨a₂, hfill, hthen⟩ := bind_eq_ok hthen
  obtain ⟨behind, hend, hthen⟩ := bind_eq_ok hthen
  cases hthen
  refine (members_stop (readMember_stops hfields) hmembers).bind_closes ?_
  simp only [hfill, bind, Except.bind]
  exact (endObject_closes hend).bind_ok fun _ => rfl

/-- what is read of a record behind its bracket -/
def recordItems (name : String) (fields : List (Field α)) (blank : α) (depth : ℕ) (r : Bytes) :
    Except Error (α × Bytes) := do
  let (a, r) ← readItems (withElements name fields.length) depth fields 0 blank r
  let r ← endArray r
  .ok (a, r)

theorem recordItems_closes {name : String} (hfields : ∀ f ∈ fields, f.Near) {blank a : α} {bs rest : Bytes}
    (h : recordItems name fields blank depth bs = .ok (a, rest)) :
    Closes (recordItems name fields blank depth) (a, ·) bs rest := by
  obtain ⟨⟨a₁, mid⟩, hitems, hthen⟩ := bind_eq_ok h
  obtain ⟨behind, hend, hthen⟩ := bind_eq_ok hthen
  cases hthen
  exact (readItems_stops hfields hitems).bind_closes ((endArray_closes hend).bind_ok fun _ => rfl)

/-- **A record** is read up to its closing sign. -/
theorem record_closes {name : String} {blank a : α} (hfields : ∀ f ∈ fields, f.Near) {bs rest : Bytes}
    (h : record name fields blank depth bs = .ok (a, rest)) :
    Closes (record name fields blank depth) (a, ·) bs rest := by
  cases hs : skipBlank bs with
  | nil => simp [record, hs] at h
  | cons b r =>
    simp only [record, hs] at h
    split_ifs at h with hbrace hdepth hbracket hdepth
    · refine (recordMembers_closes hfields h).sign hs fun bs r hs => ?_
      simp only [record, hs, if_pos hbrace, if_neg hdepth]
      rfl
    · refine (recordItems_closes hfields h).sign hs fun bs r hs => ?_
      simp only [record, hs, if_neg hbrace, if_pos hbracket, if_neg hdepth]
      rfl

/-- a record begins with a brace or a bracket -/
theorem record_starts {name : String} {blank a : α} {bs rest : Bytes}
    (h : record name fields blank depth bs = .ok (a, rest)) : ∃ c r, skipBlank bs = c :: r ∧ (c = 0x7B ∨ c = 0x5B) := by
  cases hs : skipBlank bs with
  | nil => simp [record, hs] at h
  | cons b r =>
    simp only [record, hs] at h
    split_ifs at h with hbrace hdepth hbracket hdepth
    · exact ⟨b, r, rfl, Or.inl hbrace⟩
    · exact ⟨b, r, rfl, Or.inr hbracket⟩

/-- a record ends with the closing sign that stands in front of what is left -/
theorem record_ends {name : String} {blank a : α} (hfields : ∀ f ∈ fields, f.Near) {bs rest : Bytes}
    (h : record name fields blank depth bs = .ok (a, rest)) : ∃ d, d :: rest <:+ bs ∧ (d = 0x7D ∨ d = 0x5D) := by
  have hsigns {bs r : Bytes} {b : UInt8} (hs : skipBlank bs = b :: r) : b :: r <:+ bs := hs ▸ List.dropWhile_suffix _
  cases hs : skipBlank bs with
  | nil => simp [record, hs] at h
  | cons b r =>
    have hr : r <:+ bs := (List.suffix_cons b r).trans (hsigns hs)
    simp only [record, hs] at h
    split_ifs at h with hbrace hdepth hbracket hdepth
    · obtain ⟨⟨⟨seen, a₁⟩, mid⟩, hmembers, hthen⟩ := bind_eq_ok h
      obtain ⟨a₂, hfill, hthen⟩ := bind_eq_ok hthen
      obtain ⟨behind, hend, hthen⟩ := bind_eq_ok hthen
      cases hthen
      have hmid := (members_stop (readMember_stops hfields) hmembers).suffix
      exact ⟨0x7D, (hsigns (endObject_eq_ok_iff.1 hend)).trans (hmid.trans hr), Or.inl rfl⟩
    · obtain ⟨⟨a₁, mid⟩, hitems, hthen⟩ := bind_eq_ok h
      obtain ⟨behind, hend, hthen⟩ := bind_eq_ok hthen
      cases hthen
      have hmid := (readItems_stops hfields hitems).suffix
      exact ⟨0x5D, (hsigns (endArray_eq_ok_iff.1 hend)).trans (hmid.trans hr), Or.inr rfl⟩

/-- blanks in front of a record do not matter -/
theorem record_skipBlank (name : String) (fields : List (Field α)) (blank : α) (depth : ℕ) (bs : Bytes) :
    record name fields blank depth (skipBlank bs) = record name fields blank depth bs := by
  have hidem : skipBlank (skipBlank bs) = skipBlank bs := by
    unfold skipBlank
    exact List.dropWhile_idempotent _ _
  simp only [record, hidem]

theorem readMember_depth (hfields : ∀ f ∈ fields, f.Near) (depth depth' : ℕ) :
    readMember fields depth = readMember fields depth' := by
  funext s name bs
  unfold readMember
  cases hfind : fields.find? (fun f => f.name == name) with
  | none => rfl
  | some f => simp only [(hfields f (List.mem_of_find?_eq_some hfind)).anyDepth depth depth']

theorem readItems_depth (hfields : ∀ f ∈ fields, f.Near) (size : String) (depth depth' : ℕ) :
    readItems size depth fields = readItems size depth' fields := by
  induction fields with
  | nil => rfl
  | cons f fs ih =>
    funext i a bs
    simp only [readItems, ih fun f hf => hfields f (List.mem_cons_of_mem _ hf),
      (hfields f List.mem_cons_self).anyDepth depth depth']

/-- how many levels are left does not matter, if one can be opened -/
theorem record_depth (name : String) (hfields : ∀ f ∈ fields, f.Near) (blank : α) {depth depth' : ℕ}
    (h : 1 < depth) (h' : 1 < depth') : record name fields blank depth = record name fields blank depth' := by
  funext bs
  simp only [record, if_neg (not_le.2 h), if_neg (not_le.2 h'), readMember_depth hfields (depth - 1) (depth' - 1),
    readItems_depth hfields _ (depth - 1) (depth' - 1)]

end

end ServiceMonitor.Json
