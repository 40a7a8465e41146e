import ServiceMonitor.Proofs.Json.Mended

/-!
Values and records are read the same after their text was mended.

Numbers, literals and the signs between values are below 0x80. A value that is passed over takes as many turns as before,
each of them from mended bytes to mended bytes (`skipStart_mend`, `skipStep_mend`); so do the members of a record.

- `skip_mend`: passing over a value of any kind.
- `record_mend`: reading a record.
-/

namespace ServiceMonitor.Json

open Utf8 (mend)

/-! ## Numbers -/

/-- what is left of a reading, mended -/
def mendRest {β : Type} (x : β × Bytes) : β × Bytes := (x.1, mend x.2)

theorem takeDigits_mend (bs : Bytes) : (mend bs).takeWhile isDigitByte = bs.takeWhile isDigitByte :=
  Utf8.takeWhile_mend low_of_digit bs

theorem dropDigits_mend (bs : Bytes) : (mend bs).dropWhile isDigitByte = mend (bs.dropWhile isDigitByte) :=
  Utf8.dropWhile_mend low_of_digit bs

/-- behind a first byte below 0x80 -/
theorem tail_mend {b : UInt8} (hb : b.toNat < 0x80) {bs : Bytes} (h : bs.head? = some b) : (mend bs).tail = mend bs.tail := by
  obtain ⟨r, rfl⟩ := List.head?_eq_some_iff.1 h
  rw [Utf8.mend_cons hb]
  rfl

/-- one of two bytes below 0x80 is taken, if it is there -/
theorem taking_mend {β : Type} {f g : Bytes → Except Error (β × Bytes)} {x y : UInt8} (hx : x.toNat < 0x80)
    (hy : y.toNat < 0x80) (hf : ∀ bs, f (mend bs) = (f bs).map mendRest) (hg : ∀ bs, g (mend bs) = (g bs).map mendRest)
    (bs : Bytes) : (if (mend bs).head? = some x ∨ (mend bs).head? = some y then f (mend bs).tail else g (mend bs)) =
      (if bs.head? = some x ∨ bs.head? = some y then f bs.tail else g bs).map mendRest := by
  simp only [Utf8.head?_mend hx, Utf8.head?_mend hy]
  split_ifs with hsign
  · have htail : (mend bs).tail = mend bs.tail := by
      rcases hsign with h | h
      · exact tail_mend hx h
      · exact tail_mend hy h
    rw [htail, hf]
  · exact hg bs

theorem skipDigits_mend (bs : Bytes) : skipDigits (mend bs) = (skipDigits bs).map mendRest := by
  rw [skipDigits_eq, skipDigits_eq, takeDigits_mend, dropDigits_mend]
  split_ifs <;> rfl

theorem skipExponent_mend (bs : Bytes) : skipExponent (mend bs) = (skipExponent bs).map mendRest := by
  rw [skipExponent_eq, skipExponent_eq]
  exact taking_mend (by decide) (by decide) skipDigits_mend skipDigits_mend bs

theorem skipPower_mend (bs : Bytes) : skipPower (mend bs) = (skipPower bs).map mendRest := by
  rw [skipPower_eq, skipPower_eq]
  exact taking_mend (g := fun bs => .ok ((), bs)) (by decide) (by decide) skipExponent_mend (fun _ => rfl) bs

theorem skipFraction_mend (bs : Bytes) : skipFraction (mend bs) = (skipFraction bs).map mendRest := by
  rw [skipFraction, skipFraction, takeDigits_mend, dropDigits_mend]
  split_ifs
  · rfl
  · exact skipPower_mend _

theorem skipParts_mend (bs : Bytes) : skipParts (mend bs) = (skipParts bs).map mendRest := by
  have h := taking_mend (x := 0x2E) (y := 0x2E) (by decide) (by decide) skipFraction_mend skipPower_mend bs
  simp only [or_self] at h
  exact h

theorem skipNumber_mend (bs : Bytes) : skipNumber (mend bs) = (skipNumber bs).map mendRest := by
  rw [skipNumber_eq, skipNumber_eq, takeDigits_mend, dropDigits_mend]
  split_ifs
  · exact skipParts_mend _
  · rfl

/-! ## Passing over a value -/

theorem map_mendRest {f : Bytes → Except Error (Unit × Bytes)} (hf : ∀ bs, f (mend bs) = (f bs).map mendRest)
    {bs rest : Bytes} (h : f bs = .ok ((), rest)) : f (mend bs) = .ok ((), mend rest) := by
  rw [hf, h]
  rfl

/-- a value that is neither an array nor an object begins below 0x80 -/
theorem skipScalar_mend {b : UInt8} {r rest : Bytes} (h : skipScalar b r = .ok ((), rest)) :
    b.toNat < 0x80 ∧ skipScalar b (mend r) = .ok ((), mend rest) := by
  unfold skipScalar at h ⊢
  split_ifs at h ⊢ with hnull htrue hfalse hminus hdigit hquote
  · exact ⟨by rw [hnull]; decide, literal_mend (by simp) h⟩
  · exact ⟨by rw [htrue]; decide, literal_mend (by simp) h⟩
  · exact ⟨by rw [hfalse]; decide, literal_mend (by simp) h⟩
  · exact ⟨by rw [hminus]; decide, map_mendRest skipNumber_mend h⟩
  · have hb := low_of_digit b hdigit
    refine ⟨hb, ?_⟩
    rw [← Utf8.mend_cons hb]
    exact map_mendRest skipNumber_mend h
  · exact ⟨by rw [hquote]; decide, skipString_mend h⟩

theorem skipStart_mend {x : Option Frame} {bs rest : Bytes} (h : skipStart bs = .ok (x, rest)) :
    skipStart (mend bs) = .ok (x, mend rest) := by
  cases hs : skipBlank bs with
  | nil => simp [skipStart, hs] at h
  | cons b r =>
    simp only [skipStart, hs] at h
    split_ifs at h with hbracket hbrace
    · cases h
      simp only [skipStart, sign_mend hs (by rw [hbracket]; decide), if_pos hbracket]
    · cases h
      simp only [skipStart, sign_mend hs (by rw [hbrace]; decide), if_neg hbracket, if_pos hbrace]
    · cases hscalar : skipScalar b r with
      | error e => rw [hscalar] at h; cases h
      | ok y =>
        rw [hscalar] at h
        cases h
        obtain ⟨hb, hmend⟩ := skipScalar_mend hscalar
        simp only [skipStart, sign_mend hs hb, if_neg hbracket, if_neg hbrace, hmend]
        rfl

theorem skipName_mend {f : Frame} {bs rest : Bytes} (h : skipName f bs = .ok rest) :
    skipName f (mend bs) = .ok (mend rest) := by
  cases f with
  | bracket =>
    cases h
    rfl
  | brace =>
    cases hs : skipBlank bs with
    | nil => simp [skipName, hs] at h
    | cons b r =>
      by_cases hquote : b = 0x22
      · have hf {bs r : Bytes} (hs : skipBlank bs = 0x22 :: r) :
            skipName .brace bs = skipString (r.length + 1) r >>= fun x => colon x.2 := by
          simp only [skipName, hs, if_true]
          rfl
        subst hquote
        rw [hf hs] at h
        obtain ⟨⟨⟨⟩, mid⟩, hstring, hcolon⟩ := bind_eq_ok h
        rw [hf (sign_mend hs (by decide)), skipString_mend hstring]
        exact colon_mend hcolon
      · simp [skipName, hs, hquote] at h

theorem Frame.low_close (f : Frame) : f.close.toNat < 0x80 := by cases f <;> decide

theorem skipStep_mend {f : Frame} {comma x : Bool} {bs rest : Bytes} (h : skipStep f comma bs = .ok (x, rest)) :
    skipStep f comma (mend bs) = .ok (x, mend rest) := by
  cases hs : skipBlank bs with
  | nil => simp [skipStep, hs] at h
  | cons b r =>
    -- the first byte may be any, if it is neither a comma nor the closing sign
    obtain ⟨c, r', hs', hmend, hsame⟩ := from_sign_mend hs
    have hcomma : c = 0x2C ↔ b = 0x2C := hsame 0x2C (by decide)
    have hclose : c = f.close ↔ b = f.close := hsame f.close f.low_close
    have hmap {bs mid : Bytes} (hname : skipName f bs = .ok mid) (hrest : (true, mid) = (x, rest)) :
        (skipName f (mend bs)).map (true, ·) = .ok (x, mend rest) := by
      cases hrest
      rw [skipName_mend hname]
      rfl
    simp only [skipStep, hs] at h
    simp only [skipStep, hs', hcomma, hclose]
    split_ifs at h ⊢ with hb hb' hmore
    · have hlow : b.toNat < 0x80 := by
        rw [(of_decide_eq_true (Bool.and_eq_true_iff.1 hb).2)]
        decide
      rw [Utf8.mend_cons hlow] at hmend
      cases hmend
      cases hname : skipName f r with
      | error e => rw [hname] at h; cases h
      | ok mid =>
        rw [hname] at h
        exact hmap hname (Except.ok.inj h)
    · rw [Utf8.mend_cons (by rw [hb']; exact f.low_close)] at hmend
      cases hmend
      cases h
      rfl
    · rw [← hmend]
      cases hname : skipName f (b :: r) with
      | error e => rw [hname] at h; cases h
      | ok mid =>
        rw [hname] at h
        exact hmap hname (Except.ok.inj h)

/-- turn by turn, with the same fuel -/
theorem skip_mend_turns (fuel : ℕ) :
    (∀ fs bs rest, skipValue fuel fs bs = .ok rest → skipValue fuel fs (mend bs) = .ok (mend rest)) ∧
    ∀ f fs comma bs rest, skipRest fuel f fs comma bs = .ok rest →
      skipRest fuel f fs comma (mend bs) = .ok (mend rest) := by
  induction fuel with
  | zero => exact ⟨fun _ _ _ h => by simp [skipValue] at h, fun _ _ _ _ _ h => by simp [skipRest] at h⟩
  | succ fuel ih =>
    obtain ⟨ihValue, ihRest⟩ := ih
    have ihAfter (fs : List Frame) (bs rest : Bytes) (h : skipAfter fuel fs bs = .ok rest) :
        skipAfter fuel fs (mend bs) = .ok (mend rest) := by
      cases fs with
      | nil =>
        cases h
        rfl
      | cons f fs => exact ihRest f fs true bs rest h
    constructor
    · intro fs bs rest h
      rw [skipValue_succ] at h ⊢
      obtain ⟨⟨x, mid⟩, hstart, hthen⟩ := bind_eq_ok h
      rw [skipStart_mend hstart]
      cases x with
      | some f => exact ihRest f fs false mid rest hthen
      | none => exact ihAfter fs mid rest hthen
    · intro f fs comma bs rest h
      rw [skipRest_succ] at h ⊢
      obtain ⟨⟨x, mid⟩, hstep, hthen⟩ := bind_eq_ok h
      rw [skipStep_mend hstep]
      cases x with
      | true => exact ihValue (f :: fs) mid rest hthen
      | false => exact ihAfter fs mid rest hthen

/-- **A value that is passed over** is passed over after it was mended. -/
theorem skip_mend {bs rest : Bytes} (h : skip bs = .ok rest) : skip (mend bs) = .ok (mend rest) := by
  have hmend := (skip_mend_turns _).1 [] bs rest h
  obtain ⟨⟨front, hbs, hpassed⟩, -⟩ := (skip_passed _).1 [] _ _ hmend
  rw [hbs]
  refine hpassed _ (mend rest) ?_ rfl
  rw [List.length_append]
  omega

/-! ## Members and items -/

theorem nextMember_mend {first more : Bool} {bs rest : Bytes} (h : nextMember first bs = .ok (more, rest)) :
    nextMember first (mend bs) = .ok (more, mend rest) := by
  cases hs : skipBlank bs with
  | nil => simp [nextMember, hs] at h
  | cons b r =>
    simp only [nextMember, hs] at h
    split_ifs at h with hclose hfirst hquote hcomma
    · have hb : b.toNat < 0x80 := by rw [hclose]; decide
      cases h
      simp only [nextMember, sign_mend hs hb, if_pos hclose, Utf8.mend_cons hb]
    · cases h
      simp only [nextMember, sign_mend hs (by rw [hquote]; decide), if_neg hclose, if_pos hfirst, if_pos hquote]
    · simp only [nextMember, sign_mend hs (by rw [hcomma]; decide), if_neg hclose, if_neg hfirst, if_pos hcomma]
      cases hs' : skipBlank r with
      | nil => simp [hs'] at h
      | cons c r' =>
        simp only [hs'] at h
        split_ifs at h with hquote
        cases h
        simp only [sign_mend hs' (by rw [hquote]; decide), if_pos hquote]

/-- an item may begin with any byte but the closing sign -/
theorem nextItem_mend {first more : Bool} {bs rest : Bytes} (h : nextItem first bs = .ok (more, rest)) :
    nextItem first (mend bs) = .ok (more, mend rest) := by
  cases hs : skipBlank bs with
  | nil => simp [nextItem, hs] at h
  | cons b r =>
    obtain ⟨c, r', hs', hmend, hsame⟩ := from_sign_mend hs
    have hclose : c = 0x5D ↔ b = 0x5D := hsame 0x5D (by decide)
    have hcomma : c = 0x2C ↔ b = 0x2C := hsame 0x2C (by decide)
    simp only [nextItem, hs] at h
    simp only [nextItem, hs', hclose, hcomma]
    split_ifs at h ⊢ with hb hfirst hb'
    · cases h
      rw [hmend]
    · cases h
      rw [hmend]
    · rw [Utf8.mend_cons (by rw [hb']; decide)] at hmend
      cases hmend
      cases ht : skipBlank r with
      | nil => simp [ht] at h
      | cons d t =>
        obtain ⟨d', t', ht', hmend', hsame'⟩ := from_sign_mend ht
        simp only [ht] at h
        split_ifs at h with hbracket
        cases h
        simp only [ht', if_neg fun heq => hbracket ((hsame' 0x5D (by decide)).1 heq), hmend']

section

variable {σ : Type} {step : σ → String → Bytes → Except Error (σ × Bytes)}

/-- what is done with a member is done with the mended member -/
def StepMends (step : σ → String → Bytes → Except Error (σ × Bytes)) : Prop :=
  ∀ ⦃s name bs s' rest⦄, step s name bs = .ok (s', rest) → step s name (mend bs) = .ok (s', mend rest)

theorem takeMember_mend (hstep : StepMends step) {first : Bool} {s : σ} {x : Option σ} {bs rest : Bytes}
    (h : takeMember step first s bs = .ok (x, rest)) : takeMember step first s (mend bs) = .ok (x, mend rest) := by
  obtain ⟨⟨more, mid⟩, hnext, hthen⟩ := bind_eq_ok h
  cases more with
  | false =>
    cases hthen
    simp [takeMember, nextMember_mend hnext, bind, Except.bind]
  | true =>
    obtain ⟨⟨name, value⟩, hname, hthen⟩ := bind_eq_ok hthen
    obtain ⟨⟨s', behind⟩, hvalue, hthen⟩ := bind_eq_ok hthen
    cases hthen
    simp [takeMember, nextMember_mend hnext, string_mend hname, hstep hvalue, bind, Except.bind]

theorem foldMembers_mend (hstep : StepMends step) {fuel : ℕ} {first : Bool} {s s' : σ} {bs rest : Bytes}
    (h : foldMembers step fuel first s bs = .ok (s', rest)) :
    foldMembers step fuel first s (mend bs) = .ok (s', mend rest) := by
  induction fuel generalizing first s bs with
  | zero => cases h
  | succ fuel ih =>
    rw [foldMembers_succ] at h ⊢
    obtain ⟨⟨x, mid⟩, htake, hthen⟩ := bind_eq_ok h
    rw [takeMember_mend hstep htake]
    cases x with
    | none =>
      cases hthen
      rfl
    | some s₁ => exact ih hthen

theorem members_mend (hstops : StepStops step) (hmends : StepMends step) {first : Bool} {s s' : σ} {bs rest : Bytes}
    (h : foldMembers step (bs.length + 1) first s bs = .ok (s', rest)) :
    foldMembers step ((mend bs).length + 1) first s (mend bs) = .ok (s', mend rest) := by
  obtain ⟨front, hbs, hfront⟩ := foldMembers_stops hstops (foldMembers_mend hmends h)
  rw [hbs]
  refine hfront _ _ ?_ rfl
  rw [List.length_append]
  omega

end

/-! ## Records -/

theorem text_mend {expected : String} {depth : ℕ} {bs rest : Bytes} {s : String}
    (h : text expected depth bs = .ok (s, rest)) : text expected depth (mend bs) = .ok (s, mend rest) := by
  cases hs : skipBlank bs with
  | nil => simp [text, hs] at h
  | cons b r =>
    simp only [text, hs] at h
    split_ifs at h with hquote
    simp only [text, sign_mend hs (by rw [hquote]; decide), if_pos hquote]
    exact string_mend h

/-- a field that is read of the mended bytes as of the others -/
def Field.Mends {α : Type} (f : Field α) : Prop :=
  ∀ ⦃depth a bs a' rest⦄, f.read depth a bs = .ok (a', rest) → f.read depth a (mend bs) = .ok (a', mend rest)

theorem Field.mends_text {α : Type} (name expected : String) (set : String → α → α) (absent : Absent α) :
    (Field.of name (text expected) set absent).Mends := by
  intro depth a bs a' rest h
  obtain ⟨⟨s, mid⟩, hread, hthen⟩ := bind_eq_ok h
  cases hthen
  simp [Field.of, text_mend hread, bind, Except.bind]

section

variable {α : Type} {fields : List (Field α)} {depth : ℕ}

theorem readMember_mend (hfields : ∀ f ∈ fields, f.Mends) : StepMends (readMember fields depth) := by
  intro s name bs s' rest h
  unfold readMember at h ⊢
  cases hfind : fields.find? (fun f => f.name == name) with
  | none =>
    simp only [hfind] at h
    obtain ⟨mid, hcolon, hthen⟩ := bind_eq_ok h
    obtain ⟨behind, hskip, hthen⟩ := bind_eq_ok hthen
    cases hthen
    simp [colon_mend hcolon, skip_mend hskip, bind, Except.bind]
  | some f =>
    have hmends := hfields f (List.mem_of_find?_eq_some hfind)
    simp only [hfind] at h
    split_ifs at h with hseen
    obtain ⟨mid, hcolon, hthen⟩ := bind_eq_ok h
    obtain ⟨⟨a, behind⟩, hread, hthen⟩ := bind_eq_ok hthen
    cases hthen
    simp only [if_neg hseen, colon_mend hcolon, hmends hread, bind, Except.bind]

theorem readItems_mend {size : String} (hfields : ∀ f ∈ fields, f.Mends) {i : ℕ} {a a' : α} {bs rest : Bytes}
    (h : readItems size depth fields i a bs = .ok (a', rest)) :
    readItems size depth fields i a (mend bs) = .ok (a', mend rest) := by
  induction fields generalizing i a bs with
  | nil =>
    cases h
    rfl
  | cons f fs ih =>
    have hfs : ∀ f ∈ fs, f.Mends := fun f hf => hfields f (List.mem_cons_of_mem _ hf)
    have hf : f.Mends := hfields f List.mem_cons_self
    obtain ⟨fname, read, absent⟩ := f
    rw [readItems] at h ⊢
    obtain ⟨⟨more, mid⟩, hnext, hthen⟩ := bind_eq_ok h
    rw [nextItem_mend hnext]
    cases more with
    | true =>
      obtain ⟨⟨a₁, behind⟩, hread, hthen⟩ := bind_eq_ok hthen
      have hmend : read depth a (mend mid) = .ok (a₁, mend behind) := hf hread
      simp only [bind, Except.bind, if_true, hmend]
      exact ih hfs hthen
    | false =>
      cases absent with
      | default set => exact ih hfs hthen
      | required => cases hthen
      | optional => cases hthen

/-- **A record** is read of the mended bytes as of the others. -/
theorem record_mend {name : String} {blank a : α} (hnear : ∀ f ∈ fields, f.Near) (hmends : ∀ f ∈ fields, f.Mends)
    {bs rest : Bytes} (h : record name fields blank depth bs = .ok (a, rest)) :
    record name fields blank depth (mend bs) = .ok (a, mend rest) := by
  cases hs : skipBlank bs with
  | nil => simp [record, hs] at h
  | cons b r =>
    simp only [record, hs] at h
    split_ifs at h with hbrace hdepth hbracket hdepth
    · obtain ⟨⟨⟨seen, a₁⟩, mid⟩, hmembers, hthen⟩ := bind_eq_ok h
      obtain ⟨a₂, hfill, hthen⟩ := bind_eq_ok hthen
      obtain ⟨behind, hend, hthen⟩ := bind_eq_ok hthen
      cases hthen
      have hmend := members_mend (readMember_stops hnear) (readMember_mend hmends) hmembers
      simp only [record, sign_mend hs (by rw [hbrace]; decide), if_pos hbrace, if_neg hdepth, hmend, hfill,
        endObject_mend hend, bind, Except.bind]
    · obtain ⟨⟨a₁, mid⟩, hitems, hthen⟩ := bind_eq_ok h
      obtain ⟨behind, hend, hthen⟩ := bind_eq_ok hthen
      cases hthen
      simp only [record, sign_mend hs (by rw [hbracket]; decide), if_neg hbrace, if_pos hbracket, if_neg hdepth,
        readItems_mend hmends hitems, endArray_mend hend, bind, Except.bind]

end

end ServiceMonitor.Json
