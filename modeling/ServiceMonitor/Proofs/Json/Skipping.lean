import ServiceMonitor.Proofs.Json.Lookahead

/-!
Passing over a value looks no further than the byte behind it.

Only a number needs that byte: its digits end where another byte stands. A value inside frames is passed over in turns
(`skipStep`, `skipStart`), each of which reads something or opens nothing new, so two units of fuel for each byte are enough
(`skip_passed`).

- `skipNumber_stops`: numbers of any form.
- `skip_stops`: values of any kind.
-/

namespace ServiceMonitor.Json

/-! ## Numbers -/

/-- bytes of a kind, up to the first that is of another -/
theorem dropWhile_stops {p : UInt8 → Bool} {bs more : Bytes} (hmore : more.head? = (bs.dropWhile p).head?) :
    (bs.takeWhile p ++ more).takeWhile p = bs.takeWhile p ∧ (bs.takeWhile p ++ more).dropWhile p = more := by
  have hstop : more.takeWhile p = [] ∧ more.dropWhile p = more := by
    cases more with
    | nil => exact ⟨rfl, rfl⟩
    | cons c more =>
      have hhead := List.head?_dropWhile_not p bs
      rw [← hmore] at hhead
      have hc : p c = false := by simpa using hhead
      exact ⟨List.takeWhile_cons_of_neg (by simp [hc]), List.dropWhile_cons_of_neg (by simp [hc])⟩
  have hfront : ∀ c ∈ bs.takeWhile p, p c = true := fun c hc => mem_takeWhile hc
  rw [List.takeWhile_append_of_pos hfront, List.dropWhile_append_of_pos hfront, hstop.1, hstop.2, List.append_nil]
  exact ⟨rfl, rfl⟩

/-- a reader that takes digits first, says by them whether it goes on, and goes on behind them -/
theorem stops_digits {β : Type} {f g : Bytes → Except Error β} {out : Bytes → β} (ok : Bytes → Prop)
    (hf : ∀ bs, ok (bs.takeWhile isDigitByte) → f bs = g (bs.dropWhile isDigitByte)) {bs rest : Bytes}
    (hok : ok (bs.takeWhile isDigitByte)) (hg : Stops g out (bs.dropWhile isDigitByte) rest) : Stops f out bs rest := by
  obtain ⟨front, hrest, hg⟩ := hg
  refine ⟨bs.takeWhile isDigitByte ++ front, ?_, fun more hmore => ?_⟩
  · rw [List.append_assoc, ← hrest, List.takeWhile_append_dropWhile]
  · have hhead : (front ++ more).head? = (bs.dropWhile isDigitByte).head? := by rw [hrest, head?_front hmore]
    obtain ⟨htake, hdrop⟩ := dropWhile_stops hhead
    rw [List.append_assoc, hf _ (by rw [htake]; exact hok), hdrop]
    exact hg more hmore

/-- passes over digits, one at least -/
def skipDigits (bs : Bytes) : Except Error (Unit × Bytes) :=
  match bs with
  | b :: _ => if isDigitByte b then .ok ((), bs.dropWhile isDigitByte) else .error .invalidNumber
  | [] => .error .invalidNumber

theorem skipDigits_eq (bs : Bytes) : skipDigits bs =
    if bs.takeWhile isDigitByte = [] then .error .invalidNumber else .ok ((), bs.dropWhile isDigitByte) := by
  cases bs with
  | nil => rfl
  | cons b r => by_cases hb : isDigitByte b = true <;> simp [skipDigits, hb]

theorem skipDigits_stops {bs rest : Bytes} (h : skipDigits bs = .ok ((), rest)) : Stops skipDigits ((), ·) bs rest := by
  rw [skipDigits_eq] at h
  split_ifs at h with hnone
  cases h
  exact stops_digits (· ≠ []) (fun bs hbs => by rw [skipDigits_eq, if_neg hbs]) hnone (stops_ok _)

/-- the first byte tells that it is to be taken, and how it goes on -/
theorem Stops.taking {β : Type} {f g : Bytes → Except Error β} {out : Bytes → β} {p : Option UInt8 → Prop}
    (hnone : ¬p none) (hf : ∀ bs, p bs.head? → f bs = g bs.tail) {bs rest : Bytes} (hp : p bs.head?)
    (hg : Stops g out bs.tail rest) : Stops f out bs rest := by
  have hne : bs ≠ [] := fun hnil => hnone (by simpa [hnil] using hp)
  obtain ⟨b, r, rfl⟩ := List.exists_cons_of_ne_nil hne
  exact hg.cons fun r => hf (b :: r) hp

/-- the first byte tells how it goes on, and is left there -/
theorem Stops.leaving {β : Type} {f g : Bytes → Except Error β} {out : Bytes → β} {p : Option UInt8 → Prop}
    (hf : ∀ bs, ¬p bs.head? → f bs = g bs) {bs rest : Bytes} (hp : ¬p bs.head?) (hg : Stops g out bs rest) :
    Stops f out bs rest := by
  obtain ⟨front, rfl, hg⟩ := hg
  refine ⟨front, rfl, fun more hmore => ?_⟩
  rw [hf _ (by rw [head?_front hmore]; exact hp)]
  exact hg more hmore

theorem head?_ne {b : UInt8} {bs : Bytes} (h : ∀ r, bs = b :: r → False) : bs.head? ≠ some b := by
  cases bs with
  | nil => simp
  | cons c r =>
    rintro heq
    obtain rfl : c = b := by simpa using heq
    exact h r rfl

/-- the digits of an exponent stand behind a sign, if there is one -/
theorem skipExponent_eq (bs : Bytes) :
    skipExponent bs = if bs.head? = some 0x2B ∨ bs.head? = some 0x2D then skipDigits bs.tail else skipDigits bs := by
  unfold skipExponent
  split
  · rfl
  · rfl
  · rename_i hplus hminus
    rw [if_neg (not_or.2 ⟨head?_ne hplus, head?_ne hminus⟩)]
    rfl

theorem skipExponent_stops {bs rest : Bytes} (h : skipExponent bs = .ok ((), rest)) :
    Stops skipExponent ((), ·) bs rest := by
  rw [skipExponent_eq] at h
  split_ifs at h with hsign
  · exact (skipDigits_stops h).taking (p := fun c => c = some 0x2B ∨ c = some 0x2D) (by simp)
      (fun bs hbs => by rw [skipExponent_eq, if_pos hbs]) hsign
  · exact (skipDigits_stops h).leaving (p := fun c => c = some 0x2B ∨ c = some 0x2D)
      (fun bs hbs => by rw [skipExponent_eq, if_neg hbs]) hsign

/-- passes over an exponent, if there is one -/
def skipPower : Bytes → Except Error (Unit × Bytes)
  | 0x65 :: r | 0x45 :: r => skipExponent r
  | r => .ok ((), r)

theorem skipPower_eq (bs : Bytes) :
    skipPower bs = if bs.head? = some 0x65 ∨ bs.head? = some 0x45 then skipExponent bs.tail else .ok ((), bs) := by
  unfold skipPower
  split
  · rfl
  · rfl
  · rename_i hlower hupper
    rw [if_neg (not_or.2 ⟨head?_ne hlower, head?_ne hupper⟩)]

theorem skipPower_stops {bs rest : Bytes} (h : skipPower bs = .ok ((), rest)) : Stops skipPower ((), ·) bs rest := by
  rw [skipPower_eq] at h
  split_ifs at h with hletter
  · exact (skipExponent_stops h).taking (p := fun c => c = some 0x65 ∨ c = some 0x45) (by simp)
      (fun bs hbs => by rw [skipPower_eq, if_pos hbs]) hletter
  · cases h
    exact (stops_ok _).leaving (p := fun c => c = some 0x65 ∨ c = some 0x45)
      (fun bs hbs => by rw [skipPower_eq, if_neg hbs]) hletter

/-- passes over the digits of a fraction and an exponent, if there is one -/
def skipFraction (bs : Bytes) : Except Error (Unit × Bytes) :=
  if bs.takeWhile isDigitByte = [] then .error .invalidNumber else skipPower (bs.dropWhile isDigitByte)

theorem skipFraction_stops {bs rest : Bytes} (h : skipFraction bs = .ok ((), rest)) : Stops skipFraction ((), ·) bs rest := by
  unfold skipFraction at h
  split_ifs at h with hnone
  exact stops_digits (· ≠ []) (fun bs hbs => if_neg hbs) hnone (skipPower_stops h)

/-- passes over a fraction and an exponent, if there are any -/
def skipParts (bs : Bytes) : Except Error (Unit × Bytes) :=
  if bs.head? = some 0x2E then skipFraction bs.tail else skipPower bs

theorem skipParts_stops {bs rest : Bytes} (h : skipParts bs = .ok ((), rest)) : Stops skipParts ((), ·) bs rest := by
  unfold skipParts at h
  split_ifs at h with hpoint
  · exact (skipFraction_stops h).taking (p := (· = some 0x2E)) (by simp) (fun bs hbs => if_pos hbs) hpoint
  · exact (skipPower_stops h).leaving (p := (· = some 0x2E)) (fun bs hbs => if_neg hbs) hpoint

/-- digits of a whole number: some, and no zero in front of others -/
def AreWhole (digits : Bytes) : Prop := digits ≠ [] ∧ (digits.head? = some 0x30 → digits.length = 1)

instance (digits : Bytes) : Decidable (AreWhole digits) := inferInstanceAs (Decidable (_ ∧ _))

/-- a zero in front of another digit -/
def isPadded (b : UInt8) (r : Bytes) : Bool := b = 0x30 && (match r with | c :: _ => isDigitByte c | [] => false)

theorem areWhole_iff {b : UInt8} (hb : isDigitByte b = true) (r : Bytes) :
    AreWhole ((b :: r).takeWhile isDigitByte) ↔ ¬isPadded b r = true := by
  rw [List.takeWhile_cons_of_pos hb]
  cases r with
  | nil => simp [AreWhole, isPadded]
  | cons c r => by_cases hc : isDigitByte c = true <;> simp [AreWhole, isPadded, hc]

/-- a number is digits with what may stand behind them -/
theorem skipNumber_eq (bs : Bytes) : skipNumber bs =
    if AreWhole (bs.takeWhile isDigitByte) then skipParts (bs.dropWhile isDigitByte) else .error .invalidNumber := by
  cases bs with
  | nil => rfl
  | cons b r =>
    by_cases hb : isDigitByte b = true
    · have hwhole := areWhole_iff hb r
      simp only [skipNumber, hb, Bool.not_true, Bool.false_eq_true, if_false]
      split_ifs with hzero hdigits hdigits
      · exact absurd hzero (hwhole.1 hdigits)
      · rfl
      · generalize (b :: r).dropWhile isDigitByte = behind
        split
        · rename_i r
          change _ = skipFraction r
          simp only [List.isEmpty_iff, skipFraction]
          rfl
        · rfl
        · rfl
        · rename_i hpoint hlower hupper
          rw [skipParts, if_neg (head?_ne hpoint), skipPower_eq,
            if_neg (not_or.2 ⟨head?_ne hlower, head?_ne hupper⟩)]
      · exact absurd (hwhole.2 hzero) hdigits
    · simp [skipNumber, AreWhole, hb]

/-- behind its first digit -/
theorem skipNumber_stops {b : UInt8} (hb : isDigitByte b = true) {r rest : Bytes}
    (h : skipNumber (b :: r) = .ok ((), rest)) : Stops (fun r => skipNumber (b :: r)) ((), ·) r rest := by
  rw [skipNumber_eq, List.takeWhile_cons_of_pos hb, List.dropWhile_cons_of_pos hb] at h
  split_ifs at h with hwhole
  refine stops_digits (fun digits => AreWhole (b :: digits)) (fun bs hbs => ?_) hwhole (skipParts_stops h)
  rw [skipNumber_eq, List.takeWhile_cons_of_pos hb, List.dropWhile_cons_of_pos hb, if_pos hbs]

/-! ## Passing over a value -/

/-- a value that is neither an array nor an object, by its first byte -/
def skipScalar (b : UInt8) (r : Bytes) : Except Error (Unit × Bytes) :=
  if b = 0x6E then restOfNull r
  else if b = 0x74 then restOfTrue r
  else if b = 0x66 then restOfFalse r
  else if b = 0x2D then skipNumber r
  else if isDigitByte b then skipNumber (b :: r)
  else if b = 0x22 then skipString (r.length + 1) r
  else .error .expectedValue

theorem skipScalar_stops {b : UInt8} {r rest : Bytes} (h : skipScalar b r = .ok ((), rest)) :
    Stops (skipScalar b) ((), ·) r rest := by
  unfold skipScalar at h ⊢
  split_ifs at h ⊢ with hnull htrue hfalse hminus hdigit hquote
  · exact literal_stops h
  · exact literal_stops h
  · exact literal_stops h
  · cases r with
    | nil => cases h
    | cons c r =>
      by_cases hc : isDigitByte c = true
      · exact (skipNumber_stops hc h).cons fun _ => rfl
      · simp [skipNumber, hc] at h
  · exact skipNumber_stops hdigit h
  · exact (skipString_closes h).closes.stops

/-- where a value begins: the frame that is opened, or none when a scalar was passed over -/
def skipStart (bs : Bytes) : Except Error (Option Frame × Bytes) :=
  match skipBlank bs with
  | [] => .error .eofValue
  | b :: r =>
    if b = 0x5B then .ok (some .bracket, r)
    else if b = 0x7B then .ok (some .brace, r)
    else (skipScalar b r).map fun x => (none, x.2)

/-- inside a frame: whether another value follows -/
def skipStep (f : Frame) (comma : Bool) (bs : Bytes) : Except Error (Bool × Bytes) :=
  match skipBlank bs with
  | [] => .error f.atEnd
  | b :: r =>
    if comma && b = 0x2C then (skipName f r).map (true, ·)
    else if b = f.close then .ok (false, r)
    else if comma then .error f.noComma
    else (skipName f (b :: r)).map (true, ·)

/-- behind a value inside frames -/
def skipAfter (fuel : ℕ) : List Frame → Bytes → Except Error Bytes
  | [], r => .ok r
  | f :: fs, r => skipRest fuel f fs true r

theorem skipValue_succ (fuel : ℕ) (fs : List Frame) (bs : Bytes) :
    skipValue (fuel + 1) fs bs = skipStart bs >>= fun x =>
      match x.1 with
      | some f => skipRest fuel f fs false x.2
      | none => skipAfter fuel fs x.2 := by
  rw [skipValue, skipStart]
  cases skipBlank bs with
  | nil => rfl
  | cons b r =>
    dsimp only
    by_cases hbracket : b = 0x5B
    · rw [if_pos hbracket, if_pos hbracket]; rfl
    · rw [if_neg hbracket, if_neg hbracket]
      by_cases hbrace : b = 0x7B
      · rw [if_pos hbrace, if_pos hbrace]; rfl
      · rw [if_neg hbrace, if_neg hbrace]
        rw [← skipScalar]
        cases skipScalar b r <;> cases fs <;> rfl

theorem skipRest_succ (fuel : ℕ) (f : Frame) (fs : List Frame) (comma : Bool) (bs : Bytes) :
    skipRest (fuel + 1) f fs comma bs = skipStep f comma bs >>= fun x =>
      if x.1 then skipValue fuel (f :: fs) x.2 else skipAfter fuel fs x.2 := by
  rw [skipRest, skipStep]
  cases skipBlank bs with
  | nil => rfl
  | cons b r =>
    dsimp only
    by_cases hcomma : (comma && decide (b = 0x2C)) = true
    · rw [if_pos hcomma, if_pos hcomma]
      cases skipName f r <;> rfl
    · rw [if_neg hcomma, if_neg hcomma]
      by_cases hclose : b = f.close
      · rw [if_pos hclose, if_pos hclose]
        cases fs <;> rfl
      · rw [if_neg hclose, if_neg hclose]
        cases comma with
        | true => rfl
        | false =>
          rw [if_neg Bool.false_ne_true, if_neg Bool.false_ne_true]
          cases skipName f (b :: r) <;> rfl

theorem skipStart_stops {x : Option Frame} {bs rest : Bytes} (h : skipStart bs = .ok (x, rest)) :
    Stops skipStart (x, ·) bs rest ∧ rest.length < bs.length := by
  cases hs : skipBlank bs with
  | nil => simp [skipStart, hs] at h
  | cons b r =>
    have hlt := length_lt_of_skipBlank hs
    simp only [skipStart, hs] at h
    split_ifs at h with hbracket hbrace
    · cases h
      exact ⟨(closes_sign hs fun bs r hs => by simp [skipStart, hs, hbracket]).stops, hlt⟩
    · cases h
      exact ⟨(closes_sign hs fun bs r hs => by simp [skipStart, hs, hbrace]).stops, hlt⟩
    · cases hscalar : skipScalar b r with
      | error e => rw [hscalar] at h; cases h
      | ok y =>
        rw [hscalar] at h
        cases h
        have hstops := skipScalar_stops hscalar
        exact ⟨(hstops.map fun y => (none, y.2)).sign hs fun bs r hs => by simp [skipStart, hs, hbracket, hbrace],
          hstops.length_le.trans_lt hlt⟩

/-- behind the comma there is a name, if the frame is an object -/
theorem skipName_stops {f : Frame} {bs rest : Bytes} (h : skipName f bs = .ok rest) : Stops (skipName f) id bs rest := by
  cases f with
  | bracket =>
    cases h
    exact stops_ok _
  | brace =>
    cases hs : skipBlank bs with
    | nil => simp [skipName, hs] at h
    | cons b r =>
      by_cases hquote : b = 0x22
      · have hf (bs r : Bytes) (hs : skipBlank bs = b :: r) :
            skipName .brace bs = skipString (r.length + 1) r >>= fun x => colon x.2 := by
          simp only [skipName, hs, hquote, if_true]
          rfl
        rw [hf bs r hs] at h
        obtain ⟨⟨⟨⟩, mid⟩, hstring, hcolon⟩ := bind_eq_ok h
        exact ((skipString_closes hstring).closes.stops.bind (colon_closes hcolon).stops).sign hs hf
      · simp [skipName, hs, hquote] at h

theorem skipStep_stops {f : Frame} {comma x : Bool} {bs rest : Bytes} (h : skipStep f comma bs = .ok (x, rest)) :
    Stops (skipStep f comma) (x, ·) bs rest ∧ (x = false → rest.length < bs.length) := by
  cases hs : skipBlank bs with
  | nil => simp [skipStep, hs] at h
  | cons b r =>
    simp only [skipStep, hs] at h
    split_ifs at h with hcomma hclose hmore
    · cases hname : skipName f r with
      | error e => rw [hname] at h; cases h
      | ok mid =>
        rw [hname] at h
        cases h
        refine ⟨((skipName_stops hname).map fun r => (true, r)).sign hs fun bs r hs => ?_, by rintro ⟨⟩⟩
        simp only [skipStep, hs, hcomma, if_true]
    · cases h
      refine ⟨(closes_sign hs fun bs r hs => ?_).stops, fun _ => length_lt_of_skipBlank hs⟩
      simp only [skipStep, hs, if_neg hcomma, if_pos hclose]
    · cases hname : skipName f (b :: r) with
      | error e => rw [hname] at h; cases h
      | ok mid =>
        rw [hname] at h
        cases h
        refine ⟨((skipName_stops hname).map fun r => (true, r)).from_sign hs fun bs r hs => ?_, by rintro ⟨⟩⟩
        simp only [skipStep, hs, if_neg hcomma, if_neg hclose, if_neg hmore]

/-- `f` passes over `bs` up to `rest` with two units of fuel for each byte, but for so many -/
def Passed (f : ℕ → Bytes → Except Error Bytes) (spared : ℕ) (bs rest : Bytes) : Prop :=
  ∃ front, bs = front ++ rest ∧
    ∀ fuel more, 2 * front.length ≤ fuel + spared → more.head? = rest.head? → f fuel (front ++ more) = .ok more

theorem Passed.behind {γ : Type} {h : Bytes → Except Error γ} {via : Bytes → γ}
    {f g : ℕ → Bytes → Except Error Bytes} {bs mid rest : Bytes} {spared spared' : ℕ} (hh : Stops h via bs mid)
    (hf : ∀ fuel bs mid, h bs = .ok (via mid) → f (fuel + 1) bs = g fuel mid) (hg : Passed g spared mid rest)
    (hlt : rest.length < bs.length) (hle : spared' ≤ 1)
    (hspared : 2 * mid.length + spared' + 1 ≤ 2 * bs.length + spared) : Passed f spared' bs rest := by
  obtain ⟨front, rfl, hh⟩ := hh
  obtain ⟨front', rfl, hg⟩ := hg
  refine ⟨front ++ front', (List.append_assoc _ _ _).symm, fun fuel more hfuel hmore => ?_⟩
  simp only [List.length_append] at hlt hspared hfuel
  obtain ⟨fuel, rfl⟩ := Nat.exists_eq_add_of_le' (show 1 ≤ fuel by omega)
  rw [List.append_assoc, hf fuel _ _ (hh _ (head?_front hmore))]
  exact hg fuel more (by omega) hmore

theorem skip_passed (fuel : ℕ) :
    (∀ fs bs rest, skipValue fuel fs bs = .ok rest → Passed (skipValue · fs) 1 bs rest ∧ rest.length < bs.length) ∧
    ∀ f fs comma bs rest, skipRest fuel f fs comma bs = .ok rest →
      Passed (skipRest · f fs comma) 0 bs rest ∧ rest.length < bs.length := by
  induction fuel with
  | zero => exact ⟨fun _ _ _ h => by simp [skipValue] at h, fun _ _ _ _ _ h => by simp [skipRest] at h⟩
  | succ fuel ih =>
    obtain ⟨ihValue, ihRest⟩ := ih
    have ihAfter (fs : List Frame) (bs rest : Bytes) (h : skipAfter fuel fs bs = .ok rest) :
        Passed (skipAfter · fs) 0 bs rest ∧ rest.length ≤ bs.length := by
      cases fs with
      | nil =>
        cases h
        exact ⟨⟨[], rfl, fun _ _ _ _ => rfl⟩, le_rfl⟩
      | cons f fs =>
        obtain ⟨hpassed, hlt⟩ := ihRest f fs true bs rest h
        exact ⟨hpassed, hlt.le⟩
    constructor
    · rintro fs bs rest h
      rw [skipValue_succ] at h
      obtain ⟨⟨x, mid⟩, hstart, hthen⟩ := bind_eq_ok h
      obtain ⟨hstops, hlt⟩ := skipStart_stops hstart
      cases x with
      | some f =>
        obtain ⟨hpassed, hrest⟩ := ihRest f fs false mid rest hthen
        have hlt := hrest.trans hlt
        refine ⟨hpassed.behind hstops (fun fuel bs mid hmid => ?_) hlt le_rfl (by omega), hlt⟩
        rw [skipValue_succ, hmid]
        rfl
      | none =>
        obtain ⟨hpassed, hrest⟩ := ihAfter fs mid rest hthen
        have hlt := hrest.trans_lt hlt
        refine ⟨hpassed.behind hstops (fun fuel bs mid hmid => ?_) hlt le_rfl (by omega), hlt⟩
        rw [skipValue_succ, hmid]
        rfl
    · rintro f fs comma bs rest h
      rw [skipRest_succ] at h
      obtain ⟨⟨x, mid⟩, hstep, hthen⟩ := bind_eq_ok h
      obtain ⟨hstops, hlt⟩ := skipStep_stops hstep
      have hle := hstops.length_le
      cases x with
      | true =>
        obtain ⟨hpassed, hrest⟩ := ihValue (f :: fs) mid rest hthen
        refine ⟨hpassed.behind hstops (fun fuel bs mid hmid => ?_) (by omega) (by omega) (by omega), by omega⟩
        rw [skipRest_succ, hmid]
        rfl
      | false =>
        have hlt := hlt rfl
        obtain ⟨hpassed, hrest⟩ := ihAfter fs mid rest hthen
        refine ⟨hpassed.behind hstops (fun fuel bs mid hmid => ?_) (by omega) (by omega) (by omega), by omega⟩
        rw [skipRest_succ, hmid]
        rfl

/-- **Passing over a value** stops at the byte behind it, whatever kind of value it is. -/
theorem skip_stops {bs rest : Bytes} (h : skip bs = .ok rest) : Stops skip id bs rest := by
  obtain ⟨⟨front, rfl, hpassed⟩, -⟩ := (skip_passed _).1 [] bs rest h
  refine ⟨front, rfl, fun more hmore => hpassed _ more ?_ hmore⟩
  rw [List.length_append]
  omega

end ServiceMonitor.Json
