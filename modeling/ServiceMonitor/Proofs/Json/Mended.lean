import ServiceMonitor.Proofs.Json.Records
import ServiceMonitor.Proofs.Text.Lossy

/-!
A text is read the same after it was mended.

Malformed UTF-8 is let through only where characters are not looked at, in the strings that are passed over. Everything else
that a reader takes is below 0x80, or belongs to a string whose characters are well-formed. So a reader that takes something
off the front of some bytes takes the same off the mended bytes, and leaves the rest mended: that is what each lemma here
says of one reader (`_mend`).

- `string_mend`: a string that is read is kept byte for byte (`Kept`).
- `skipString_mend`: one that is passed over may change, and is passed over all the same.
-/

namespace ServiceMonitor.Json

open Utf8 (IsHigh State mend mendFrom)

/-! ## Bytes below 0x80 -/

theorem low_of_blank : ∀ b, isBlankByte b = true → b.toNat < 0x80 := by
  intro b hb
  simp only [isBlankByte, Bool.or_eq_true, decide_eq_true_eq] at hb
  rcases hb with ((rfl | rfl) | rfl) | rfl <;> decide

theorem low_of_digit : ∀ b, isDigitByte b = true → b.toNat < 0x80 := by
  intro b hb
  simp only [isDigitByte, Bool.and_eq_true, decide_eq_true_eq, UInt8.le_iff_toNat_le] at hb
  exact hb.2.trans_lt (by decide)

theorem skipBlank_mend (bs : Bytes) : skipBlank (mend bs) = mend (skipBlank bs) :=
  Utf8.dropWhile_mend low_of_blank bs

/-- the first byte that is no blank, if it is below 0x80 -/
theorem sign_mend {bs r : Bytes} {b : UInt8} (hs : skipBlank bs = b :: r) (hb : b.toNat < 0x80) :
    skipBlank (mend bs) = b :: mend r := by
  rw [skipBlank_mend, hs, Utf8.mend_cons hb]

/-- whatever the first byte is, it is compared with those below 0x80 as before -/
theorem from_sign_mend {bs r : Bytes} {b : UInt8} (hs : skipBlank bs = b :: r) :
    ∃ c r', skipBlank (mend bs) = c :: r' ∧ mend (b :: r) = c :: r' ∧ ∀ x : UInt8, x.toNat < 0x80 → (c = x ↔ b = x) := by
  have hhead := fun (x : UInt8) (hx : x.toNat < 0x80) => Utf8.head?_mend hx (b :: r)
  rw [skipBlank_mend, hs]
  cases hmend : mend (b :: r) with
  | nil =>
    exfalso
    by_cases hb : IsHigh b
    · obtain ⟨c, r', hcons, -⟩ := Utf8.mend_cons_high hb r
      exact nomatch hmend.symm.trans hcons
    · exact nomatch hmend.symm.trans (Utf8.mend_cons (Nat.lt_of_not_le hb) r)
  | cons c r' =>
    rw [hmend] at hhead
    exact ⟨c, r', rfl, rfl, fun x hx => by simpa using hhead x hx⟩

/-! ## What is kept -/

/-- what stands in front of `rest` is kept as it is, whatever stands behind -/
def Kept (bs rest : Bytes) : Prop := ∃ front, bs = front ++ rest ∧ ∀ more, mend (front ++ more) = front ++ mend more

/-- what stands in front of `rest` is below 0x80 -/
def Low (bs rest : Bytes) : Prop := ∃ front, bs = front ++ rest ∧ ∀ b ∈ front, b.toNat < 0x80

theorem Low.kept {bs rest : Bytes} (h : Low bs rest) : Kept bs rest := by
  obtain ⟨front, hbs, hlow⟩ := h
  exact ⟨front, hbs, fun more => Utf8.mend_low hlow more⟩

theorem low_refl (bs : Bytes) : Low bs bs := ⟨[], rfl, nofun⟩

theorem Low.cons {bs rest : Bytes} {b : UInt8} (hb : b.toNat < 0x80) (h : Low bs rest) : Low (b :: bs) rest := by
  obtain ⟨front, rfl, hlow⟩ := h
  exact ⟨b :: front, rfl, List.forall_mem_cons.2 ⟨hb, hlow⟩⟩

theorem Low.trans {bs mid rest : Bytes} (h : Low bs mid) (h' : Low mid rest) : Low bs rest := by
  obtain ⟨front, rfl, hlow⟩ := h
  obtain ⟨front', rfl, hlow'⟩ := h'
  exact ⟨front ++ front', (List.append_assoc _ _ _).symm, List.forall_mem_append.2 ⟨hlow, hlow'⟩⟩

theorem Kept.mend_eq {bs rest : Bytes} (h : Kept bs rest) : ∃ front, bs = front ++ rest ∧ mend bs = front ++ mend rest := by
  obtain ⟨front, rfl, hkept⟩ := h
  exact ⟨front, rfl, hkept rest⟩

/-- a reader that closes in front of what may change does as before -/
theorem Closes.mend {β : Type} {f : Bytes → Except Error β} {out : Bytes → β} {bs rest : Bytes}
    (h : Closes f out bs rest) (hkept : Kept bs rest) : f (Utf8.mend bs) = .ok (out (Utf8.mend rest)) := by
  obtain ⟨front, -, rfl, hf⟩ := h
  obtain ⟨front', hfront, hmend⟩ := hkept.mend_eq
  obtain rfl := List.append_cancel_right hfront
  rw [hmend, hf]

/-! ## Signs and literals -/

theorem colon_mend {bs rest : Bytes} (h : colon bs = .ok rest) : colon (mend bs) = .ok (mend rest) :=
  colon_eq_ok_iff.2 (sign_mend (colon_eq_ok_iff.1 h) (by decide))

theorem endObject_mend {bs rest : Bytes} (h : endObject bs = .ok rest) : endObject (mend bs) = .ok (mend rest) :=
  endObject_eq_ok_iff.2 (sign_mend (endObject_eq_ok_iff.1 h) (by decide))

theorem endArray_mend {bs rest : Bytes} (h : endArray bs = .ok rest) : endArray (mend bs) = .ok (mend rest) :=
  endArray_eq_ok_iff.2 (sign_mend (endArray_eq_ok_iff.1 h) (by decide))

theorem literal_mend {ws bs rest : Bytes} (hws : ∀ w ∈ ws, w.toNat < 0x80) (h : literal ws bs = .ok ((), rest)) :
    literal ws (mend bs) = .ok ((), mend rest) := by
  induction ws generalizing bs with
  | nil =>
    cases h
    rfl
  | cons w ws ih =>
    obtain ⟨hw, hws⟩ := List.forall_mem_cons.1 hws
    cases bs with
    | nil => cases h
    | cons b bs =>
      simp only [literal] at h
      split_ifs at h with heq
      subst heq
      rw [Utf8.mend_cons hw, literal, if_pos rfl]
      exact ih hws h

/-! ## Escapes -/

theorem low_of_hexValue {b : UInt8} {n : ℕ} (h : hexValue b = some n) : b.toNat < 0x80 := by
  unfold hexValue at h
  simp only [Bool.and_eq_true, decide_eq_true_eq, UInt8.le_iff_toNat_le] at h
  split_ifs at h with hdigit hlower hupper
  · exact hdigit.2.trans_lt (by decide)
  · exact hlower.2.trans_lt (by decide)
  · exact hupper.2.trans_lt (by decide)

theorem hexEscape_low {bs rest : Bytes} {n : ℕ} (h : hexEscape bs = .ok (n, rest)) : Low bs rest := by
  unfold hexEscape at h
  split at h
  · split at h
    · rename_i ha hb hc hd
      cases h
      exact (((low_refl _).cons (low_of_hexValue hd)).cons (low_of_hexValue hc)).cons (low_of_hexValue hb) |>.cons
        (low_of_hexValue ha)
    · cases h
  · cases h

theorem trailingSurrogate_low {lead : ℕ} {bs out rest : Bytes} (h : trailingSurrogate lead bs = .ok (out, rest)) :
    Low bs rest ∧ ∃ c, out = Utf8.encodeChar c := by
  unfold trailingSurrogate at h
  split at h
  · cases h
  · cases h
  · obtain ⟨⟨n, r⟩, hhex, h⟩ := bind_eq_ok h
    dsimp only at h
    split_ifs at h
    rw [Except.ok.injEq, Prod.mk.injEq] at h
    obtain ⟨rfl, rfl⟩ := h
    exact ⟨((hexEscape_low hhex).cons (by decide)).cons (by decide), _, rfl⟩
  · cases h

/-- an escape is below 0x80, and stands for one character -/
theorem escape_low {bs out rest : Bytes} (h : escape bs = .ok (out, rest)) :
    Low bs rest ∧ ∃ c, out = Utf8.encodeChar c := by
  cases bs with
  | nil => cases h
  | cons b r =>
    by_cases hu : b = 0x75
    · subst hu
      change (hexEscape r >>= _) = _ at h
      obtain ⟨⟨n, mid⟩, hhex, hthen⟩ := bind_eq_ok h
      clear h
      have hlow := (hexEscape_low hhex).cons (b := 0x75) (by decide)
      dsimp only at hthen
      split_ifs at hthen
      · obtain ⟨hlow', hchar⟩ := trailingSurrogate_low hthen
        exact ⟨hlow.trans hlow', hchar⟩
      · rw [Except.ok.injEq, Prod.mk.injEq] at hthen
        obtain ⟨rfl, rfl⟩ := hthen
        exact ⟨hlow, _, rfl⟩
    · simp only [escape, hu, if_false] at h
      split_ifs at h with hself hb hf hn hr ht
      · cases h
        simp only [Bool.or_eq_true, decide_eq_true_eq] at hself
        rcases hself with (rfl | rfl) | rfl
        · exact ⟨(low_refl _).cons (by decide), '"', rfl⟩
        · exact ⟨(low_refl _).cons (by decide), '\\', rfl⟩
        · exact ⟨(low_refl _).cons (by decide), '/', rfl⟩
      all_goals
        cases h
        subst b
      · exact ⟨(low_refl _).cons (by decide), Char.ofNat 0x08, rfl⟩
      · exact ⟨(low_refl _).cons (by decide), Char.ofNat 0x0C, rfl⟩
      · exact ⟨(low_refl _).cons (by decide), Char.ofNat 0x0A, rfl⟩
      · exact ⟨(low_refl _).cons (by decide), Char.ofNat 0x0D, rfl⟩
      · exact ⟨(low_refl _).cons (by decide), Char.ofNat 0x09, rfl⟩

theorem skipEscape_low {bs rest : Bytes} (h : skipEscape bs = .ok rest) : Low bs rest := by
  cases bs with
  | nil => cases h
  | cons e r =>
    simp only [skipEscape] at h
    split_ifs at h with hu hletter
    · cases hhex : hexEscape r with
      | error e => rw [hhex] at h; cases h
      | ok x =>
        rw [hhex] at h
        cases h
        exact (hexEscape_low hhex).cons (by rw [hu]; decide)
    · cases h
      have hlow : ∀ x ∈ [0x22, 0x5C, 0x2F, 0x62, 0x66, 0x6E, 0x72, (0x74 : UInt8)], x.toNat < 0x80 := by simp
      exact (low_refl _).cons (hlow e (List.contains_iff_mem.1 hletter))

/-! ## Strings -/

/-- a written character is read whole, and only between characters -/
theorem none_notMem_read_encodeChar {s : State} (hs : s.Sound) (c : Char) (bs : Bytes)
    (h : none ∉ Utf8.read s (Utf8.encodeChar c ++ bs)) : s = .start ∧ none ∉ Utf8.read .start bs := by
  obtain ⟨b, r, hchar, hb⟩ := Utf8.encodeChar_head c
  cases s with
  | start =>
    rw [Utf8.read_encodeChar] at h
    exact ⟨rfl, fun hmem => h (List.mem_cons_of_mem _ hmem)⟩
  | inside need acc lo hi =>
    obtain ⟨hlow, hhigh⟩ := hs.tail
    rw [hchar, List.cons_append, Utf8.read_cons, Utf8.feed, if_neg (by omega)] at h
    exact absurd List.mem_cons_self h

theorem none_notMem_read_low {front : Bytes} (hfront : ∀ b ∈ front, b.toNat < 0x80) {bs : Bytes}
    (h : none ∉ Utf8.read .start bs) : none ∉ Utf8.read .start (front ++ bs) := by
  induction front with
  | nil => exact h
  | cons b front ih =>
    obtain ⟨hb, hfront⟩ := List.forall_mem_cons.1 hfront
    rw [List.cons_append, Utf8.read_low .start hb]
    have hrest := ih hfront
    simpa [Utf8.read] using hrest

/-- the bytes of a string are as well-formed as the text that they stand for -/
theorem stringBytes_wellFormed {fuel : ℕ} {acc bs text rest : Bytes} (h : stringBytes fuel acc bs = .ok (text, rest)) :
    ∃ content behind, bs = content ++ 0x22 :: rest ∧ text = acc.reverse ++ behind ∧
      ∀ s : State, s.Sound → none ∉ Utf8.read s behind → none ∉ Utf8.read s content := by
  induction fuel generalizing acc bs with
  | zero => cases h
  | succ fuel ih =>
    cases bs with
    | nil => cases h
    | cons b r =>
      simp only [stringBytes] at h
      split_ifs at h with hquote hslash hcontrol
      · cases h
        exact ⟨[], [], by rw [hquote]; rfl, (List.append_nil _).symm, fun _ _ hwell => hwell⟩
      · cases hescape : escape r with
        | error e => rw [hescape] at h; cases h
        | ok x =>
          obtain ⟨out, mid⟩ := x
          rw [hescape] at h
          obtain ⟨⟨front, rfl, hlow⟩, c, rfl⟩ := escape_low hescape
          obtain ⟨content, behind, rfl, rfl, hcontent⟩ := ih h
          refine ⟨b :: (front ++ content), Utf8.encodeChar c ++ behind, by simp, by simp, fun s hs hwell => ?_⟩
          obtain ⟨hstart, hbehind⟩ := none_notMem_read_encodeChar hs c behind hwell
          have hfront : ∀ x ∈ b :: front, x.toNat < 0x80 := List.forall_mem_cons.2 ⟨by rw [hslash]; decide, hlow⟩
          subst hstart
          exact none_notMem_read_low hfront (hcontent .start .start hbehind)
      · obtain ⟨content, behind, rfl, rfl, hcontent⟩ := ih h
        refine ⟨b :: content, b :: behind, rfl, by simp, fun s hs hwell => ?_⟩
        rw [Utf8.read_cons, List.mem_append, not_or] at hwell ⊢
        exact ⟨hwell.1, hcontent _ (Utf8.feed_sound hs b) hwell.2⟩

theorem none_notMem_of_decode {bs : Bytes} {cs : List Char} (h : Utf8.decode bs = some cs) : none ∉ Utf8.read .start bs := by
  unfold Utf8.decode at h
  generalize Utf8.read .start bs = out at h
  induction out generalizing cs with
  | nil => exact List.not_mem_nil
  | cons x out ih =>
    cases x with
    | none => simp at h
    | some c =>
      rw [List.mapM_cons] at h
      cases hout : out.mapM id with
      | none => simp [hout] at h
      | some ds => simpa using ih hout

/-- **A string that is read** is kept. -/
theorem string_kept {bs rest : Bytes} {s : String} (h : string bs = .ok (s, rest)) : Kept bs rest := by
  obtain ⟨⟨text, mid⟩, hbytes, hthen⟩ := bind_eq_ok h
  dsimp only at hthen
  split at hthen
  · rename_i s' htext
    cases hthen
    obtain ⟨content, behind, rfl, rfl, hcontent⟩ := stringBytes_wellFormed hbytes
    obtain ⟨cs, hdecode, -⟩ := Option.map_eq_some_iff.1 htext
    have hwell : none ∉ Utf8.read .start content := hcontent .start .start (none_notMem_of_decode hdecode)
    refine ⟨content ++ [0x22], by simp, fun more => ?_⟩
    have hmend := Utf8.mend_append content (b := 0x22) (by decide) more
    rw [List.append_assoc, List.singleton_append, hmend, Utf8.mend_wellFormed hwell, List.append_assoc,
      List.singleton_append]
  · cases hthen

theorem string_mend {bs rest : Bytes} {s : String} (h : string bs = .ok (s, rest)) :
    string (mend bs) = .ok (s, mend rest) :=
  (string_closes h).mend (string_kept h)

/-- a byte that is no backslash -/
theorem skipString_cons {b : UInt8} (hslash : b ≠ 0x5C) (fuel : ℕ) (r : Bytes) :
    skipString (fuel + 1) (b :: r) =
      if b = 0x22 then .ok ((), r) else if b < 0x20 then .error .controlCharacter else skipString fuel r := by
  simp only [skipString, hslash, if_false]

/-- bytes from 0x80 on are passed over in a string -/
theorem skipString_high {front : Bytes} (h : ∀ b ∈ front, IsHigh b) (fuel : ℕ) (bs : Bytes) :
    skipString (front.length + fuel) (front ++ bs) = skipString fuel bs := by
  induction front with
  | nil => rw [List.length_nil, Nat.zero_add, List.nil_append]
  | cons b front ih =>
    obtain ⟨hb, hfront⟩ := List.forall_mem_cons.1 h
    have hne (x : UInt8) (hx : x.toNat < 0x80) : b ≠ x := fun heq => absurd (heq ▸ hb) (Nat.not_le.2 hx)
    have hcontrol : ¬b < 0x20 := by
      rw [UInt8.lt_iff_toNat_lt]
      exact Nat.not_lt.2 (Nat.le_trans (by decide) hb)
    rw [List.length_cons, Nat.succ_add, List.cons_append, skipString_cons (hne 0x5C (by decide)),
      if_neg (hne 0x22 (by decide)), if_neg hcontrol]
    exact ih hfront

/-- what is read up to a byte below 0x80 is passed over in front of it -/
theorem skipString_low {s : State} (hs : s.Sound) {b : UInt8} (hb : b.toNat < 0x80) {r rest : Bytes} (fuel : ℕ)
    (h : skipString fuel (b :: mend r) = .ok ((), rest)) :
    ∃ fuel', skipString fuel' (mendFrom s (b :: r)) = .ok ((), rest) := by
  refine ⟨(mendFrom s []).length + fuel, ?_⟩
  have hsplit := Utf8.mendFrom_append hs [] hb r
  rw [List.nil_append] at hsplit
  rw [hsplit, skipString_high (Utf8.high_mendFrom_nil s), h]

/-- byte by byte, from any state of the reader of characters -/
theorem skipString_mendFrom {fuel : ℕ} {bs rest : Bytes} (h : skipString fuel bs = .ok ((), rest)) {s : State}
    (hs : s.Sound) : ∃ fuel', skipString fuel' (mendFrom s bs) = .ok ((), mend rest) := by
  induction fuel generalizing bs s with
  | zero => cases h
  | succ fuel ih =>
    cases bs with
    | nil => cases h
    | cons b r =>
      by_cases hslash : b = 0x5C
      · subst hslash
        rw [skipString_slash] at h
        obtain ⟨mid, hescape, hthen⟩ := bind_eq_ok h
        obtain ⟨fuel', hrest⟩ := ih hthen .start
        refine skipString_low hs (by decide) (fuel' + 1) ?_
        rw [skipString_slash, (skipEscape_closes hescape).mend (skipEscape_low hescape).kept]
        exact hrest
      · rw [skipString_cons hslash] at h
        split_ifs at h with hquote hcontrol
        · cases h
          exact skipString_low hs (by rw [hquote]; decide) 1 (by rw [skipString_cons hslash, if_pos hquote])
        · by_cases hb : IsHigh b
          · obtain ⟨fuel', hrest⟩ := ih h (Utf8.feed_sound hs b)
            refine ⟨(Utf8.rewritten (Utf8.feed s b).2).length + fuel', ?_⟩
            rw [Utf8.mendFrom_cons, skipString_high (Utf8.high_feed hs hb), hrest]
          · obtain ⟨fuel', hrest⟩ := ih h .start
            refine skipString_low hs (Nat.lt_of_not_le hb) (fuel' + 1) ?_
            rw [skipString_cons hslash, if_neg hquote, if_neg hcontrol]
            exact hrest

/-- **A string that is passed over** is passed over after it was mended. -/
theorem skipString_mend {bs rest : Bytes} (h : skipString (bs.length + 1) bs = .ok ((), rest)) :
    skipString ((mend bs).length + 1) (mend bs) = .ok ((), mend rest) := by
  obtain ⟨fuel, hmend⟩ := skipString_mendFrom h .start
  obtain ⟨front, -, hbs, hclose⟩ := skipString_closes hmend
  rw [Utf8.mendFrom_start] at hbs
  rw [hbs]
  refine hclose _ _ ?_
  rw [List.length_append]
  omega

end ServiceMonitor.Json
