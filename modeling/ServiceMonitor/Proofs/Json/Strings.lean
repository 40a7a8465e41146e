import ServiceMonitor.Json.Scan
import ServiceMonitor.Proofs.Text.Utf8

/-!
A JSON string is read as it was written, whatever characters are in it.

Writing goes over characters, reading over bytes. `Passes` is what they have in common: some bytes at the front of a
string's body, read with any bytes before and behind, add given bytes to what has been read. It holds of each escaped
character (`passes_escapeChar`), and of one text behind another.
-/

namespace ServiceMonitor.Json

/-! ## One character -/

/-- reading `bs` inside a string adds `out` -/
def Passes (bs out : Bytes) : Prop :=
  ∃ k ≤ bs.length, ∀ fuel acc r, stringBytes (fuel + k) acc (bs ++ r) = stringBytes fuel (out.reverse ++ acc) r

theorem passes_nil : Passes [] [] := ⟨0, le_rfl, fun _ _ _ => rfl⟩

theorem Passes.append {bs out bs' out' : Bytes} (h : Passes bs out) (h' : Passes bs' out') :
    Passes (bs ++ bs') (out ++ out') := by
  obtain ⟨k, hk, h⟩ := h
  obtain ⟨k', hk', h'⟩ := h'
  refine ⟨k' + k, by rw [List.length_append]; omega, fun fuel acc r => ?_⟩
  rw [← Nat.add_assoc, List.append_assoc, h, h', List.reverse_append, List.append_assoc]

/-- bytes that stand for themselves -/
theorem passes_plain {bs : Bytes} (h : ∀ b ∈ bs, b ≠ 0x22 ∧ b ≠ 0x5C ∧ ¬b < 0x20) : Passes bs bs := by
  induction bs with
  | nil => exact passes_nil
  | cons b bs ih =>
    obtain ⟨hquote, hslash, hcontrol⟩ := h b List.mem_cons_self
    have hone : Passes [b] [b] := ⟨1, le_rfl, fun fuel acc r => by simp [stringBytes, hquote, hslash, hcontrol]⟩
    exact hone.append (ih fun c hc => h c (List.mem_cons_of_mem _ hc))

/-- a backslash with what it stands for -/
theorem passes_escape {bs out : Bytes} (h : ∀ r, escape (bs ++ r) = .ok (out, r)) : Passes (0x5C :: bs) out :=
  ⟨1, by simp, fun fuel acc r => by simp [stringBytes, h]⟩

/-- the bytes of a character beyond ASCII are beyond ASCII -/
theorem encodeChar_beyond {c : Char} (h : 0x80 ≤ c.toNat) : ∀ b ∈ Utf8.encodeChar c, 0x80 ≤ b.toNat := by
  have hvalid := Utf8.toNat_cases c
  have hbyte : ∀ n, 0x80 ≤ n → n < 256 → 0x80 ≤ n.toUInt8.toNat := fun n hlo hhi => by
    rw [Utf8.toNat_toUInt8 hhi]; exact hlo
  simp only [Utf8.encodeChar]
  split_ifs
  · omega
  all_goals
    simp only [List.mem_cons, List.not_mem_nil, or_false, forall_eq_or_imp, forall_eq]
    repeat' apply And.intro
    all_goals exact hbyte _ (by omega) (by omega)

theorem encodeChar_plain {c : Char} (hquote : c ≠ '"') (hslash : c ≠ '\\') (hcontrol : ¬c.toNat < 0x20) :
    ∀ b ∈ Utf8.encodeChar c, b ≠ 0x22 ∧ b ≠ 0x5C ∧ ¬b < 0x20 := by
  by_cases hascii : c.toNat < 0x80
  · rw [Utf8.encodeChar_ascii hascii]
    intro b hb
    rw [List.mem_singleton.1 hb]
    have hnat : c.toNat.toUInt8.toNat = c.toNat := Utf8.toNat_toUInt8 (by omega)
    refine ⟨fun h => hquote (Char.toNat_inj.1 ?_), fun h => hslash (Char.toNat_inj.1 ?_), fun h => hcontrol ?_⟩
    · rw [← hnat, h]; rfl
    · rw [← hnat, h]; rfl
    · rw [UInt8.lt_iff_toNat_lt, hnat] at h
      exact h
  · intro b hb
    have hbeyond := encodeChar_beyond (Nat.le_of_not_lt hascii) b hb
    refine ⟨?_, ?_, fun h => ?_⟩
    · rintro rfl
      exact absurd hbeyond (by decide)
    · rintro rfl
      exact absurd hbeyond (by decide)
    · rw [UInt8.lt_iff_toNat_lt] at h
      exact absurd (hbeyond.trans_lt h) (by decide)

/-- the escape of a control character with two digits -/
theorem escape_control : ∀ n < 0x20, ∀ r,
    escape (Utf8.encode ['u', '0', '0', Nat.digitChar (n / 16), Nat.digitChar (n % 16)] ++ r) =
      .ok (Utf8.encodeChar (Char.ofNat n), r) := by
  intro n hn r
  interval_cases n <;> rfl

theorem passes_escapeChar (c : Char) : Passes (Utf8.encode (escapeChar c)) (Utf8.encodeChar c) := by
  unfold escapeChar
  split_ifs with hquote hslash hnewline hreturn htab hback hfeed hcontrol
  · subst hquote; exact @passes_escape [0x22] _ fun _ => rfl
  · subst hslash; exact @passes_escape [0x5C] _ fun _ => rfl
  · subst hnewline; exact @passes_escape [0x6E] _ fun _ => rfl
  · subst hreturn; exact @passes_escape [0x72] _ fun _ => rfl
  · subst htab; exact @passes_escape [0x74] _ fun _ => rfl
  · subst hback; exact @passes_escape [0x62] _ fun _ => rfl
  · subst hfeed; exact @passes_escape [0x66] _ fun _ => rfl
  · have h := escape_control c.toNat hcontrol
    rw [Char.ofNat_toNat] at h
    exact passes_escape h
  · rw [Utf8.encode_cons, Utf8.encode, List.flatMap_nil, List.append_nil]
    exact passes_plain (encodeChar_plain hquote hslash hcontrol)

/-! ## Whole strings -/

/-- the bytes of a string between its quotes -/
def body (s : String) : Bytes := Utf8.encode (s.toList.flatMap escapeChar)

theorem encode_renderString (s : String) : Utf8.encode (renderString s) = 0x22 :: (body s ++ [0x22]) := by
  have hquote : Utf8.encodeChar '"' = [0x22] := rfl
  simp only [renderString, List.cons_append, Utf8.encode_cons, Utf8.encode_append, hquote, body]
  rfl

theorem passes_body (s : String) : Passes (body s) (Utf8.ofString s) := by
  unfold body Utf8.ofString
  induction s.toList with
  | nil => exact passes_nil
  | cons c cs ih =>
    rw [List.flatMap_cons, Utf8.encode_append, Utf8.encode_cons]
    exact (passes_escapeChar c).append ih

/-- **A string is read as it was written**, behind its opening quote and with anything behind it. -/
theorem string_body (s : String) (r : Bytes) : string (body s ++ 0x22 :: r) = .ok (s, r) := by
  obtain ⟨k, hk, h⟩ := passes_body s
  have hfuel : (body s ++ 0x22 :: r).length + 1 = (body s ++ 0x22 :: r).length - k + 1 + k := by
    rw [List.length_append, List.length_cons]
    omega
  have hbytes : stringBytes ((body s ++ 0x22 :: r).length + 1) [] (body s ++ 0x22 :: r) = .ok (Utf8.ofString s, r) := by
    rw [hfuel, h]
    simp [stringBytes]
  simp only [string, hbytes, bind, Except.bind, Utf8.toString?_ofString]

end ServiceMonitor.Json
