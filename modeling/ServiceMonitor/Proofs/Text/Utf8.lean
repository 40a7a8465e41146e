import Mathlib.Tactic
import ServiceMonitor.Text.Utf8

/-!
UTF-8 is read as it was written.

A written character brings the reader from between characters to between characters and comes out whole
(`read_encodeChar`), so that a text is the only one with its bytes (`decode_encode`, `ofString_injective`).
-/

namespace ServiceMonitor.Utf8

/-! ## Bytes -/

theorem toNat_toUInt8 {n : ℕ} (h : n < 256) : n.toUInt8.toNat = n := by
  rw [Nat.toUInt8_eq, UInt8.toNat_ofNat_of_lt' h]

/-- a code point is no surrogate, and there are 17 planes -/
theorem toNat_cases (c : Char) : c.toNat < 0xD800 ∨ 0xDFFF < c.toNat ∧ c.toNat < 0x110000 := c.valid

theorem read_start_cons (b : UInt8) (bs : List UInt8) : read .start (b :: bs) = (enter b).2 ++ read (enter b).1 bs := rfl

theorem read_inside_cons {need acc lo hi : ℕ} {b : UInt8} (h : lo ≤ b.toNat ∧ b.toNat ≤ hi) (bs : List UInt8) :
    read (.inside (need + 2) acc lo hi) (b :: bs) =
      read (.inside (need + 1) (acc * 0x40 + (b.toNat - 0x80)) 0x80 0xBF) bs := by
  simp [read, feed, h]

theorem read_inside_last {acc lo hi : ℕ} {b : UInt8} (h : lo ≤ b.toNat ∧ b.toNat ≤ hi) (bs : List UInt8) :
    read (.inside 1 acc lo hi) (b :: bs) = some (Char.ofNat (acc * 0x40 + (b.toNat - 0x80))) :: read .start bs := by
  simp [read, feed, h]

/-- a byte that continues a character -/
theorem toNat_tail (n : ℕ) : (0x80 + n % 0x40).toUInt8.toNat = 0x80 + n % 0x40 := toNat_toUInt8 (by omega)

/-! ## Characters -/

section

variable {c : Char} (bs : List UInt8)

theorem read_one (h : c.toNat < 0x80) : read .start (c.toNat.toUInt8 :: bs) = some c :: read .start bs := by
  have hb : c.toNat.toUInt8.toNat = c.toNat := toNat_toUInt8 (by omega)
  simp [read_start_cons, enter, hb, h, Char.ofNat_toNat]

theorem read_two (h : 0x80 ≤ c.toNat) (h' : c.toNat < 0x800) :
    read .start ((0xC0 + c.toNat / 0x40).toUInt8 :: (0x80 + c.toNat % 0x40).toUInt8 :: bs) =
      some c :: read .start bs := by
  have hb : (0xC0 + c.toNat / 0x40).toUInt8.toNat = 0xC0 + c.toNat / 0x40 := toNat_toUInt8 (by omega)
  have hfirst : enter (0xC0 + c.toNat / 0x40).toUInt8 = (.inside 1 (c.toNat / 0x40) 0x80 0xBF, []) := by
    simp only [enter, hb]
    rw [if_neg (by omega), if_neg (by omega), if_pos (by omega), Nat.add_sub_cancel_left]
  have hnat : c.toNat / 0x40 * 0x40 + (0x80 + c.toNat % 0x40 - 0x80) = c.toNat := by omega
  rw [read_start_cons, hfirst, read_inside_last (by rw [toNat_tail]; omega), toNat_tail, hnat, Char.ofNat_toNat,
    List.nil_append]

/-- the first of three bytes leaves room for the second -/
theorem enter_three (h : 0x800 ≤ c.toNat) (h' : c.toNat < 0x10000) :
    ∃ lo hi, enter (0xE0 + c.toNat / 0x1000).toUInt8 = (.inside 2 (c.toNat / 0x1000) lo hi, []) ∧
      lo ≤ 0x80 + c.toNat / 0x40 % 0x40 ∧ 0x80 + c.toNat / 0x40 % 0x40 ≤ hi := by
  have hb : (0xE0 + c.toNat / 0x1000).toUInt8.toNat = 0xE0 + c.toNat / 0x1000 := toNat_toUInt8 (by omega)
  have hvalid := toNat_cases c
  simp only [enter, hb]
  rw [if_neg (by omega), if_neg (by omega), if_neg (by omega)]
  by_cases hlow : c.toNat / 0x1000 = 0
  · exact ⟨0xA0, 0xBF, by rw [if_pos (by omega), hlow], by omega, by omega⟩
  by_cases hsurrogate : c.toNat / 0x1000 = 0xD
  · exact ⟨0x80, 0x9F, by rw [if_neg (by omega), if_pos (by omega), hsurrogate], by omega, by omega⟩
  · refine ⟨0x80, 0xBF, ?_, by omega, by omega⟩
    rw [if_neg (by omega), if_neg (by omega), if_pos (by omega), Nat.add_sub_cancel_left]

theorem read_three (h : 0x800 ≤ c.toNat) (h' : c.toNat < 0x10000) :
    read .start ((0xE0 + c.toNat / 0x1000).toUInt8 :: (0x80 + c.toNat / 0x40 % 0x40).toUInt8 ::
      (0x80 + c.toNat % 0x40).toUInt8 :: bs) = some c :: read .start bs := by
  obtain ⟨lo, hi, hfirst, hlo, hhi⟩ := enter_three h h'
  have hnat : (c.toNat / 0x1000 * 0x40 + (0x80 + c.toNat / 0x40 % 0x40 - 0x80)) * 0x40 +
      (0x80 + c.toNat % 0x40 - 0x80) = c.toNat := by omega
  rw [read_start_cons, hfirst, read_inside_cons (by rw [toNat_tail]; exact ⟨hlo, hhi⟩),
    read_inside_last (by rw [toNat_tail]; omega), toNat_tail, toNat_tail, hnat, Char.ofNat_toNat, List.nil_append]

/-- the first of four bytes leaves room for the second -/
theorem enter_four (h : 0x10000 ≤ c.toNat) :
    ∃ lo hi, enter (0xF0 + c.toNat / 0x40000).toUInt8 = (.inside 3 (c.toNat / 0x40000) lo hi, []) ∧
      lo ≤ 0x80 + c.toNat / 0x1000 % 0x40 ∧ 0x80 + c.toNat / 0x1000 % 0x40 ≤ hi := by
  have hvalid := toNat_cases c
  have hb : (0xF0 + c.toNat / 0x40000).toUInt8.toNat = 0xF0 + c.toNat / 0x40000 := toNat_toUInt8 (by omega)
  simp only [enter, hb]
  rw [if_neg (by omega), if_neg (by omega), if_neg (by omega), if_neg (by omega), if_neg (by omega), if_neg (by omega)]
  by_cases hlow : c.toNat / 0x40000 = 0
  · exact ⟨0x90, 0xBF, by rw [if_pos (by omega), hlow], by omega, by omega⟩
  by_cases hhigh : c.toNat / 0x40000 = 4
  · exact ⟨0x80, 0x8F, by rw [if_neg (by omega), if_neg (by omega), if_pos (by omega), hhigh], by omega, by omega⟩
  · refine ⟨0x80, 0xBF, ?_, by omega, by omega⟩
    rw [if_neg (by omega), if_pos (by omega), Nat.add_sub_cancel_left]

theorem read_four (h : 0x10000 ≤ c.toNat) :
    read .start ((0xF0 + c.toNat / 0x40000).toUInt8 :: (0x80 + c.toNat / 0x1000 % 0x40).toUInt8 ::
      (0x80 + c.toNat / 0x40 % 0x40).toUInt8 :: (0x80 + c.toNat % 0x40).toUInt8 :: bs) =
      some c :: read .start bs := by
  obtain ⟨lo, hi, hfirst, hlo, hhi⟩ := enter_four h
  have hnat : ((c.toNat / 0x40000 * 0x40 + (0x80 + c.toNat / 0x1000 % 0x40 - 0x80)) * 0x40 +
      (0x80 + c.toNat / 0x40 % 0x40 - 0x80)) * 0x40 + (0x80 + c.toNat % 0x40 - 0x80) = c.toNat := by omega
  rw [read_start_cons, hfirst, read_inside_cons (by rw [toNat_tail]; exact ⟨hlo, hhi⟩),
    read_inside_cons (by rw [toNat_tail]; omega), read_inside_last (by rw [toNat_tail]; omega), toNat_tail, toNat_tail,
    toNat_tail, hnat, Char.ofNat_toNat, List.nil_append]

end

/-- **A written character is read whole**, whatever stands behind it. -/
theorem read_encodeChar (c : Char) (bs : List UInt8) : read .start (encodeChar c ++ bs) = some c :: read .start bs := by
  simp only [encodeChar]
  split_ifs with h1 h2 h3
  · exact read_one bs h1
  · exact read_two bs (Nat.le_of_not_lt h1) h2
  · exact read_three bs (Nat.le_of_not_lt h2) h3
  · exact read_four bs (Nat.le_of_not_lt h3)

/-! ## Texts -/

theorem encode_cons (c : Char) (cs : List Char) : encode (c :: cs) = encodeChar c ++ encode cs := List.flatMap_cons

theorem encode_append (cs ds : List Char) : encode (cs ++ ds) = encode cs ++ encode ds := List.flatMap_append

theorem read_encode (cs : List Char) : read .start (encode cs) = cs.map some := by
  induction cs with
  | nil => rfl
  | cons c cs ih => rw [encode_cons, read_encodeChar, ih, List.map_cons]

/-- **Decoding undoes encoding.** -/
theorem decode_encode (cs : List Char) : decode (encode cs) = some cs := by
  rw [decode, read_encode]
  induction cs with
  | nil => rfl
  | cons c cs ih => simp [List.mapM_cons, ih]

theorem toString?_ofString (s : String) : toString? (ofString s) = some s := by
  rw [toString?, ofString, decode_encode, Option.map_some, String.ofList_toList]

theorem ofString_injective : Function.Injective ofString := fun s t h => by
  rw [← Option.some_inj, ← toString?_ofString s, h, toString?_ofString]

theorem ofString_append (s t : String) : ofString (s ++ t) = ofString s ++ ofString t := by
  rw [ofString, String.toList_append, encode_append, ofString, ofString]

/-- a character below U+0080 is its own byte -/
theorem encodeChar_ascii {c : Char} (h : c.toNat < 0x80) : encodeChar c = [c.toNat.toUInt8] := by
  simp [encodeChar, h]

end ServiceMonitor.Utf8
