import ServiceMonitor.Proofs.Number.Rounding
import ServiceMonitor.Time.Duration

/-!
Spans of time as doubles, and back.

A span in seconds is the sum of its whole seconds and of a fraction, each rounded, and rounded once more. Below 2^23 seconds
all this is off by less than half a nanosecond, so that the nearest nanosecond is the span itself. From there on it may be
another, and the last 1024 seconds of the range are rounded to 2^64 seconds, which no span is.

- `ofDouble?_toDouble`: what comes back as it was.
- `ofDouble?_isSome_iff`: what comes back at all.
-/

namespace ServiceMonitor.Duration

open Double

theorem secs_lt (d : Duration) : d.secs < 2 ^ 64 := Nat.div_lt_of_lt_mul (by rw [Nat.mul_comm]; exact d.fits)

theorem subsec_lt (d : Duration) : d.subsec < nanosPerSecond := Nat.mod_lt _ (by decide)

/-! ## Seconds -/

/-- the nanoseconds of a second are a double -/
theorem ofNat_nanos : ∃ m e, Double.ofNat nanosPerSecond = .fin false m e ∧ m ≠ 0 ∧ units m e = nanosPerSecond * unit :=
  ⟨nanosPerSecond * 2 ^ 23, 1051, by decide +kernel, by decide, by decide +kernel⟩

/-- the fraction of a second is off by half of the last bit of a number below one -/
theorem fraction_near (d : Duration) {t : ℕ} (ht : unit = 2 ^ (t + 53)) (hle : t ≤ 1021) :
    ∃ n f, div (.ofNat d.subsec) (.ofNat nanosPerSecond) = .fin false n f ∧
      2 * (units n f * nanosPerSecond) ≤ 2 * (d.subsec * unit) + nanosPerSecond * 2 ^ t ∧
      2 * (d.subsec * unit) ≤ 2 * (units n f * nanosPerSecond) + nanosPerSecond * 2 ^ t := by
  obtain ⟨m, e, hfin, hunits⟩ := ofNat_exact (d.subsec_lt.trans (by decide))
  obtain ⟨m', e', hfin', hm, hunits'⟩ := ofNat_nanos
  have hden : 0 < nanosPerSecond * unit := Nat.mul_pos (by decide) unit_pos
  have hquot : d.subsec * unit * unit / (nanosPerSecond * unit) < 2 ^ (t + 53) := by
    rw [Nat.mul_div_mul_right _ _ unit_pos, ← ht, Nat.div_lt_iff_lt_mul (by decide), Nat.mul_comm unit]
    exact Nat.mul_lt_mul_of_pos_right d.subsec_lt unit_pos
  obtain ⟨n, f, hquotient, -, -, hlow, hhigh⟩ := nearest_near unit false hden hquot (by omega)
  refine ⟨n, f, ?_, ?_, ?_⟩
  · rw [hfin, hfin', div, if_neg hm, bne_self_eq_false, ofRatio_eq, hunits, hunits']
    exact hquotient
  · refine Nat.le_of_mul_le_mul_right (c := unit) ?_ unit_pos
    linarith
  · refine Nat.le_of_mul_le_mul_right (c := unit) ?_ unit_pos
    linarith

/-- the whole seconds and the fraction, which is less than one, are added and rounded -/
theorem toDouble_parts (d : Duration) {a b : ℕ} (hsecs : Double.ofNat d.secs = .fin false a b) {t : ℕ}
    (ht : unit = 2 ^ (t + 53)) (hle : t ≤ 1021) :
    ∃ n f, d.toDouble = nearest unit false (units a b + units n f) unit ∧ units n f < unit ∧
      2 * (units n f * nanosPerSecond) ≤ 2 * (d.subsec * unit) + nanosPerSecond * 2 ^ t ∧
      2 * (d.subsec * unit) ≤ 2 * (units n f * nanosPerSecond) + nanosPerSecond * 2 ^ t := by
  obtain ⟨n, f, hfraction, hlow, hhigh⟩ := d.fraction_near ht hle
  refine ⟨n, f, ?_, ?_, hlow, hhigh⟩
  · rw [toDouble, hsecs, hfraction, add, if_pos rfl, ofRatio_eq]
  · have hbit : unit = 2 ^ 53 * 2 ^ t := by rw [ht]; ring
    have hpos : 0 < 2 ^ t := Nat.two_pow_pos t
    have hless : (d.subsec + 1) * unit ≤ nanosPerSecond * unit := Nat.mul_le_mul_right _ d.subsec_lt
    rw [Nat.succ_mul] at hless
    simp only [nanosPerSecond] at hlow hless
    omega

/-- every span in seconds is a finite double -/
theorem toDouble_fin (d : Duration) : ∃ m e, d.toDouble = .fin false m e ∧ m < 2 ^ 53 ∧ e ≤ 2000 := by
  obtain ⟨t, ht, hle⟩ := unit_split
  obtain ⟨a, b, hsecs, hwhole⟩ := ofNat_near d.secs_lt le_rfl
  obtain ⟨n, f, hsum, hless, -, -⟩ := d.toDouble_parts hsecs ht hle
  have hbound : units a b + units n f < 2 ^ 65 * unit := by
    have hlong : (d.secs + 1) * unit ≤ 2 ^ 64 * unit := Nat.mul_le_mul_right _ d.secs_lt
    rw [Nat.succ_mul] at hlong
    omega
  obtain ⟨m, e, hfin, hm, he, -, -⟩ := nearest_units rfl unit_pos ht hle le_rfl hbound
  exact ⟨m, e, hsum.trans hfin, hm, he⟩

/-! ## There and back -/

/-- below 2^23 seconds a span in seconds is off by less than half a nanosecond -/
theorem toDouble_near {d : Duration} (h : d.secs < 2 ^ 23) :
    ∃ m e, d.toDouble = .fin false m e ∧ 2 * (d.nanos * unit) < 2 * (units m e * nanosPerSecond) + unit ∧
      2 * (units m e * nanosPerSecond) < 2 * (d.nanos * unit) + unit := by
  obtain ⟨t, ht, hle⟩ := unit_split
  obtain ⟨a, b, hsecs, hunits⟩ := ofNat_exact (h.trans (by decide))
  obtain ⟨n, f, hsum, hless, hlow, hhigh⟩ := d.toDouble_parts hsecs ht hle
  have hbound : units a b + units n f < 2 ^ 23 * unit := by
    have hwhole : (d.secs + 1) * unit ≤ 2 ^ 23 * unit := Nat.mul_le_mul_right _ h
    rw [Nat.succ_mul] at hwhole
    omega
  obtain ⟨m, e, hfin, -, -, hdown, hup⟩ := nearest_units rfl unit_pos ht hle (by norm_num) hbound
  have hnanos : d.nanos * unit = units a b * nanosPerSecond + d.subsec * unit := by
    rw [hunits, ← Nat.div_add_mod' d.nanos nanosPerSecond]
    change (d.secs * nanosPerSecond + d.subsec) * unit = _
    ring
  -- a nanosecond has more bits left than the two roundings can take
  have hbit : unit = 2 ^ 53 * 2 ^ t := by rw [ht]; ring
  have hpos : 0 < 2 ^ t := Nat.two_pow_pos t
  refine ⟨m, e, hsum.trans hfin, ?_, ?_⟩
  all_goals
    rw [hnanos]
    simp only [nanosPerSecond] at hlow hhigh ⊢
    omega

/-- **Below 2^23 seconds** a span comes back from a double as it was. -/
theorem ofDouble?_toDouble {d : Duration} (h : d.secs < 2 ^ 23) : ofDouble? d.toDouble = some d := by
  obtain ⟨m, e, hfin, hlow, hhigh⟩ := toDouble_near h
  rw [hfin, ofDouble?, Bool.false_and, if_neg Bool.false_ne_true, roundHalfEven_eq hlow hhigh, ofNanos?,
    dif_pos d.fits]

theorem ofNanos?_isSome {n : ℕ} : (ofNanos? n).isSome = true ↔ n < bound := by
  unfold ofNanos?
  split_ifs with h
  · exact iff_of_true rfl h
  · exact iff_of_false (by simp) h

/-- **The spans that come back** are those that are not rounded to 2^64 seconds. -/
theorem ofDouble?_isSome_iff (d : Duration) : (ofDouble? d.toDouble).isSome = true ↔ d.secs + 1024 < 2 ^ 64 := by
  obtain ⟨t, ht, hle⟩ := unit_split
  constructor
  · intro hsome
    by_contra hlong
    obtain ⟨a, b, hsecs, hwhole⟩ := ofNat_end (not_lt.1 hlong) d.secs_lt
    obtain ⟨n, f, hsum, hless, -, -⟩ := d.toDouble_parts hsecs ht hle
    obtain ⟨m, e, hfin, hge⟩ := nearest_end (x := units a b + units n f) (by omega) (by omega)
    rw [hsum, hfin, ofDouble?, Bool.false_and, if_neg Bool.false_ne_true, ofNanos?_isSome] at hsome
    have hround : roundHalfEven (2 ^ 64 * nanosPerSecond * unit) unit ≤
        roundHalfEven (units m e * nanosPerSecond) unit :=
      roundHalfEven_mono unit_pos (by linarith [Nat.mul_le_mul_right nanosPerSecond hge])
    rw [roundHalfEven_mul unit_pos] at hround
    exact absurd hsome (not_lt.2 hround)
  · intro hshort
    obtain ⟨a, b, hsecs, hwhole⟩ := ofNat_below hshort
    obtain ⟨n, f, hsum, hless, -, -⟩ := d.toDouble_parts hsecs ht hle
    have hbit : unit = 2 ^ 53 * 2 ^ t := by rw [ht]; ring
    have hbound : units a b + units n f < 2 ^ 64 * unit := by omega
    obtain ⟨m, e, hfin, -, -, hdown, -⟩ := nearest_units rfl unit_pos ht hle (by norm_num) hbound
    have hlast : units m e ≤ (2 ^ 64 - 1) * unit := by omega
    have hround : roundHalfEven (units m e * nanosPerSecond) unit ≤
        roundHalfEven ((2 ^ 64 - 1) * nanosPerSecond * unit) unit :=
      roundHalfEven_mono unit_pos (by linarith [Nat.mul_le_mul_right nanosPerSecond hlast])
    rw [roundHalfEven_mul unit_pos] at hround
    rw [hsum, hfin, ofDouble?, Bool.false_and, if_neg Bool.false_ne_true, ofNanos?_isSome]
    exact hround.trans_lt (by decide)

/-- fewer seconds are a shorter span -/
theorem ofDouble?_le {s : Bool} {m e n f : ℕ} (hsign : 0 ≤ signedUnits s m e) (hle : units m e ≤ units n f)
    {r : Duration} (h : ofDouble? (.fin false n f) = some r) :
    ∃ d, ofDouble? (.fin s m e) = some d ∧ d.nanos ≤ r.nanos := by
  have hround : roundHalfEven (units m e * nanosPerSecond) unit ≤ roundHalfEven (units n f * nanosPerSecond) unit :=
    roundHalfEven_mono unit_pos (Nat.mul_le_mul_right _ hle)
  rw [ofDouble?, Bool.false_and, if_neg Bool.false_ne_true] at h
  rw [ofDouble?, unsigned hsign, if_neg Bool.false_ne_true]
  -- with the weight unfolded the numbers would be too long
  generalize roundHalfEven (units m e * nanosPerSecond) unit = less at hround ⊢
  generalize roundHalfEven (units n f * nanosPerSecond) unit = more at hround h
  rw [ofNanos?] at h
  split_ifs at h with hbound
  cases h
  exact ⟨⟨less, hround.trans_lt hbound⟩, dif_pos _, hround⟩

end ServiceMonitor.Duration
