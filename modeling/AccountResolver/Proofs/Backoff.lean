import AccountResolver.Backoff

/-!
# Retry delays in exact arithmetic

A delay is computed in words: a power of two in 32 bits, and a product of a duration that carries
from nanoseconds into seconds. A power that does not fit gives way to the greatest factor, and a
product that does not fit to the limit. Neither shows: the delay is the base doubled with every
failure, as far as the factor goes, and cut off at the limit.
-/

namespace AccountResolver

namespace Duration

/-! ### Durations as numbers of nanoseconds -/

theorem toNanos_lt (d : Duration) : d.toNanos < UInt64.size * nanosPerSecond := by
  have hs : d.seconds.toNat + 1 ≤ UInt64.size := d.seconds.toNat_lt
  have hn : d.nanos.val < nanosPerSecond := d.nanos.isLt
  have hle := Nat.mul_le_mul_right nanosPerSecond hs
  rw [Nat.add_mul, Nat.one_mul] at hle
  unfold toNanos
  omega

theorem toNanos_injective {d e : Duration} (h : d.toNanos = e.toNanos) : d = e := by
  obtain ⟨s, n⟩ := d
  obtain ⟨t, m⟩ := e
  have hn : n.val < 1000000000 := n.isLt
  have hm : m.val < 1000000000 := m.isLt
  have hsum : s.toNat * 1000000000 + n.val = t.toNat * 1000000000 + m.val := h
  have hseconds : s = t := UInt64.toNat_inj.1 (by omega)
  have hnanos : n = m := Fin.ext (by omega)
  rw [hseconds, hnanos]

theorem toNanos_of_ofParts? {seconds nanos : Nat} {d : Duration}
    (h : ofParts? seconds nanos = some d) : d.toNanos = seconds * nanosPerSecond + nanos := by
  unfold ofParts? at h
  split at h
  · cases h
    rfl
  · cases h

/-- Seconds and nanoseconds that have been carried over fit where their sum does. -/
theorem ofParts?_isSome_iff {seconds nanos : Nat} (h : nanos < nanosPerSecond) :
    (ofParts? seconds nanos).isSome = true ↔
      seconds * nanosPerSecond + nanos < UInt64.size * nanosPerSecond := by
  unfold ofParts?
  split
  · next hfit =>
    have hle := Nat.mul_le_mul_right nanosPerSecond (Nat.succ_le_of_lt hfit.1)
    rw [Nat.succ_mul] at hle
    exact ⟨fun _ => by omega, fun _ => rfl⟩
  · next hfit =>
    have hge : UInt64.size ≤ seconds := Nat.le_of_not_lt fun hlt => hfit ⟨hlt, h⟩
    have hle := Nat.mul_le_mul_right nanosPerSecond hge
    exact ⟨nofun, fun _ => by omega⟩

/-! ### Products -/

/-- What is carried over into seconds is missing from the nanoseconds. -/
theorem carried_eq (d : Duration) (n : Nat) :
    (d.seconds.toNat * n + d.nanos.val * n / nanosPerSecond) * nanosPerSecond +
        d.nanos.val * n % nanosPerSecond =
      d.toNanos * n := by
  have hdiv := Nat.div_add_mod' (d.nanos.val * n) nanosPerSecond
  calc
    _ = d.seconds.toNat * n * nanosPerSecond +
        (d.nanos.val * n / nanosPerSecond * nanosPerSecond + d.nanos.val * n % nanosPerSecond) := by
      rw [Nat.add_mul, Nat.add_assoc]
    _ = d.seconds.toNat * nanosPerSecond * n + d.nanos.val * n := by
      rw [hdiv, Nat.mul_right_comm]
    _ = d.toNanos * n := (Nat.add_mul _ _ n).symm

theorem toNanos_of_scale? {d e : Duration} {n : UInt32} (h : d.scale? n = some e) :
    e.toNanos = d.toNanos * n.toNat :=
  (toNanos_of_ofParts? h).trans (carried_eq d n.toNat)

/-- Only a product that is no duration is lost. -/
theorem scale?_eq_none_iff (d : Duration) (n : UInt32) :
    d.scale? n = none ↔ UInt64.size * nanosPerSecond ≤ d.toNanos * n.toNat := by
  have hlt : d.nanos.val * n.toNat % nanosPerSecond < nanosPerSecond :=
    Nat.mod_lt _ (by decide)
  have hsome : (d.scale? n).isSome = true ↔ _ := ofParts?_isSome_iff hlt
  rw [carried_eq] at hsome
  rw [← Option.not_isSome_iff_eq_none, hsome, Nat.not_lt]

theorem toNanos_min (a b : Duration) : (a.min b).toNanos = Min.min a.toNanos b.toNanos := by
  unfold Duration.min le
  split
  · next h =>
    have hle : a.toNanos ≤ b.toNanos := of_decide_eq_true h
    omega
  · next h =>
    have hlt : ¬ a.toNanos ≤ b.toNanos := fun hle => h (decide_eq_true hle)
    omega

end Duration

namespace Backoff

/-! ### The factor -/

theorem one_le_two_pow (n : Nat) : 1 ≤ Nat.pow 2 n := Nat.pow_pos (by decide)

theorem two_pow_le {m n : Nat} (h : m ≤ n) : Nat.pow 2 m ≤ Nat.pow 2 n :=
  Nat.pow_le_pow_right (by decide) h

theorem toNat_factor (f : UInt32) :
    (factor f).toNat = min (Nat.pow 2 f.toNat) 4294967295 := by
  have hgreatest : (4294967295 : UInt32).toNat = 4294967295 := rfl
  unfold factor
  split
  · next h =>
    have hf : f.toNat < 32 := UInt32.lt_iff_toNat_lt.1 h
    have hpow : Nat.pow 2 f.toNat ≤ Nat.pow 2 31 := two_pow_le (by omega)
    have h31 : Nat.pow 2 31 = 2147483648 := rfl
    have hshift : ((1 : UInt32) <<< f).toNat = Nat.pow 2 f.toNat % 4294967296 := by
      rw [UInt32.toNat_shiftLeft, Nat.mod_eq_of_lt hf, Nat.shiftLeft_eq]
      show 1 * Nat.pow 2 f.toNat % 4294967296 = _
      rw [Nat.one_mul]
    rw [hshift]
    omega
  · next h =>
    have hf : ¬ f.toNat < 32 := fun hf => h (UInt32.lt_iff_toNat_lt.2 hf)
    have hpow : Nat.pow 2 32 ≤ Nat.pow 2 f.toNat := two_pow_le (by omega)
    have h32 : Nat.pow 2 32 = 4294967296 := rfl
    rw [hgreatest]
    omega

/-! ### The delay -/

theorem toNanos_delay (b : Backoff) (f : UInt32) :
    (b.delay f).toNanos =
      min (b.base.toNanos * min (Nat.pow 2 f.toNat) 4294967295) b.limit.toNanos := by
  rw [← toNat_factor]
  cases hs : b.base.scale? (factor f) with
  | some d =>
    have hd : b.delay f = d.min b.limit := by simp only [delay, hs]
    rw [hd, Duration.toNanos_min, Duration.toNanos_of_scale? hs]
  | none =>
    -- The product is beyond every duration, and so beyond the limit.
    have hd : b.delay f = b.limit := by simp only [delay, hs]
    have hover := (Duration.scale?_eq_none_iff _ _).1 hs
    have hlimit : b.limit.toNanos ≤ b.base.toNanos * (factor f).toNat :=
      Nat.le_of_lt (Nat.lt_of_lt_of_le b.limit.toNanos_lt hover)
    rw [hd, Nat.min_eq_right hlimit]

theorem delay_mono {b c : Backoff} {f g : UInt32} (hf : f ≤ g)
    (hbase : b.base.toNanos ≤ c.base.toNanos) (hlimit : b.limit.toNanos ≤ c.limit.toNanos) :
    (b.delay f).toNanos ≤ (c.delay g).toNanos := by
  have hpow : Nat.pow 2 f.toNat ≤ Nat.pow 2 g.toNat := two_pow_le (UInt32.le_iff_toNat_le.1 hf)
  have hfactor : min (Nat.pow 2 f.toNat) 4294967295 ≤ min (Nat.pow 2 g.toNat) 4294967295 := by
    omega
  have hproduct := Nat.mul_le_mul hbase hfactor
  rw [toNanos_delay, toNanos_delay, Nat.le_min]
  exact ⟨Nat.le_trans (Nat.min_le_left _ _) hproduct, Nat.le_trans (Nat.min_le_right _ _) hlimit⟩

theorem min_le_delay (b : Backoff) (f : UInt32) :
    min b.base.toNanos b.limit.toNanos ≤ (b.delay f).toNanos := by
  have hone := one_le_two_pow f.toNat
  have hproduct : b.base.toNanos ≤ b.base.toNanos * min (Nat.pow 2 f.toNat) 4294967295 :=
    Nat.le_mul_of_pos_right _ (by omega)
  rw [toNanos_delay]
  omega

theorem delay_le_limit (b : Backoff) (f : UInt32) : (b.delay f).toNanos ≤ b.limit.toNanos := by
  rw [toNanos_delay]
  omega

/-- Where the power fits into the factor, or the greatest factor reaches the limit, the factor
does not show. -/
theorem toNanos_delay_of_fits {b : Backoff} {f : UInt32}
    (h : f < 32 ∨ b.limit.toNanos ≤ b.base.toNanos * 4294967295) :
    (b.delay f).toNanos = min (b.base.toNanos * Nat.pow 2 f.toNat) b.limit.toNanos := by
  rw [toNanos_delay]
  by_cases hpow : Nat.pow 2 f.toNat ≤ 4294967295
  · rw [Nat.min_eq_left hpow]
  · have hge : 32 ≤ f.toNat := by
      refine Nat.le_of_not_lt fun hlt => hpow ?_
      have h31 : Nat.pow 2 31 = 2147483648 := rfl
      have hle : Nat.pow 2 f.toNat ≤ Nat.pow 2 31 := two_pow_le (by omega)
      omega
    have hreach : b.limit.toNanos ≤ b.base.toNanos * 4294967295 := by
      rcases h with h | h
      · have hlt : f.toNat < 32 := UInt32.lt_iff_toNat_lt.1 h
        omega
      · exact h
    have hmore : b.base.toNanos * 4294967295 ≤ b.base.toNanos * Nat.pow 2 f.toNat :=
      Nat.mul_le_mul_left _ (by omega)
    rw [Nat.min_eq_right (by omega : 4294967295 ≤ Nat.pow 2 f.toNat)]
    omega

/-- A delay is the base doubled with every failure, by the greatest factor at most, and cut off
at the limit; it is so in exact arithmetic, also where the product is no duration any more. So it
never falls when the failures, the base or the limit grow, it lies between the smaller of base and
limit and the limit, and the greatest factor does not show before 32 failures, nor where it
reaches the limit, as it does for the standard delays. -/
theorem delay_doubles_up_to_limit :
    (∀ (b : Backoff) (f : UInt32) (d : Duration), b.delay f = d ↔
      d.toNanos = min (b.base.toNanos * min (Nat.pow 2 f.toNat) 4294967295) b.limit.toNanos) ∧
    (∀ (b c : Backoff) (f g : UInt32), f ≤ g → b.base.toNanos ≤ c.base.toNanos →
      b.limit.toNanos ≤ c.limit.toNanos → (b.delay f).toNanos ≤ (c.delay g).toNanos) ∧
    (∀ (b : Backoff) (f : UInt32), min b.base.toNanos b.limit.toNanos ≤ (b.delay f).toNanos ∧
      (b.delay f).toNanos ≤ b.limit.toNanos) ∧
    (∀ (b : Backoff) (f : UInt32), f < 32 ∨ b.limit.toNanos ≤ b.base.toNanos * 4294967295 →
      (b.delay f).toNanos = min (b.base.toNanos * Nat.pow 2 f.toNat) b.limit.toNanos) ∧
    standard.limit.toNanos ≤ standard.base.toNanos * 4294967295 := by
  refine ⟨?_, ?_, ?_, fun b f => toNanos_delay_of_fits, by decide⟩
  · intro b f d
    rw [← toNanos_delay]
    exact ⟨fun h => h ▸ rfl, fun h => Duration.toNanos_injective h.symm⟩
  · intro b c f g hf hbase hlimit
    exact delay_mono hf hbase hlimit
  · intro b f
    exact ⟨min_le_delay b f, delay_le_limit b f⟩

/-- The fifth standard delay is 80 milliseconds, and the one after 40 failures is the limit. -/
theorem standard_delays_up_to_limit :
    standard.limit.toNanos ≤ standard.base.toNanos * 4294967295 ∧
      standard.delay 4 = .ofMillis 80 ∧ standard.delay 40 = standard.limit := by
  obtain ⟨hexact, -, -, hfits, hreach⟩ := delay_doubles_up_to_limit
  have hforty := hfits standard 40 (Or.inr hreach)
  refine ⟨hreach, (hexact _ _ _).2 (by decide), Duration.toNanos_injective (hforty.trans ?_)⟩
  decide

end Backoff

end AccountResolver
