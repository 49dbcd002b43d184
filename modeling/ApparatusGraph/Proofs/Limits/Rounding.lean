/-
# Budgets given as durations

A budget is kept in whole milliseconds, rounded up (`Duration.toNat_toMillis`), so no time is lost
(`Duration.toNanos_le_ofMillis`) and less than a millisecond is gained
(`Duration.ofMillis_lt_toNanos`), as long as the milliseconds fit in 64 bits.

The conversion is about natural numbers.  In words of 128 bits it comes to the same
(`Duration.toNat_millisWord`), since none of its steps overflows (`Duration.fitsWords`):

| step | word |
| --- | --- |
| the seconds | `secondsWord` |
| the length in nanoseconds | `nanosWord` |
| the length in milliseconds, rounded up | `millisWord` |

The last is narrowed to 64 bits.
-/

import Mathlib.Algebra.Order.Floor.Semiring
import Mathlib.Data.Rat.Floor
import ApparatusGraph.Limits.Basic

namespace ApparatusGraph
namespace Duration

variable {d d' : Duration}

/-! ## Lengths -/

/-- Durations of as many nanoseconds are equal. -/
theorem toNanos_inj (h : d.toNanos = d'.toNanos) : d = d' := by
  obtain ⟨seconds, nanos, hlt⟩ := d
  obtain ⟨seconds', nanos', hlt'⟩ := d'
  simp only [toNanos] at h
  obtain rfl : nanos = nanos' := by omega
  obtain rfl : seconds = seconds' := UInt64.toNat_inj.1 (by omega)
  rfl

/-- A second has a thousand million nanoseconds. -/
theorem toNanos_ofSeconds (secs : UInt64) :
    (ofSeconds secs).toNanos = secs.toNat * 1000000000 := by
  simp only [toNanos, ofSeconds, Nat.add_zero]

/-- A millisecond has a million nanoseconds. -/
theorem toNanos_ofMillis (ms : UInt64) : (ofMillis ms).toNanos = ms.toNat * 1000000 := by
  have hseconds : (ms / 1000).toNat = ms.toNat / 1000 := UInt64.toNat_div ms 1000
  simp only [toNanos, ofMillis, hseconds]
  omega

/-- The milliseconds of a duration are its nanoseconds rounded up, or the most that a word holds. -/
theorem toNat_toMillis (d : Duration) :
    d.toMillis.toNat = min ((d.toNanos + 999999) / 1000000) (0xFFFFFFFFFFFFFFFF) :=
  UInt64.toNat_ofNat_of_lt' (Nat.lt_of_le_of_lt (Nat.min_le_right _ _) (by decide))

/-- Rounded up is what the least whole number of milliseconds comes to. -/
theorem ceil_toNanos (d : Duration) :
    ⌈(d.toNanos / 1000000 : ℚ)⌉₊ = (d.toNanos + 999999) / 1000000 := by
  refine eq_of_forall_ge_iff fun k => ?_
  have hscale : (d.toNanos : ℚ) ≤ k * 1000000 ↔ d.toNanos ≤ k * 1000000 := by
    exact_mod_cast Iff.rfl
  rw [Nat.ceil_le, div_le_iff₀ (by norm_num), hscale]
  omega

/-- **No time is lost** as long as the milliseconds fit in 64 bits. -/
theorem toNanos_le_ofMillis (h : d.toNanos ≤ 0xFFFFFFFFFFFFFFFF * 1000000) :
    d.toNanos ≤ (ofMillis d.toMillis).toNanos := by
  have hms := d.toNat_toMillis
  have hback := toNanos_ofMillis d.toMillis
  omega

/-- Less than a millisecond is gained. -/
theorem ofMillis_lt_toNanos (d : Duration) :
    (ofMillis d.toMillis).toNanos < d.toNanos + 1000000 := by
  have hms := d.toNat_toMillis
  have hback := toNanos_ofMillis d.toMillis
  omega

/-- Whole milliseconds are not rounded. -/
theorem toMillis_eq_of_toNanos {ms : UInt64} (h : d.toNanos = ms.toNat * 1000000) :
    d.toMillis = ms := by
  have hlt := ms.toNat_lt
  refine UInt64.toNat_inj.1 ?_
  rw [toNat_toMillis]
  omega

/-- A longer duration has no fewer milliseconds. -/
theorem toMillis_mono (h : d.toNanos ≤ d'.toNanos) : d.toMillis ≤ d'.toMillis := by
  rw [UInt64.le_iff_toNat_le, toNat_toMillis, toNat_toMillis]
  omega

/-- Only the empty duration has no milliseconds. -/
theorem toMillis_eq_zero_iff : d.toMillis = 0 ↔ d.toNanos = 0 := by
  rw [← UInt64.toNat_inj, toNat_toMillis, UInt64.toNat_zero]
  omega

/-! ## Words -/

/-- The seconds as a word of 128 bits. -/
def secondsWord (d : Duration) : BitVec 128 := d.seconds.toBitVec.setWidth 128

/-- The length in nanoseconds, in words of 128 bits. -/
def nanosWord (d : Duration) : BitVec 128 :=
  d.secondsWord * 1000000000#128 + BitVec.ofNat 128 d.nanos

/-- The length in milliseconds, in words of 128 bits: the quotient, one more if there is a
remainder. -/
def millisWord (d : Duration) : BitVec 128 :=
  if d.nanosWord % 1000000#128 = 0 then d.nanosWord / 1000000#128
  else d.nanosWord / 1000000#128 + 1#128

/-- No step of the conversion in words overflows. -/
structure FitsWords (d : Duration) : Prop where
  product : d.secondsWord.umulOverflow 1000000000#128 = false
  sum : (d.secondsWord * 1000000000#128).uaddOverflow (BitVec.ofNat 128 d.nanos) = false
  quotient : (d.nanosWord / 1000000#128).uaddOverflow 1#128 = false

/-- The nanoseconds of a duration are fewer than those of as many seconds as a word holds. -/
theorem toNanos_lt (d : Duration) : d.toNanos < 0x10000000000000000 * 1000000000 := by
  have hseconds := d.seconds.toNat_lt
  have hnanos := d.nanos_lt
  unfold toNanos
  omega

/-- The seconds fit into a word of 128 bits. -/
theorem toNat_secondsWord (d : Duration) : d.secondsWord.toNat = d.seconds.toNat := by
  have hlt := d.seconds.toNat_lt
  unfold secondsWord
  rw [BitVec.toNat_setWidth]
  exact Nat.mod_eq_of_lt (by show d.seconds.toNat < _; omega)

/-- The seconds in nanoseconds fit into a word of 128 bits. -/
theorem toNat_product (d : Duration) :
    (d.secondsWord * 1000000000#128).toNat = d.seconds.toNat * 1000000000 := by
  have hlt := d.seconds.toNat_lt
  rw [BitVec.toNat_mul, toNat_secondsWord]
  exact Nat.mod_eq_of_lt (by show d.seconds.toNat * 1000000000 < _; omega)

/-- **The words are the numbers:** nothing is lost on the way to nanoseconds. -/
theorem toNat_nanosWord (d : Duration) : d.nanosWord.toNat = d.toNanos := by
  have hlt := d.toNanos_lt
  unfold nanosWord
  rw [BitVec.toNat_add, toNat_product, BitVec.toNat_ofNat]
  unfold toNanos at hlt ⊢
  omega

/-- The quotient of the words is that of the numbers. -/
theorem toNat_quotient (d : Duration) :
    (d.nanosWord / 1000000#128).toNat = d.toNanos / 1000000 := by
  rw [BitVec.toNat_udiv, toNat_nanosWord]
  rfl

/-- The word that is rounded up is the number rounded up. -/
theorem toNat_millisWord (d : Duration) :
    d.millisWord.toNat = (d.toNanos + 999999) / 1000000 := by
  have hlt := d.toNanos_lt
  have hrest : d.nanosWord % 1000000#128 = 0 ↔ d.toNanos % 1000000 = 0 := by
    rw [← BitVec.toNat_inj, BitVec.toNat_umod, toNat_nanosWord]
    rfl
  unfold millisWord
  split
  · rename_i hzero
    have hwhole := hrest.1 hzero
    rw [toNat_quotient]
    omega
  · rename_i hne
    have hbegun := mt hrest.2 hne
    rw [BitVec.toNat_add, toNat_quotient, BitVec.toNat_ofNat]
    omega

/-- The milliseconds of every duration are computed in words of 128 bits without overflow. -/
theorem fitsWords (d : Duration) : d.FitsWords := by
  have hseconds := d.seconds.toNat_lt
  have hnanos := d.nanos_lt
  have hlt := d.toNanos_lt
  refine ⟨?_, ?_, ?_⟩
  · rw [BitVec.umulOverflow, decide_eq_false_iff_not, toNat_secondsWord]
    show ¬d.seconds.toNat * 1000000000 ≥ _
    omega
  · rw [BitVec.uaddOverflow, decide_eq_false_iff_not, toNat_product, BitVec.toNat_ofNat]
    omega
  · rw [BitVec.uaddOverflow, decide_eq_false_iff_not, toNat_quotient, BitVec.toNat_ofNat]
    omega

end Duration

namespace Limits

/-- **A budget is rounded up.**  Limits are given a budget of a duration in whole milliseconds,
rounded up and at most `2^64 - 1`, and words of 128 bits are enough to find it.  If the
milliseconds fit in 64 bits, the budget lasts as long as the duration and less than a millisecond
longer, and just as long when the duration is of whole milliseconds.  Longer durations do not give
smaller budgets.  Where the number of steps is in order, the budget is refused exactly if the
duration is zero. -/
theorem withTimeout_rounds_up (l : Limits) (d : Duration) :
    (l.withTimeout d).timeoutMs = some d.toMillis ∧
    d.toMillis.toNat = min ⌈(d.toNanos / 1000000 : ℚ)⌉₊ (0xFFFFFFFFFFFFFFFF) ∧
    d.FitsWords ∧ d.toMillis.toNat = min d.millisWord.toNat (0xFFFFFFFFFFFFFFFF) ∧
    (d.toNanos ≤ 0xFFFFFFFFFFFFFFFF * 1000000 → ∃ t, (l.withTimeout d).timeout = some t ∧
      d.toNanos ≤ t.toNanos ∧ t.toNanos < d.toNanos + 1000000) ∧
    (∀ ms : UInt64, d.toNanos = ms.toNat * 1000000 →
      (l.withTimeout d).timeoutMs = some ms ∧ (l.withTimeout d).timeout = some d) ∧
    (∀ d' : Duration, d.toNanos ≤ d'.toNanos → d.toMillis ≤ d'.toMillis) ∧
    (l.withTimeout d).validate =
      if l.maxSteps = 0 then .error (.invalid "max_steps must be at least 1")
      else if d.toNanos = 0 then
        .error (.invalid "timeout_ms must be positive, use no timeout to disable")
      else .ok () := by
  refine ⟨rfl, ?_, d.fitsWords, ?_, fun hfits => ?_, fun ms hms => ?_,
    fun _ => Duration.toMillis_mono, ?_⟩
  · rw [Duration.ceil_toNanos, Duration.toNat_toMillis]
  · rw [Duration.toNat_millisWord, Duration.toNat_toMillis]
  · exact ⟨.ofMillis d.toMillis, rfl, Duration.toNanos_le_ofMillis hfits, d.ofMillis_lt_toNanos⟩
  · obtain rfl : d = .ofMillis ms :=
      Duration.toNanos_inj (hms.trans (Duration.toNanos_ofMillis ms).symm)
    have hstored : (Duration.ofMillis ms).toMillis = ms :=
      Duration.toMillis_eq_of_toNanos hms
    unfold withTimeout timeout
    rw [hstored]
    exact ⟨rfl, rfl⟩
  · unfold validate withTimeout
    simp only [Option.some.injEq, Duration.toMillis_eq_zero_iff]

end Limits
end ApparatusGraph
