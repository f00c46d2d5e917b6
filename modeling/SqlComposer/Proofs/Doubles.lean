import Mathlib
import SqlComposer.Number.Binary

/-!
# Rounding to doubles

A double is unpacked into a mantissa times a power of two, and the exact value read off its bits is
that product. An unpacked double that has more binary digits than fit is rounded to fifty-three of
them before it is packed.

Rounding shifts the mantissa to the right, and keeps beside it whether the digit that fell off last
was a one and whether any was before. That these two bits tell all that rounding asks for is the
invariant of the shifts (`Represents`).
-/

set_option autoImplicit false

namespace SqlComposer.Number

open Float.Model Float.Model.UnpackedFloat

/-! ## Rounding to whole numbers -/

theorem roundHalfEven_mul_right (num den : Nat) {scale : Nat} (hscale : 0 < scale) :
    roundHalfEven (num * scale) (den * scale) = roundHalfEven num den := by
  unfold roundHalfEven
  rw [Nat.mul_div_mul_right _ _ hscale, Nat.mul_mod_mul_right]
  have hbelow : 2 * (num % den * scale) < den * scale ↔ 2 * (num % den) < den := by
    rw [← Nat.mul_assoc, Nat.mul_lt_mul_right hscale]
  have habove : den * scale < 2 * (num % den * scale) ↔ den < 2 * (num % den) := by
    rw [← Nat.mul_assoc, Nat.mul_lt_mul_right hscale]
  simp only [hbelow, habove]

/-- A multiple is not changed by rounding. -/
theorem roundHalfEven_of_mod {num den : Nat} (hden : 0 < den) (h : num % den = 0) :
    roundHalfEven num den = num / den := by
  unfold roundHalfEven
  simp [h, hden]

/-- Rounding stays between whole bounds. -/
theorem roundHalfEven_bounds {num den least most : Nat} (hden : 0 < den)
    (hleast : least * den ≤ num) (hmost : num ≤ most * den) :
    least ≤ roundHalfEven num den ∧ roundHalfEven num den ≤ most := by
  have hlow : least ≤ num / den := (Nat.le_div_iff_mul_le hden).mpr hleast
  have hhigh : num / den ≤ most := Nat.div_le_of_le_mul (by rwa [Nat.mul_comm])
  by_cases hrest : num % den = 0
  · rw [roundHalfEven_of_mod hden hrest]
    exact ⟨hlow, hhigh⟩
  · have hlt : num / den < most := by
      have hsplit := Nat.div_add_mod num den
      by_contra hnot
      have hmul : den * most ≤ den * (num / den) := Nat.mul_le_mul_left _ (Nat.le_of_not_lt hnot)
      rw [Nat.mul_comm most] at hmost
      omega
    unfold roundHalfEven
    dsimp only
    split
    · omega
    · split <;> omega

theorem roundHalfEven_mul_eq_iff {num den : Nat} (hden : 0 < den) :
    roundHalfEven num den * den = num ↔ den ∣ num := by
  constructor
  · exact fun h => ⟨_, by rw [Nat.mul_comm]; exact h.symm⟩
  · intro h
    rw [roundHalfEven_of_mod hden (Nat.mod_eq_zero_of_dvd h), Nat.div_mul_cancel h]

/-! ## Unpacked doubles -/

/-- Whether a sign is a minus. -/
def isMinus : Sign → Bool
  | .negative => true
  | .positive => false

/-- The exact value of an unpacked double. -/
def exactValue? : UnpackedFloat → Option Binary
  | .finite s m e _ => some ⟨isMinus s, m, e⟩
  | .zero s => some ⟨isMinus s, 0, -1074⟩
  | .infinity _ | .notANumber => none

theorem toNat_unpackExponent (b : BitVec 64) :
    (@unpackExponent .binary64 b).toNat = b.toNat / 2 ^ 52 % 2 ^ 11 := by
  simp [unpackExponent, Nat.shiftRight_eq_div_pow]

theorem toNat_unpackMantissa (b : BitVec 64) :
    (@unpackMantissa .binary64 b).toNat = b.toNat % 2 ^ 52 := by
  simp [unpackMantissa]

theorem isMinus_unpackSign (b : BitVec 64) :
    isMinus (.ofBitVec (@unpackSign .binary64 b)) = decide (2 ^ 63 ≤ b.toNat) := by
  have hlt : b.toNat < 2 ^ 64 := b.isLt
  have hbit : (@unpackSign .binary64 b).toNat = b.toNat / 2 ^ 63 := by
    change (b.toNat >>> 63) % 2 = b.toNat / 2 ^ 63
    rw [Nat.shiftRight_eq_div_pow, Nat.mod_eq_of_lt (by omega)]
  have hzero : @unpackSign .binary64 b = 0#1 ↔ ¬ 2 ^ 63 ≤ b.toNat := by
    rw [← BitVec.toNat_inj, hbit]
    change b.toNat / 2 ^ 63 = 0 ↔ _
    omega
  unfold Sign.ofBitVec
  by_cases h : 2 ^ 63 ≤ b.toNat
  · rw [if_neg fun hb => hzero.mp hb h, decide_eq_true h]
    rfl
  · rw [if_pos (hzero.mpr h), decide_eq_false h]
    rfl

theorem toNat_one_append {w : Nat} (b : BitVec w) : (1#1 ++ b).toNat = b.toNat + 2 ^ w := by
  rw [BitVec.toNat_append, ← Nat.shiftLeft_add_eq_or_of_lt b.isLt, Nat.shiftLeft_eq]
  simp [Nat.add_comm]

/-- The exact value of a double is that of the unpacked one. -/
theorem ofFloat?_eq (x : Float) : Binary.ofFloat? x = exactValue? x.toModel.unpack := by
  have hexponent : (@unpackExponent .binary64 x.toBits.toBitVec).toNat
      = x.toBits.toNat / 2 ^ 52 % 2 ^ 11 := toNat_unpackExponent _
  have hmantissa : (@unpackMantissa .binary64 x.toBits.toBitVec).toNat
      = x.toBits.toNat % 2 ^ 52 := toNat_unpackMantissa _
  have hminus : signBit x = isMinus (.ofBitVec (@unpackSign .binary64 x.toBits.toBitVec)) :=
    (isMinus_unpackSign _).symm
  have hread : Binary.ofFloat? x
      = if x.toBits.toNat / 2 ^ 52 % 2 ^ 11 = 2047 then none
        else if x.toBits.toNat / 2 ^ 52 % 2 ^ 11 = 0 then
          some ⟨signBit x, x.toBits.toNat % 2 ^ 52, -1074⟩
        else some ⟨signBit x, x.toBits.toNat % 2 ^ 52 + 2 ^ 52,
          ((x.toBits.toNat / 2 ^ 52 % 2 ^ 11 : Nat) : Int) - 1075⟩ := by
    unfold Binary.ofFloat?
    simp only [beq_iff_eq]
    rfl
  have hinfinite : (@unpackExponent .binary64 x.toBits.toBitVec).toNat = 2047
      ↔ @unpackExponent .binary64 x.toBits.toBitVec = -1#_ := by
    rw [← BitVec.toNat_inj]
    rfl
  have hsmall : (@unpackExponent .binary64 x.toBits.toBitVec).toNat = 0
      ↔ @unpackExponent .binary64 x.toBits.toBitVec = 0#_ := by
    rw [← BitVec.toNat_inj]
    rfl
  change _ = exactValue? (UnpackedFloat.unpack .binary64 x.toBits.toBitVec)
  rw [hread, ← hexponent, ← hmantissa, hminus]
  dsimp only [UnpackedFloat.unpack]
  by_cases h : @unpackExponent .binary64 x.toBits.toBitVec = -1#_
  · rw [if_pos (hinfinite.mpr h), if_pos h]
    split <;> rfl
  · rw [if_neg fun hb => h (hinfinite.mp hb), if_neg h]
    by_cases hzero : @unpackExponent .binary64 x.toBits.toBitVec = 0#_
    · rw [if_pos (hsmall.mpr hzero), if_pos hzero, hsmall.mpr hzero]
      split
      · next hm =>
        rw [hm]
        rfl
      · rfl
    · rw [if_neg fun hb => hzero (hsmall.mp hb), if_neg hzero]
      simp only [exactValue?, toNat_one_append]
      rfl

/-- A mantissa of fifty-three digits with an exponent within the range of doubles is packed without
loss. -/
theorem unpack_pack_of_normal {s : Sign} {m : Nat} {e : Int} {hm : 0 < m} (hlow : 2 ^ 52 ≤ m)
    (hhigh : m < 2 ^ 53) (hleast : -1074 ≤ e) (hmost : e ≤ 971) :
    (Float.Model.pack (.finite s m e hm)).unpack = .finite s m e hm := by
  change UnpackedFloat.unpack .binary64 (UnpackedFloat.pack .binary64 (.finite s m e hm)) = _
  have hlog : m.log2 = 52 := (Nat.log2_eq_iff (by omega)).mpr ⟨hlow, hhigh⟩
  have hbiased : (e + Format.exponentBias .binary64
      + Format.mantissaBitsWithoutImplicit .binary64).toNat = (e + 1075).toNat := by
    congr 1
    change e + 1023 + 52 = e + 1075
    omega
  generalize hb : (e + 1075).toNat = b at hbiased
  have hfits : b + 1 < 2 ^ 11 ∧ 0 < b ∧ (b : Int) = e + 1075 := by omega
  have hpacked : UnpackedFloat.pack .binary64 (.finite s m e hm)
      = packComponents .binary64 s (BitVec.ofNat 11 b) (BitVec.ofNat 52 m) := by
    unfold UnpackedFloat.pack
    simp only [hbiased, hlog]
    rw [if_neg (by omega)]
    exact if_pos rfl
  have hexponent : (BitVec.ofNat 11 b).toNat = b := by
    rw [BitVec.toNat_ofNat, Nat.mod_eq_of_lt (by omega)]
  have hmantissa : (1#1 ++ BitVec.ofNat 52 m).toNat = m := by
    rw [toNat_one_append, BitVec.toNat_ofNat]
    omega
  have hfinite : ¬ BitVec.ofNat 11 b = -1#_ := by
    rw [← BitVec.toNat_inj, hexponent]
    change ¬ b = 2047
    omega
  have hnormal : ¬ BitVec.ofNat 11 b = 0#_ := by
    rw [← BitVec.toNat_inj, hexponent]
    change ¬ b = 0
    omega
  rw [hpacked]
  unfold UnpackedFloat.unpack
  simp only [unpackMantissa_packComponents, unpackExponent_packComponents, unpackSign_packComponents,
    Sign.ofBitVec_toBitVec, hexponent]
  rw [if_neg hfinite, if_neg hnormal]
  simp only [hmantissa]
  congr 1
  change (b : Int) - (1023 + 52) = e
  omega

/-- A larger exponent is packed as an infinity. -/
theorem unpack_pack_of_large {s : Sign} {m : Nat} {e : Int} {hm : 0 < m} (hlarge : 971 < e) :
    (Float.Model.pack (.finite s m e hm)).unpack = .infinity s := by
  change UnpackedFloat.unpack .binary64 (UnpackedFloat.pack .binary64 (.finite s m e hm)) = _
  have hbiased : 2 ^ 11 ≤ (e + Format.exponentBias .binary64
      + Format.mantissaBitsWithoutImplicit .binary64).toNat + 1 := by
    change 2 ^ 11 ≤ (e + 1023 + 52).toNat + 1
    omega
  have hpacked : UnpackedFloat.pack .binary64 (.finite s m e hm) = packedInfinity .binary64 s := by
    unfold UnpackedFloat.pack
    exact if_pos hbiased
  rw [hpacked]
  cases s <;> rfl

/-! ## Rounding unpacked doubles -/

/-- An extended mantissa stands for `num / 2 ^ shift`: the mantissa is the whole part, the first bit
says whether the rest is a half or more, and the second whether there is more to it than a half or
nothing. -/
structure Represents (em : ExtendedMantissa) (num shift : Nat) : Prop where
  mantissa : em.mantissa = num / 2 ^ shift
  roundBit : em.roundBit = true ↔ 2 ^ shift ≤ 2 * (num % 2 ^ shift)
  stickyBit : em.stickyBit = true ↔ 2 * (num % 2 ^ shift) % 2 ^ shift ≠ 0

theorem represents_exact (num : Nat) :
    Represents (.ofMantissaAndAccuracy num .exact) num 0 := by
  constructor
  · exact (Nat.div_one num).symm
  · simp [ExtendedMantissa.ofMantissaAndAccuracy, Nat.mod_one]
  · simp [ExtendedMantissa.ofMantissaAndAccuracy, Nat.mod_one]

theorem Represents.shiftRightOne {em : ExtendedMantissa} {num shift : Nat}
    (h : Represents em num shift) : Represents em.shiftRightOne num (shift + 1) := by
  obtain ⟨hmantissa, hround, hsticky⟩ := h
  have hpos : 0 < 2 ^ shift := Nat.two_pow_pos shift
  have hrest : num % 2 ^ (shift + 1) = num % 2 ^ shift + 2 ^ shift * (num / 2 ^ shift % 2) := by
    rw [Nat.pow_succ, Nat.mod_mul]
  have hlt : num % 2 ^ shift < 2 ^ shift := Nat.mod_lt _ hpos
  have hbit : num / 2 ^ shift % 2 = 0 ∨ num / 2 ^ shift % 2 = 1 := Nat.mod_two_eq_zero_or_one _
  generalize hd : 2 ^ shift = d at *
  generalize hr : num % d = r at *
  have htwo : 2 ^ (shift + 1) = 2 * d := by rw [Nat.pow_succ, hd, Nat.mul_comm]
  rw [htwo] at hrest
  refine ⟨?_, ?_, ?_⟩
  · change em.mantissa / 2 = _
    rw [hmantissa, htwo, Nat.mul_comm, Nat.div_div_eq_div_mul]
  · change (em.mantissa % 2 != 0) = true ↔ _
    rw [htwo, hrest, hmantissa, bne_iff_ne]
    rcases hbit with hbit | hbit <;> rw [hbit] <;> omega
  · change (em.roundBit || em.stickyBit) = true ↔ _
    have hodd : 2 * (num % (2 * d)) % (2 * d) = 2 * r := by
      rw [hrest, Nat.mul_mod_mul_left]
      rcases hbit with hbit | hbit <;> simp [hbit, Nat.mod_eq_of_lt hlt]
    rw [Bool.or_eq_true, hround, hsticky, htwo, hodd]
    by_cases hzero : r = 0
    · subst hzero
      simp
      omega
    · constructor
      · intro _
        omega
      · intro _
        by_cases hhalf : d ≤ 2 * r
        · exact .inl hhalf
        · rw [Nat.mod_eq_of_lt (by omega)]
          omega

theorem represents_shift (num shift : Nat) :
    Represents (ExtendedMantissa.ofMantissaAndAccuracy num .exact >>> shift) num shift := by
  change Represents (shift.repeat ExtendedMantissa.shiftRightOne _) num shift
  induction shift with
  | zero => exact represents_exact num
  | succ shift ih => exact ih.shiftRightOne

/-- What an extended mantissa is rounded to is what it stands for, rounded. -/
theorem Represents.roundedMantissa {em : ExtendedMantissa} {num shift : Nat}
    (h : Represents em num shift) : em.roundedMantissa = roundHalfEven num (2 ^ shift) := by
  obtain ⟨mantissa, roundBit, stickyBit⟩ := em
  obtain ⟨hmantissa, hround, hsticky⟩ := h
  have hlt : num % 2 ^ shift < 2 ^ shift := Nat.mod_lt _ (Nat.two_pow_pos shift)
  dsimp only at hmantissa hround hsticky
  unfold roundHalfEven
  rw [← hmantissa]
  dsimp only
  generalize 2 ^ shift = d at *
  generalize num % d = r at *
  cases roundBit with
  | false =>
    have hbelow : 2 * r < d := by simpa using hround
    rw [if_pos hbelow]
    cases stickyBit <;> rfl
  | true =>
    have hhalf : d ≤ 2 * r := hround.mp rfl
    have hover : 2 * r % d = 2 * r - d := by
      rw [Nat.mod_eq_sub_mod hhalf, Nat.mod_eq_of_lt (by omega)]
    rw [hover] at hsticky
    rw [if_neg (by omega)]
    cases stickyBit with
    | false =>
      have heven : ¬ d < 2 * r := by
        intro hlarger
        exact absurd (hsticky.mpr (by omega)) (by decide)
      rw [if_neg heven]
      rfl
    | true =>
      have hlarger : d < 2 * r := by
        have := hsticky.mp rfl
        omega
      rw [if_pos hlarger]
      rfl

theorem targetExponent_eq (t : Int) :
    Format.targetExponent .binary64 t = max (t - 53) (-1074) := rfl

/-- A mantissa is shifted as far as its target asks. -/
theorem shiftToTargetExponent_eq {m shift : Nat} {e : Int}
    (h : Format.targetExponent .binary64 (totalExponent m e) = e + shift) :
    shiftToTargetExponent .binary64 m e .exact
      = (ExtendedMantissa.ofMantissaAndAccuracy m .exact >>> shift, e + shift) := by
  have hshift : (e + shift - e).toNat = shift := by omega
  unfold shiftToTargetExponent shiftToExponent
  simp only [h, hshift]

/-- A double made of fifty-three digits, which may have been carried to a fifty-fourth. -/
inductive Rounded (s : Sign) (digits : Nat) (e : Int) : UnpackedFloat → Prop
  | kept (hlow : 2 ^ 52 ≤ digits) (hhigh : digits < 2 ^ 53) (hpos : 0 < digits) :
    Rounded s digits e (.finite s digits e hpos)
  | carried (hcarry : digits = 2 ^ 53) (hpos : 0 < 2 ^ 52) :
    Rounded s digits e (.finite s (2 ^ 52) (e + 1) hpos)

theorem Rounded.eq_finite {s : Sign} {digits : Nat} {e : Int} {f : UnpackedFloat}
    (h : Rounded s digits e f) (hhigh : digits < 2 ^ 53) (hpos : 0 < digits) :
    f = .finite s digits e hpos := by
  cases h with
  | kept => rfl
  | carried hcarry => omega

/-- Among the doubles that are not too small, rounding leaves fifty-three digits. -/
theorem rounded_roundWithAccuracy {s : Sign} {m : Nat} {e : Int} (hdigits : 52 ≤ m.log2)
    (hleast : -1022 ≤ m.log2 + e) :
    Rounded s (roundHalfEven m (2 ^ (m.log2 - 52))) (e + (m.log2 - 52 : Nat))
      (roundWithAccuracy .binary64 s m e .exact) := by
  have hm : m ≠ 0 := by
    rintro rfl
    simp at hdigits
  have htarget : Format.targetExponent .binary64 (totalExponent m e) = e + (m.log2 - 52 : Nat) := by
    rw [targetExponent_eq]
    unfold totalExponent
    omega
  -- the shifted mantissa has fifty-three digits, and rounding carries it to 2 ^ 53 at most
  have hbounds : 2 ^ 52 ≤ roundHalfEven m (2 ^ (m.log2 - 52))
      ∧ roundHalfEven m (2 ^ (m.log2 - 52)) ≤ 2 ^ 53 := by
    apply roundHalfEven_bounds (Nat.two_pow_pos _)
    · rw [← Nat.pow_add, Nat.add_sub_cancel' hdigits]
      exact Nat.log2_self_le hm
    · rw [← Nat.pow_add, show 53 + (m.log2 - 52) = m.log2 + 1 by omega]
      exact Nat.le_of_lt Nat.lt_log2_self
  have hrounded := (represents_shift m (m.log2 - 52)).roundedMantissa
  generalize hdigitsEq : roundHalfEven m (2 ^ (m.log2 - 52)) = digits at *
  unfold roundWithAccuracy
  simp only [shiftToTargetExponent_eq htarget, hrounded]
  by_cases hcarry : digits = 2 ^ 53
  · have hagain : Format.targetExponent .binary64 (totalExponent digits (e + (m.log2 - 52 : Nat)))
        = e + (m.log2 - 52 : Nat) + (1 : Nat) := by
      rw [targetExponent_eq, hcarry]
      unfold totalExponent
      rw [Nat.log2_two_pow]
      omega
    simp only [shiftToTargetExponent_eq hagain]
    subst hcarry
    exact .carried rfl (by decide)
  · have hlog : digits.log2 = 52 := (Nat.log2_eq_iff (by omega)).mpr ⟨hbounds.1, by omega⟩
    have hagain : Format.targetExponent .binary64 (totalExponent digits (e + (m.log2 - 52 : Nat)))
        = e + (m.log2 - 52 : Nat) + (0 : Nat) := by
      rw [targetExponent_eq]
      unfold totalExponent
      rw [hlog]
      omega
    have hzero : ¬ (ExtendedMantissa.ofMantissaAndAccuracy digits .exact >>> 0).mantissa = 0 := by
      change ¬ digits = 0
      omega
    simp only [shiftToTargetExponent_eq hagain]
    rw [dif_neg hzero]
    simp only [Int.natCast_zero, Int.add_zero]
    exact .kept hbounds.1 (by omega) (by omega)

end SqlComposer.Number
