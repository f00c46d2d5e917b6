import SqlComposer.Proofs.Doubles

/-!
# Whole numbers as doubles

A whole number becomes the nearest double, so of its binary digits only the first fifty-three are
kept. `nearest` says this in `Nat`: the number is rounded to a multiple of the power of two that
leaves so many digits, a half to the even multiple. What `ofInt` makes of a number has just this
magnitude, unless it is beyond the range of doubles.
-/

set_option autoImplicit false

namespace SqlComposer.Number

open Float.Model Float.Model.UnpackedFloat

/-! ## The nearest double of a whole number -/

/-- How many binary digits of a whole number are beyond the first fifty-three. -/
def excessDigits (n : Nat) : Nat := n.log2 - 52

/-- A whole number rounded to its first fifty-three binary digits. -/
def nearest (n : Nat) : Nat := roundHalfEven n (2 ^ excessDigits n) * 2 ^ excessDigits n

/-- A number that is fifty-three digits and zeros is kept, and no other is. -/
theorem nearest_eq_self_iff (n : Nat) : nearest n = n ↔ ∃ a k, a < 2 ^ 53 ∧ n = a * 2 ^ k := by
  unfold nearest
  rw [roundHalfEven_mul_eq_iff (Nat.two_pow_pos _)]
  constructor
  · rintro ⟨a, ha⟩
    refine ⟨a, excessDigits n, ?_, by rw [Nat.mul_comm]; exact ha⟩
    by_contra hnot
    have ha53 : 2 ^ 53 * 2 ^ excessDigits n ≤ n := by
      calc 2 ^ 53 * 2 ^ excessDigits n ≤ a * 2 ^ excessDigits n :=
            Nat.mul_le_mul_right _ (Nat.le_of_not_lt hnot)
        _ = n := by rw [Nat.mul_comm]; exact ha.symm
    have hlt : n < 2 ^ (n.log2 + 1) := Nat.lt_log2_self
    have hpow : 2 ^ (n.log2 + 1) ≤ 2 ^ (53 + excessDigits n) :=
      Nat.pow_le_pow_right (by decide) (by unfold excessDigits; omega)
    rw [Nat.pow_add 2 53] at hpow
    omega
  · rintro ⟨a, k, ha, rfl⟩
    by_cases hzero : a = 0
    · subst hzero
      simp
    · have hlog : (a * 2 ^ k).log2 < 53 + k := by
        rw [Nat.log2_lt (by positivity), Nat.pow_add]
        exact Nat.mul_lt_mul_of_pos_right ha (Nat.two_pow_pos k)
      have hexcess : excessDigits (a * 2 ^ k) ≤ k := by
        unfold excessDigits
        omega
      exact (Nat.pow_dvd_pow 2 hexcess).mul_left a

-- a half goes to the even neighbour
example : nearest (2 ^ 53 + 1) = 2 ^ 53 ∧ nearest (2 ^ 53 + 3) = 2 ^ 53 + 4 := by decide +kernel

/-! ## What a whole number becomes -/

/-- The first digits of a whole number, fifty-three of them, rounded. -/
def leadingDigits (n : Nat) : Nat := roundHalfEven (n * 2 ^ 53) (2 ^ (n.log2 + 1))

theorem log2_mul_two_pow {n : Nat} (hn : n ≠ 0) (k : Nat) : (n * 2 ^ k).log2 = n.log2 + k := by
  have hpos : 0 < 2 ^ k := Nat.two_pow_pos k
  rw [Nat.log2_eq_iff (Nat.mul_ne_zero hn (by omega)), Nat.pow_add, Nat.add_right_comm, Nat.pow_add]
  exact ⟨Nat.mul_le_mul_right _ (Nat.log2_self_le hn),
    Nat.mul_lt_mul_of_pos_right Nat.lt_log2_self hpos⟩

/-- A number with more than fifty-three digits is rounded. -/
theorem rounded_large {n : Nat} (hlarge : 2 ^ 53 ≤ n) :
    ∃ f, (Float.ofScientific n false 0).toModel = Float.Model.pack f
      ∧ Rounded .positive (leadingDigits n) (n.log2 - 52) f := by
  have hn : n ≠ 0 := by omega
  have hmodel : UnpackedFloat.ofScientific .binary64 n 0
      = roundWithAccuracy .binary64 .positive (n * 2 ^ 53) (-53) .exact := by
    have hscaled : n <<< 53 * 10 ^ (0 : Int).toNat = n * 2 ^ 53 := by
      rw [Nat.shiftLeft_eq]
      exact Nat.mul_one _
    unfold UnpackedFloat.ofScientific
    have hbound : ¬ (0 : Int) < -(2 ^ 11 + n.log2) := by omega
    rw [dif_neg hn, if_neg (by decide), if_neg hbound, if_pos (Int.le_refl 0)]
    change roundWithAccuracy .binary64 .positive (n <<< 53 * 10 ^ (0 : Int).toNat) (-53 + 0) .exact = _
    rw [hscaled]
    rfl
  have hlog : (n * 2 ^ 53).log2 = n.log2 + 53 := log2_mul_two_pow hn 53
  have hrounded := rounded_roundWithAccuracy (s := .positive) (m := n * 2 ^ 53) (e := -53) (by omega)
    (by omega)
  have hshift : (n * 2 ^ 53).log2 - 52 = n.log2 + 1 := by omega
  have hexponent : (-53 : Int) + (n.log2 + 1 : Nat) = n.log2 - 52 := by omega
  rw [hshift, hexponent] at hrounded
  refine ⟨_, ?_, hrounded⟩
  rw [← hmodel, Float.ofScientific, dif_neg (by omega)]
  rfl

/-- A number that is not zero and has no more than fifty-three digits is those, moved to the front. -/
theorem leadingDigits_of_small {n : Nat} (hn : n ≠ 0) (hsmall : n < 2 ^ 53) :
    leadingDigits n = n * 2 ^ (52 - n.log2) := by
  have hlog : n.log2 < 53 := (Nat.log2_lt hn).mpr hsmall
  have hscaled : n * 2 ^ 53 = n * 2 ^ (52 - n.log2) * 2 ^ (n.log2 + 1) := by
    rw [Nat.mul_assoc, ← Nat.pow_add, show 52 - n.log2 + (n.log2 + 1) = 53 by omega]
  unfold leadingDigits
  rw [hscaled, roundHalfEven_of_mod (Nat.two_pow_pos _) (Nat.mul_mod_left _ _),
    Nat.mul_div_cancel _ (Nat.two_pow_pos _)]

theorem model_one : (Float.exactlyRepresentablePowersOfTen[0]).toModel.unpack
    = .finite .positive (2 ^ 52) (-52) (by decide) := by
  rfl

/-- A number with few digits goes through the conversion from machine words. -/
theorem unpack_toFloat {n : Nat} (hn : n ≠ 0) (hsmall : n < 2 ^ 53) (hpos : 0 < leadingDigits n) :
    n.toUInt64.toFloat.toModel.unpack
      = .finite .positive (leadingDigits n) (n.log2 - 52) hpos := by
  have hlog : n.log2 < 53 := (Nat.log2_lt hn).mpr hsmall
  have hword : n.toUInt64.toNat = n := by
    rw [Nat.toUInt64, UInt64.toNat_ofNat']
    omega
  have hdigits := leadingDigits_of_small hn hsmall
  have hfirst : (leadingDigits n).log2 = 52 := by
    rw [hdigits, log2_mul_two_pow hn]
    omega
  have hround : UnpackedFloat.round .binary64 .positive n 0
      = roundWithAccuracy .binary64 .positive (leadingDigits n) (n.log2 - 52) .exact := by
    have htarget : Format.targetExponent .binary64 (totalExponent n 0) = n.log2 - 52 := by
      rw [targetExponent_eq]
      unfold totalExponent
      omega
    have hshift : ((0 : Int) - (n.log2 - 52)).toNat = 52 - n.log2 := by omega
    unfold UnpackedFloat.round decreaseExponent
    simp only [htarget, hshift, Nat.shiftLeft_eq, ← hdigits]
    congr 1
    omega
  have hhigh : leadingDigits n < 2 ^ 53 := by
    have hlt := Nat.lt_log2_self (n := leadingDigits n)
    rwa [hfirst] at hlt
  have hlow : 2 ^ 52 ≤ leadingDigits n := by
    have hle := Nat.log2_self_le (n := leadingDigits n) (by omega)
    rwa [hfirst] at hle
  have hrounded := rounded_roundWithAccuracy (s := .positive) (m := leadingDigits n)
    (e := n.log2 - 52) (by omega) (by omega)
  rw [hfirst, Nat.sub_self, Nat.pow_zero, roundHalfEven_of_mod Nat.one_pos (Nat.mod_one _),
    Nat.div_one, Int.natCast_zero, Int.add_zero] at hrounded
  have hmodel : n.toUInt64.toFloat.toModel
      = Float.Model.pack (UnpackedFloat.normalize .binary64 n 0 .positive) := by
    change Float.Model.pack (UnpackedFloat.normalize .binary64 n.toUInt64.toNat 0 .positive) = _
    rw [hword]
  have hnormal : UnpackedFloat.normalize .binary64 n 0 .positive
      = UnpackedFloat.round .binary64 .positive n 0 := by
    have hcompare : compare (n : Int) 0 = .gt := Int.compare_eq_gt.mpr (by omega)
    unfold UnpackedFloat.normalize
    rw [hcompare]
    rfl
  rw [hmodel, hnormal, hround, hrounded.eq_finite hhigh hpos]
  exact unpack_pack_of_normal hlow hhigh (by omega) (by omega)

/-- A number with no more than fifty-three digits keeps them: the product with one is exact. -/
theorem rounded_small {n : Nat} (hn : n ≠ 0) (hsmall : n < 2 ^ 53) :
    ∃ f, (Float.ofScientific n false 0).toModel = Float.Model.pack f
      ∧ Rounded .positive (leadingDigits n) (n.log2 - 52) f := by
  have hlog : n.log2 < 53 := (Nat.log2_lt hn).mpr hsmall
  have hfirst : (leadingDigits n).log2 = 52 := by
    rw [leadingDigits_of_small hn hsmall, log2_mul_two_pow hn]
    omega
  have hdigits : leadingDigits n ≠ 0 := by
    intro hzero
    rw [hzero] at hfirst
    simp at hfirst
  have hlog' : (leadingDigits n * 2 ^ 52).log2 = 104 := by
    rw [log2_mul_two_pow hdigits, hfirst]
  have hrounded := rounded_roundWithAccuracy (s := .positive) (m := leadingDigits n * 2 ^ 52)
    (e := n.log2 - 52 + -52) (by omega) (by omega)
  rw [hlog', roundHalfEven_of_mod (Nat.two_pow_pos _) (Nat.mul_mod_left _ _),
    Nat.mul_div_cancel _ (Nat.two_pow_pos _),
    show (n.log2 : Int) - 52 + -52 + (104 - 52 : Nat) = n.log2 - 52 by omega] at hrounded
  refine ⟨_, ?_, hrounded⟩
  rw [Float.ofScientific, dif_pos ⟨hsmall, by decide⟩]
  change Float.Model.pack (UnpackedFloat.mul .binary64 n.toUInt64.toFloat.toModel.unpack
    (Float.exactlyRepresentablePowersOfTen[0]).toModel.unpack) = _
  rw [model_one, unpack_toFloat hn hsmall (by omega)]
  rfl

/-- Whatever its size, a whole number becomes its leading digits. -/
theorem rounded_ofScientific {n : Nat} (hn : n ≠ 0) :
    ∃ f, (Float.ofScientific n false 0).toModel = Float.Model.pack f
      ∧ Rounded .positive (leadingDigits n) (n.log2 - 52) f := by
  by_cases hsmall : n < 2 ^ 53
  · exact rounded_small hn hsmall
  · exact rounded_large (Nat.le_of_not_lt hsmall)

theorem leadingDigits_mul {n : Nat} (hlarge : 52 ≤ n.log2) :
    leadingDigits n * 2 ^ excessDigits n = nearest n := by
  have hscale : 2 ^ (n.log2 + 1) = 2 ^ excessDigits n * 2 ^ 53 := by
    rw [← Nat.pow_add]
    congr 1
    unfold excessDigits
    omega
  unfold leadingDigits nearest
  rw [hscale, roundHalfEven_mul_right _ _ (Nat.two_pow_pos 53)]

theorem nearest_of_small {n : Nat} (hsmall : n < 2 ^ 53) : nearest n = n :=
  (nearest_eq_self_iff n).mpr ⟨n, 0, hsmall, (Nat.mul_one n).symm⟩

theorem twoTo_pos (n : Nat) : 0 < twoTo n := Nat.two_pow_pos n

theorem twoTo_add (m n : Nat) : twoTo (m + n) = 2 ^ m * 2 ^ n := Nat.pow_add 2 m n

theorem floor_of_nonneg (negative : Bool) (m : Nat) {e : Int} (he : 0 ≤ e) :
    (Binary.mk negative m e).floor = m * 2 ^ e.toNat := by
  unfold Binary.floor Binary.quotient
  rw [if_pos he]
  exact Nat.div_one _

theorem floor_of_neg (negative : Bool) (m : Nat) {e : Int} (he : e < 0) :
    (Binary.mk negative m e).floor = m / 2 ^ (-e).toNat := by
  unfold Binary.floor Binary.quotient
  rw [if_neg (Int.not_le.mpr he)]
  rfl

/-- A number of fifty-three digits is within a range of powers of two if its exponent is. -/
theorem floor_lt_iff {negative : Bool} {m : Nat} {e : Int} (hlow : 2 ^ 52 ≤ m) (hhigh : m < 2 ^ 53)
    (most : Nat) : (Binary.mk negative m e).floor < twoTo (53 + most) ↔ e ≤ most := by
  have hlimit : twoTo (53 + most) = 2 ^ 53 * 2 ^ most := twoTo_add 53 most
  by_cases he : 0 ≤ e
  · rw [floor_of_nonneg negative m he, hlimit]
    constructor
    · intro hlt
      by_contra hlarge
      have hpow : 2 ^ (most + 1) ≤ 2 ^ e.toNat := Nat.pow_le_pow_right (by decide) (by omega)
      have hle : 2 ^ 52 * 2 ^ (most + 1) ≤ m * 2 ^ e.toNat := Nat.mul_le_mul hlow hpow
      rw [Nat.pow_succ] at hle
      omega
    · intro hle
      have hpow : 2 ^ e.toNat ≤ 2 ^ most := Nat.pow_le_pow_right (by decide) (by omega)
      calc m * 2 ^ e.toNat < 2 ^ 53 * 2 ^ e.toNat :=
            Nat.mul_lt_mul_of_pos_right hhigh (Nat.two_pow_pos _)
        _ ≤ 2 ^ 53 * 2 ^ most := Nat.mul_le_mul_left _ hpow
  · rw [floor_of_neg negative m (Int.not_le.mp he), hlimit]
    have hsmall : m / 2 ^ (-e).toNat < 2 ^ 53 := Nat.lt_of_le_of_lt (Nat.div_le_self _ _) hhigh
    have hrange : 2 ^ 53 ≤ 2 ^ 53 * 2 ^ most := Nat.le_mul_of_pos_right _ (Nat.two_pow_pos most)
    exact ⟨fun _ => by omega, fun _ => Nat.lt_of_lt_of_le hsmall hrange⟩

/-- What a whole number becomes is of fifty-three digits, and its value is the nearest double. -/
theorem Rounded.exists_finite {s : Sign} {n : Nat} {f : UnpackedFloat} (hn : n ≠ 0)
    (h : Rounded s (leadingDigits n) (n.log2 - 52) f) :
    ∃ m e hpos, f = .finite s m e hpos ∧ 2 ^ 52 ≤ m ∧ m < 2 ^ 53 ∧ -1074 ≤ e
      ∧ ∀ negative, (Binary.mk negative m e).floor = nearest n := by
  by_cases hlarge : 52 ≤ n.log2
  · have hvalue := leadingDigits_mul hlarge
    unfold excessDigits at hvalue
    cases h with
    | kept hlow hhigh hpos =>
      refine ⟨_, _, hpos, rfl, hlow, hhigh, by omega, fun negative => ?_⟩
      rw [floor_of_nonneg _ _ (by omega), ← hvalue]
      congr 2
      omega
    | carried hcarry hpos =>
      refine ⟨_, _, hpos, rfl, Nat.le_refl _, by decide, by omega, fun negative => ?_⟩
      rw [floor_of_nonneg _ _ (by omega), ← hvalue, hcarry, ← Nat.pow_add, ← Nat.pow_add]
      congr 1
      omega
  · have hsmall : n < 2 ^ 53 := (Nat.log2_lt hn).mp (by omega)
    have hdigits := leadingDigits_of_small hn hsmall
    have hshift : n * 2 ^ (52 - n.log2) < 2 ^ 53 := by
      have hlt : n * 2 ^ (52 - n.log2) < 2 ^ (n.log2 + 1) * 2 ^ (52 - n.log2) :=
        Nat.mul_lt_mul_of_pos_right Nat.lt_log2_self (Nat.two_pow_pos _)
      rwa [← Nat.pow_add, show n.log2 + 1 + (52 - n.log2) = 53 by omega] at hlt
    rw [nearest_of_small hsmall]
    cases h with
    | kept hlow hhigh hpos =>
      refine ⟨_, _, hpos, rfl, hlow, hhigh, by omega, fun negative => ?_⟩
      rw [floor_of_neg _ _ (by omega), hdigits,
        show (-((n.log2 : Int) - 52)).toNat = 52 - n.log2 by omega]
      exact Nat.mul_div_cancel _ (Nat.two_pow_pos _)
    | carried hcarry => omega

/-- A double as it is read again: it is infinite if its exponent was out of range. -/
theorem exactValue?_unpack_pack (s : Sign) {m : Nat} {e : Int} (hpos : 0 < m) (hlow : 2 ^ 52 ≤ m)
    (hhigh : m < 2 ^ 53) (hleast : -1074 ≤ e) :
    exactValue? (Float.Model.pack (.finite s m e hpos)).unpack
        = (if e ≤ 971 then some ⟨isMinus s, m, e⟩ else none)
      ∧ exactValue? (Float.Model.pack (Float.Model.pack (.finite s m e hpos)).unpack.neg).unpack
        = if e ≤ 971 then some ⟨isMinus (-s), m, e⟩ else none := by
  by_cases hmost : e ≤ 971
  · rw [if_pos hmost, if_pos hmost, unpack_pack_of_normal hlow hhigh hleast hmost]
    exact ⟨rfl, congrArg exactValue? (unpack_pack_of_normal hlow hhigh hleast hmost)⟩
  · rw [if_neg hmost, if_neg hmost, unpack_pack_of_large (Int.not_le.mp hmost)]
    refine ⟨rfl, ?_⟩
    cases s <;> rfl

/-- The double of a whole number has the magnitude that is nearest to its own, if that is within the
range of doubles, and is infinite otherwise. -/
theorem ofFloat?_ofInt (n : Int) :
    (nearest n.natAbs < twoTo 1024 →
      ∃ b, Binary.ofFloat? (ofInt n) = some b ∧ b.floor = nearest n.natAbs)
      ∧ (twoTo 1024 ≤ nearest n.natAbs → Binary.ofFloat? (ofInt n) = none) := by
  by_cases hn : n = 0
  · subst hn
    have hzero : nearest (Int.natAbs 0) = 0 := nearest_of_small (by decide)
    rw [hzero]
    have hread : Binary.ofFloat? (ofInt 0) = some ⟨false, 0, -1074⟩ := by
      rw [ofFloat?_eq]
      rfl
    have hfloor : (Binary.mk false 0 (-1074)).floor = 0 := by
      rw [floor_of_neg false 0 (by decide), Nat.zero_div]
    exact ⟨fun _ => ⟨_, hread, hfloor⟩, fun h => absurd h (Nat.not_le.mpr (twoTo_pos 1024))⟩
  · have habs : n.natAbs ≠ 0 := Int.natAbs_ne_zero.mpr hn
    obtain ⟨f, hmodel, hrounded⟩ := rounded_ofScientific habs
    obtain ⟨m, e, hpos, rfl, hlow, hhigh, hleast, hfloor⟩ := hrounded.exists_finite habs
    obtain ⟨hplus, hminus⟩ := exactValue?_unpack_pack .positive hpos hlow hhigh hleast
    have hread : Binary.ofFloat? (ofInt n)
        = if e ≤ 971 then some ⟨decide (n < 0), m, e⟩ else none := by
      rw [ofFloat?_eq]
      unfold ofInt
      by_cases hsign : n < 0
      · rw [if_pos hsign, decide_eq_true hsign]
        change exactValue? (Float.Model.pack
          (Float.ofScientific n.natAbs false 0).toModel.unpack.neg).unpack = _
        rw [hmodel, hminus]
        rfl
      · rw [if_neg hsign, decide_eq_false hsign, hmodel, hplus]
        rfl
    have hrange : nearest n.natAbs < twoTo 1024 ↔ e ≤ 971 := by
      rw [← hfloor false]
      exact floor_lt_iff hlow hhigh 971
    rw [hread]
    constructor
    · intro hlt
      rw [if_pos (hrange.mp hlt)]
      exact ⟨_, rfl, hfloor _⟩
    · intro hge
      rw [if_neg fun he => absurd (hrange.mpr he) (Nat.not_lt.mpr hge)]

theorem isFinite_ofInt (n : Int) : isFinite (ofInt n) = true ↔ nearest n.natAbs < twoTo 1024 := by
  obtain ⟨hfinite, hinfinite⟩ := ofFloat?_ofInt n
  unfold isFinite
  by_cases h : nearest n.natAbs < twoTo 1024
  · obtain ⟨b, hb, -⟩ := hfinite h
    simp [hb, h]
  · simp [hinfinite (Nat.le_of_not_lt h), h]

theorem floorAbs_ofInt {n : Int} (h : isFinite (ofInt n) = true) :
    floorAbs (ofInt n) = nearest n.natAbs := by
  obtain ⟨b, hb, hfloor⟩ := (ofFloat?_ofInt n).1 ((isFinite_ofInt n).mp h)
  unfold floorAbs
  rw [hb]
  exact hfloor

end SqlComposer.Number
