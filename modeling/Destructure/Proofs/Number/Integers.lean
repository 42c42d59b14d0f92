import Destructure.Number.Rounding
import Mathlib.Data.Nat.Log

set_option autoImplicit false

/-! # Integers as numbers

An integer below `2 ^ 53` is a number of its own: rounding it loses nothing, and it is read off the
number again (`Number.toInt?_ofInt`). In the other direction, a number that is read as an integer is the
number of that integer, but for the sign of a zero (`Number.ofInt_of_toInt?`). Both come from one
equation: the magnitude of the integer `n` is the one whose ratio is `n` over one
(`Number.ratio_eq_mul_iff`). -/

namespace Destructure.Number

/-! ## Sign and magnitude -/

theorem signBit_eq : signBit = 9223372036854775808 := by decide

theorem infinityMagnitude_lt : infinityMagnitude < signBit := by decide

section OfMagnitude

variable {negative : Bool} {m : Nat}

theorem toNat_bits_ofMagnitude (h : m < signBit) :
    (ofMagnitude negative m).bits.toNat = if negative then m + signBit else m := by
  have hsign := signBit_eq
  rw [ofMagnitude, UInt64.toNat_ofNat']
  refine Nat.mod_eq_of_lt ?_
  split <;> omega

theorem magnitude_ofMagnitude (h : m < signBit) : (ofMagnitude negative m).magnitude = m := by
  rw [magnitude, toNat_bits_ofMagnitude h]
  split
  · rw [Nat.add_mod_right, Nat.mod_eq_of_lt h]
  · exact Nat.mod_eq_of_lt h

theorem negative_ofMagnitude (h : m < signBit) :
    (ofMagnitude negative m).negative = negative := by
  rw [Number.negative, toNat_bits_ofMagnitude h]
  cases negative with
  | true => simp
  | false => simpa using h

end OfMagnitude

/-- A number is its sign and its magnitude. -/
theorem ofMagnitude_eta (x : Number) : ofMagnitude x.negative x.magnitude = x := by
  obtain ⟨bits⟩ := x
  have hbits := bits.toNat_lt
  have hpattern : (if decide (signBit ≤ bits.toNat) then bits.toNat % signBit + signBit
      else bits.toNat % signBit) = bits.toNat := by
    rw [signBit_eq]
    simp only [decide_eq_true_eq]
    split <;> omega
  rw [ofMagnitude, Number.negative, magnitude, hpattern, UInt64.ofNat_toNat]

theorem ext_magnitude {x y : Number} (hnegative : x.negative = y.negative)
    (hmagnitude : x.magnitude = y.magnitude) : x = y := by
  rw [← ofMagnitude_eta x, ← ofMagnitude_eta y, hnegative, hmagnitude]

/-! ## Significand and exponent -/

/-- A magnitude counts the significands of its exponent, after those of all lower ones. -/
theorem magnitude_eq (x : Number) :
    x.magnitude = (x.exponent + 1074).toNat * Nat.pow 2 52 + x.significand := by
  have hpow : Nat.pow 2 52 = 4503599627370496 := by decide
  rw [exponent, significand, hpow]
  split <;> omega

theorem significand_lt (x : Number) : x.significand < exactBound := by
  have hpow : Nat.pow 2 52 = 4503599627370496 := by decide
  have hbound : exactBound = 9007199254740992 := by decide
  rw [significand, hpow, hbound]
  split <;> omega

/-- Only with the lowest exponent a significand may be small. -/
theorem normal_or_lowest (x : Number) : Nat.pow 2 52 ≤ x.significand ∨ x.exponent = -1074 := by
  rw [exponent, significand]
  split
  · exact .inr rfl
  · exact .inl (Nat.le_add_left _ _)

/-- The exponent and the significand are read off the magnitude. -/
theorem fields_of_magnitude {x : Number} {u s : Nat} (hlow : Nat.pow 2 52 ≤ s) (hhigh : s < exactBound)
    (h : x.magnitude = u * Nat.pow 2 52 + s) :
    x.exponent = (u : Int) - 1074 ∧ x.significand = s := by
  have hpow : Nat.pow 2 52 = 4503599627370496 := by decide
  have hbound : exactBound = 9007199254740992 := by decide
  rw [hpow] at hlow h
  rw [hbound] at hhigh
  rw [exponent, significand, hpow, h]
  split <;> omega

theorem ratio_of_exponent_neg {x : Number} {k : Nat} (h : x.exponent = -(k : Int)) :
    x.ratio = (x.significand, Nat.pow 2 k) := by
  rw [ratio, h]
  cases k with
  | zero => exact congrArg (·, 1) (Nat.mul_one _)
  | succ k => rfl

theorem ratio_of_exponent_pos {x : Number} {e : Nat} (h : x.exponent = (e + 1 : Nat)) :
    x.ratio = (x.significand * Nat.pow 2 (e + 1), 1) := by
  rw [ratio, h]

/-! ## Rounding integers -/

/-- Rounding stops at infinity, below the NaNs. -/
theorem nearest_le (num den : Nat) : nearest num den ≤ infinityMagnitude := by
  unfold nearest
  split
  · exact Nat.zero_le _
  · exact Nat.min_le_right _ _

theorem nearest_zero (den : Nat) : nearest 0 den = 0 := rfl

theorem roundHalfEven_one (n : Nat) : roundHalfEven n 1 = n := by
  simp [roundHalfEven, Nat.mod_one]

theorem roundHalfEven_le (num den : Nat) : roundHalfEven num den ≤ num / den + 1 := by
  simp only [roundHalfEven]
  split_ifs <;> omega

theorem binaryExponent_one {n : Nat} (h : n ≠ 0) : binaryExponent n 1 = n.log2 := by
  have hguess : (n.log2 : Int) - (Nat.log2 1 : Nat) = Int.ofNat n.log2 := by
    rw [show Nat.log2 1 = 0 from rfl]
    simp
  have hbelow : ¬ n < 1 * Nat.pow 2 n.log2 := by
    rw [Nat.one_mul]
    exact Nat.not_lt.2 (Nat.log2_self_le h)
  simp only [binaryExponent, hguess, hbelow, decide_false, Bool.false_eq_true, if_false]
  rfl

/-- How far an integer is shifted tells where its first digit is. -/
theorem log2_of_scaled {n k : Nat} (hk : k ≤ 52) (hlow : Nat.pow 2 52 ≤ n * Nat.pow 2 k)
    (hhigh : n * Nat.pow 2 k < exactBound) : n ≠ 0 ∧ n.log2 = 52 - k := by
  simp only [exactBound, Nat.pow_eq] at hlow hhigh
  have hpos : 0 < 2 ^ k := Nat.two_pow_pos k
  have hn : n ≠ 0 := by
    rintro rfl
    simp at hlow
  refine ⟨hn, (Nat.log2_eq_iff hn).2 ⟨?_, ?_⟩⟩
  · refine Nat.le_of_mul_le_mul_right ?_ hpos
    rwa [← Nat.pow_add, Nat.sub_add_cancel hk]
  · refine Nat.lt_of_mul_lt_mul_right (a := 2 ^ k) ?_
    rwa [← Nat.pow_add, show 52 - k + 1 + k = 53 by omega]

/-- An integer that has room for all its digits is shifted to where its first digit belongs. -/
theorem nearest_of_scaled {n k : Nat} (hk : k ≤ 52) (hlow : Nat.pow 2 52 ≤ n * Nat.pow 2 k)
    (hhigh : n * Nat.pow 2 k < exactBound) :
    nearest n 1 = (1074 - k) * Nat.pow 2 52 + n * Nat.pow 2 k := by
  obtain ⟨hn, hlog⟩ := log2_of_scaled hk hlow hhigh
  have hpow : Nat.pow 2 52 = 4503599627370496 := by decide
  have hbound : exactBound = 9007199254740992 := by decide
  have hinfinity : infinityMagnitude = 9218868437227405312 := rfl
  have hunit : max (binaryExponent n 1 - 52) (-1074) = -(k : Int) := by
    rw [binaryExponent_one hn, hlog]
    omega
  rw [nearest, if_neg hn, hunit]
  cases k with
  | zero =>
    show min (1074 * Nat.pow 2 52 + roundHalfEven n 1) infinityMagnitude = _
    rw [roundHalfEven_one]
    have hone : n * Nat.pow 2 0 = n := Nat.mul_one n
    omega
  | succ k =>
    show min ((Int.negSucc k + 1074).toNat * Nat.pow 2 52
      + roundHalfEven (n * Nat.pow 2 (k + 1)) 1) infinityMagnitude = _
    rw [roundHalfEven_one, show (Int.negSucc k + 1074).toNat = 1074 - (k + 1) by omega, hpow]
    omega

/-- A positive integer below the bound can be shifted there. -/
theorem exists_scaled {n : Nat} (hn : n ≠ 0) (h : n < exactBound) :
    ∃ k ≤ 52, Nat.pow 2 52 ≤ n * Nat.pow 2 k ∧ n * Nat.pow 2 k < exactBound := by
  simp only [exactBound, Nat.pow_eq] at h ⊢
  have hlog : n.log2 < 53 := (Nat.log2_lt hn).2 h
  refine ⟨52 - n.log2, Nat.sub_le _ _, ?_, ?_⟩
  · calc 2 ^ 52 = 2 ^ n.log2 * 2 ^ (52 - n.log2) := by rw [← Nat.pow_add]; congr 1; omega
      _ ≤ n * 2 ^ (52 - n.log2) := Nat.mul_le_mul_right _ (Nat.log2_self_le hn)
  · calc n * 2 ^ (52 - n.log2) < 2 ^ (n.log2 + 1) * 2 ^ (52 - n.log2) :=
          Nat.mul_lt_mul_of_pos_right Nat.lt_log2_self (Nat.two_pow_pos _)
      _ = 2 ^ 53 := by rw [← Nat.pow_add]; congr 1; omega

/-- Large integers lose their last digits. -/
theorem nearest_le_of_large {n e : Nat} (hlog : n.log2 = 52 + e) :
    nearest n 1 ≤ (1076 + e) * Nat.pow 2 52 := by
  have hn : n ≠ 0 := by
    rintro rfl
    simp at hlog
    omega
  have hpow : Nat.pow 2 52 = 4503599627370496 := by decide
  have hunit : max (binaryExponent n 1 - 52) (-1074) = Int.ofNat e := by
    rw [binaryExponent_one hn, hlog, Int.ofNat_eq_natCast]
    omega
  have hsignificand : roundHalfEven n (1 * Nat.pow 2 e) ≤ 2 * Nat.pow 2 52 := by
    have hquotient : n / Nat.pow 2 e < 2 * Nat.pow 2 52 := by
      refine (Nat.div_lt_iff_lt_mul (Nat.two_pow_pos e)).2 ?_
      calc n < 2 ^ (n.log2 + 1) := Nat.lt_log2_self
        _ = 2 ^ (1 + 52 + e) := by rw [hlog, Nat.add_comm, Nat.add_assoc]
        _ = 2 * 2 ^ 52 * 2 ^ e := by rw [Nat.pow_add, Nat.pow_add, Nat.pow_one]
    rw [Nat.one_mul]
    exact (roundHalfEven_le n _).trans hquotient
  rw [nearest, if_neg hn, hunit]
  refine (Nat.min_le_left _ _).trans ?_
  dsimp only
  rw [show (Int.ofNat e + 1074).toNat = 1074 + e by rw [Int.ofNat_eq_natCast]; omega]
  rw [hpow] at hsignificand ⊢
  omega

/-- The integers of 64 bits are finite as numbers. -/
theorem nearest_lt {n : Nat} (h : n < Nat.pow 2 64) : nearest n 1 < infinityMagnitude := by
  have hpow : Nat.pow 2 52 = 4503599627370496 := by decide
  have hinfinity : infinityMagnitude = 9218868437227405312 := rfl
  rcases Nat.eq_zero_or_pos n with rfl | hn
  · rw [nearest_zero]
    omega
  by_cases hsmall : n < exactBound
  · have hbound : exactBound = 9007199254740992 := by decide
    obtain ⟨k, hk, hlow, hhigh⟩ := exists_scaled hn.ne' hsmall
    rw [nearest_of_scaled hk hlow hhigh, hpow]
    omega
  · have hlow : 53 ≤ n.log2 := (Nat.le_log2 hn.ne').2 (Nat.not_lt.1 hsmall)
    have hhigh : n.log2 < 64 := (Nat.log2_lt hn.ne').2 h
    have hlarge := nearest_le_of_large (n := n) (e := n.log2 - 52) (by omega)
    rw [hpow] at hlarge
    omega

/-! ## Reading integers -/

/-- The numbers whose ratio is an integer below the bound are those nearest to it. -/
theorem ratio_eq_mul_iff {x : Number} {n : Nat} (h : n < exactBound) :
    x.ratio.1 = n * x.ratio.2 ↔ x.magnitude = nearest n 1 := by
  have hbound : exactBound = 9007199254740992 := by decide
  have hpow : Nat.pow 2 52 = 4503599627370496 := by decide
  have hfields := x.magnitude_eq
  have hsignificand := x.significand_lt
  have hnormal := x.normal_or_lowest
  rcases Nat.eq_zero_or_pos n with rfl | hn
  · -- zero has the lowest exponent and no significand
    rw [nearest_zero, Nat.zero_mul]
    constructor
    · intro hratio
      have hzero : x.significand = 0 := by
        rw [ratio] at hratio
        split at hratio
        · exact (Nat.mul_eq_zero.1 hratio).resolve_right (Nat.two_pow_pos _).ne'
        · exact hratio
      rw [hfields, hzero, hnormal.resolve_left (by omega)]
      rfl
    · intro hmagnitude
      rw [ratio_of_exponent_neg (k := 1074) (by omega)]
      show x.significand = 0
      omega
  constructor
  · intro hratio
    rcases Int.lt_or_le 0 x.exponent with hpos | hneg
    · -- the significand is normal, so twice it is too large
      obtain ⟨e, he⟩ : ∃ e : Nat, x.exponent = (e + 1 : Nat) := ⟨x.exponent.toNat - 1, by omega⟩
      rw [ratio_of_exponent_pos he, Nat.mul_one] at hratio
      have hshift : x.significand * 2 ≤ n := by
        rw [← hratio]
        exact Nat.mul_le_mul_left _ (Nat.le_self_pow (Nat.succ_ne_zero e) 2)
      omega
    · obtain ⟨k, hk⟩ : ∃ k : Nat, x.exponent = -(k : Int) := ⟨(-x.exponent).toNat, by omega⟩
      rw [ratio_of_exponent_neg hk] at hratio
      have hscaled : x.significand = n * Nat.pow 2 k := hratio
      -- a significand has 53 digits, so the integer is not shifted further
      have hshift : k < 53 := by
        refine (Nat.pow_lt_pow_iff_right (Nat.lt_succ_self 1)).1 (hsignificand.trans_le' ?_)
        rw [hscaled]
        exact Nat.le_mul_of_pos_left _ hn
      have hlow : Nat.pow 2 52 ≤ x.significand := hnormal.resolve_right (by omega)
      rw [hscaled] at hfields hlow hsignificand
      rw [hfields, nearest_of_scaled (by omega) hlow hsignificand, hk]
      congr 2
      omega
  · intro hmagnitude
    obtain ⟨k, hk, hlow, hhigh⟩ := exists_scaled hn.ne' h
    rw [nearest_of_scaled hk hlow hhigh] at hmagnitude
    obtain ⟨hexponent, hfield⟩ := fields_of_magnitude hlow hhigh hmagnitude
    rw [ratio_of_exponent_neg (k := k) (by omega), hfield]

theorem ratio_den_pos (x : Number) : 0 < x.ratio.2 := by
  rw [ratio]
  split
  · exact Nat.one_pos
  · exact Nat.two_pow_pos _

/-- The numbers that are read as an integer are those nearest to it, with its sign. -/
theorem toInt?_eq_some_iff {x : Number} {n : Int} :
    x.toInt? = some n ↔ n.natAbs < exactBound ∧ x.magnitude = nearest n.natAbs 1 ∧
      n = if x.negative then -(n.natAbs : Int) else n.natAbs := by
  have hden := x.ratio_den_pos
  rw [toInt?]
  constructor
  · intro h
    split at h
    · dsimp only at h
      split at h
      · next hinteger =>
        obtain ⟨hdivides, hbelow⟩ := hinteger
        have hn := Option.some.inj h
        have habs : n.natAbs = x.ratio.1 / x.ratio.2 := by
          rw [← hn]
          split
          · rw [Int.natAbs_neg, Int.natAbs_natCast]
          · rw [Int.natAbs_natCast]
        rw [habs]
        refine ⟨hbelow, (ratio_eq_mul_iff hbelow).1 ?_, hn.symm⟩
        exact (Nat.div_mul_cancel (Nat.dvd_of_mod_eq_zero hdivides)).symm
      · cases h
    · cases h
  · rintro ⟨hbelow, hmagnitude, hsign⟩
    have hfinite : x.isFinite = true := by
      rw [isFinite, hmagnitude, decide_eq_true_eq]
      exact nearest_lt (hbelow.trans (by decide))
    have hratio := (ratio_eq_mul_iff hbelow).2 hmagnitude
    have hdivides : x.ratio.1 % x.ratio.2 = 0 := by rw [hratio, Nat.mul_mod_left]
    have hquotient : x.ratio.1 / x.ratio.2 = n.natAbs := by rw [hratio, Nat.mul_div_cancel _ hden]
    rw [if_pos hfinite]
    dsimp only
    rw [hquotient, if_pos ⟨hdivides, hbelow⟩, ← hsign]

/-! ## There and back -/

theorem magnitude_ofInt (n : Int) : (ofInt n).magnitude = nearest n.natAbs 1 :=
  magnitude_ofMagnitude ((nearest_le _ 1).trans_lt infinityMagnitude_lt)

theorem negative_ofInt (n : Int) : (ofInt n).negative = decide (n < 0) :=
  negative_ofMagnitude ((nearest_le _ 1).trans_lt infinityMagnitude_lt)

/-- An integer below the bound is read off its number again. -/
theorem toInt?_ofInt {n : Int} (h : n.natAbs < exactBound) : (ofInt n).toInt? = some n := by
  refine toInt?_eq_some_iff.2 ⟨h, magnitude_ofInt n, ?_⟩
  simp only [negative_ofInt, decide_eq_true_eq]
  split <;> omega

/-- A count below the bound is the number that it is written as. -/
theorem toInt?_ofNat {n : Nat} (h : n < exactBound) : (ofNat n).toInt? = some (n : Int) := by
  have hsign : ofInt n = ofNat n := by
    rw [ofInt, ofNat, Int.natAbs_natCast, decide_eq_false (Int.not_lt.2 (Int.natCast_nonneg n))]
  rw [← hsign]
  exact toInt?_ofInt h

theorem toInt?_of_isZero {x : Number} (h : x.isZero) : x.toInt? = some 0 := by
  refine toInt?_eq_some_iff.2 ⟨by decide, of_decide_eq_true h, ?_⟩
  split <;> rfl

/-- The number, with positive zero in the place of negative zero. -/
def unsignedZero (x : Number) : Number := if x.isZero then zero else x

/-- A number that is read as an integer is the number of that integer, but for the sign of a zero. -/
theorem ofInt_of_toInt? {x : Number} {n : Int} (h : x.toInt? = some n) :
    ofInt n = x.unsignedZero := by
  by_cases hzero : x.isZero
  · obtain rfl : n = 0 := Option.some.inj (h.symm.trans (toInt?_of_isZero hzero))
    rw [unsignedZero, if_pos hzero]
    rfl
  · obtain ⟨-, hmagnitude, hsign⟩ := toInt?_eq_some_iff.1 h
    have hn : n ≠ 0 := by
      rintro rfl
      exact hzero (decide_eq_true hmagnitude)
    rw [unsignedZero, if_neg hzero]
    refine ext_magnitude ?_ (by rw [magnitude_ofInt, hmagnitude])
    rw [negative_ofInt]
    split at hsign
    · next hnegative => rw [hnegative, decide_eq_true_eq]; omega
    · next hpositive => rw [eq_false_of_ne_true hpositive, decide_eq_false_iff_not]; omega

/-- A number that is read as no integer is no zero. -/
theorem unsignedZero_of_toInt? {x : Number} (h : x.toInt? = none) : x.unsignedZero = x := by
  refine if_neg fun hzero => ?_
  rw [toInt?_of_isZero hzero] at h
  cases h

/-- The zeros are equal, so nothing but a NaN is changed by that. -/
theorem equals_unsignedZero (x : Number) : x.unsignedZero.equals x = !x.isNaN := by
  rw [unsignedZero]
  split
  · next hzero =>
    have hmagnitude : x.magnitude = 0 := of_decide_eq_true hzero
    have hkey : x.key = 0 := by simp [key, hmagnitude]
    have hnan : x.isNaN = false := by simp [isNaN, hmagnitude]
    rw [equals, hkey, hnan]
    decide
  · exact equals_self x

/-! ## Numbers that are finite -/

theorem isFinite_ofInt {n : Int} (h : n.natAbs < Nat.pow 2 64) : (ofInt n).isFinite := by
  rw [isFinite, magnitude_ofInt, decide_eq_true_eq]
  exact nearest_lt h

theorem magnitude_ofNat (n : Nat) : (ofNat n).magnitude = nearest n 1 :=
  magnitude_ofMagnitude ((nearest_le _ 1).trans_lt infinityMagnitude_lt)

theorem isFinite_ofNat {n : Nat} (h : n < Nat.pow 2 64) : (ofNat n).isFinite := by
  rw [isFinite, magnitude_ofNat, decide_eq_true_eq]
  exact nearest_lt h

/-- However large the integer is, its number is no NaN. -/
theorem equals_self_ofNat (n : Nat) : (ofNat n).equals (ofNat n) := by
  rw [equals_self, isNaN, magnitude_ofNat, decide_eq_false (Nat.not_lt_of_le (nearest_le n 1))]
  rfl

theorem isNaN_of_isFinite {x : Number} (h : x.isFinite) : x.isNaN = false := by
  simp only [isFinite, isNaN, decide_eq_true_eq, decide_eq_false_iff_not] at h ⊢
  omega

end Destructure.Number
