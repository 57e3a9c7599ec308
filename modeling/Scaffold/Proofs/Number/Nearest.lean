import Mathlib
import Scaffold.Proofs.Json.WellFormed

/-!
# Whole numbers as floating point values

A floating point value that is whole has fifty-three significant bits. A whole number with no more
of them is such a value, and a longer one is rounded to a multiple of the power of two that its
length asks for. None of the values is nearer to it than this multiple: those that are no multiples
themselves are so small that a power of two lies between.
-/

namespace Scaffold.Double

/-! ## Rounded quotients -/

theorem roundedQuotient_cases (num den : Nat) :
    (roundedQuotient num den = num / den ∧ 2 * (num % den) ≤ den) ∨
      (roundedQuotient num den = num / den + 1 ∧ den ≤ 2 * (num % den)) := by
  unfold roundedQuotient
  dsimp only
  split_ifs with hless hmore heven
  · exact .inl ⟨rfl, hless.le⟩
  · exact .inr ⟨rfl, hmore.le⟩
  · exact .inl ⟨rfl, Nat.not_lt.1 hmore⟩
  · exact .inr ⟨rfl, Nat.not_lt.1 hless⟩

theorem roundedQuotient_one (num : Nat) : roundedQuotient num 1 = num := by
  rcases roundedQuotient_cases num 1 with ⟨heq, -⟩ | ⟨-, hrest⟩
  · rw [heq, Nat.div_one]
  · omega

/-- The multiple that is chosen is a nearest one. -/
theorem roundedQuotient_nearest {den : Nat} (hden : 0 < den) (num j : Nat) :
    ((num : Int) - (roundedQuotient num den * den : Nat)).natAbs ≤
      ((num : Int) - (j * den : Nat)).natAbs := by
  have hdiv : num / den * den + num % den = num := by
    rw [Nat.mul_comm]
    exact Nat.div_add_mod num den
  have hmod : num % den < den := Nat.mod_lt num hden
  have hside : j * den ≤ num / den * den ∨ num / den * den + den ≤ j * den := by
    rcases Nat.lt_or_ge (num / den) j with hj | hj
    · right
      rw [← Nat.succ_mul]
      exact Nat.mul_le_mul_right den hj
    · exact .inl (Nat.mul_le_mul_right den hj)
  rcases roundedQuotient_cases num den with ⟨heq, hrest⟩ | ⟨heq, hrest⟩
  · rw [heq]
    omega
  · rw [heq, Nat.succ_mul]
    omega

theorem le_roundedQuotient {low num den : Nat} (hden : 0 < den) (h : low * den ≤ num) :
    low ≤ roundedQuotient num den := by
  have hlow : low ≤ num / den := (Nat.le_div_iff_mul_le hden).2 h
  rcases roundedQuotient_cases num den with ⟨heq, -⟩ | ⟨heq, -⟩ <;> omega

theorem roundedQuotient_le {high num den : Nat} (hden : 0 < den) (h : num < high * den) :
    roundedQuotient num den ≤ high := by
  have hhigh : num / den < high := (Nat.div_lt_iff_lt_mul hden).2 h
  rcases roundedQuotient_cases num den with ⟨heq, -⟩ | ⟨heq, -⟩ <;> omega

/-! ## Values by their fields -/

/-- A magnitude with a sign. -/
def signed (negative : Bool) (n : Nat) : Int :=
  if negative then -(n : Int) else n

theorem toInt?_of_magnitude {x : Double} {n e : Nat} (hfinite : x.isFinite = true)
    (h : x.magnitude = ⟨n, e⟩) : x.toInt? = some (signed x.negative (n * 2 ^ e)) := by
  have hcut : x.truncated = (signed x.negative (n * 2 ^ e), false) := by
    rw [truncated, h]
    dsimp only
    rw [if_pos (Int.natCast_nonneg e), Int.toNat_natCast, signed]
  rw [toInt?, if_pos hfinite, hcut]

theorem toInt?_of_magnitude_neg {x : Double} {n e : Nat} (hfinite : x.isFinite = true)
    (h : x.magnitude = ⟨n * 2 ^ e, -e⟩) : x.toInt? = some (signed x.negative n) := by
  rcases Nat.eq_zero_or_pos e with rfl | hpos
  · have hplain : x.magnitude = ⟨n, (0 : Nat)⟩ := by
      rw [h]
      congr 1
      exact Nat.mul_one n
    rw [toInt?_of_magnitude hfinite hplain, Nat.pow_zero, Nat.mul_one]
  · have hcut : x.truncated = (signed x.negative n, false) := by
      have hsign : ¬ (0 : Int) ≤ -(e : Int) := by omega
      rw [truncated, h]
      dsimp only
      rw [if_neg hsign, Int.neg_neg, Int.toNat_natCast, Nat.mul_div_cancel _ (Nat.two_pow_pos e),
        Nat.mul_mod_left, signed]
      rfl
    rw [toInt?, if_pos hfinite, hcut]

section Fields

variable {negative : Bool} {biased q : Nat}

theorem negative_ofSignAndBits {body : Nat} (h : body < 2 ^ 63) :
    (ofSignAndBits negative body).negative = negative := by
  have hhalf : (0x8000000000000000 : UInt64).toNat = 2 ^ 63 := by decide
  unfold Double.negative
  simp only [UInt64.le_iff_toNat_le, toNat_bits_ofSignAndBits h, hhalf]
  cases negative
  · simpa using h
  · simp

variable (negative)

theorem fields_ofSignAndBits (hbiased : biased ≤ 2044) (hlow : 2 ^ 52 ≤ q) (hhigh : q < 2 ^ 53) :
    (ofSignAndBits negative (biased * 2 ^ 52 + q)).exponentField = biased + 1 ∧
      (ofSignAndBits negative (biased * 2 ^ 52 + q)).fractionField = q - 2 ^ 52 := by
  have hbody : biased * 2 ^ 52 + q < 2 ^ 63 := by omega
  unfold exponentField fractionField
  rw [toNat_bits_ofSignAndBits hbody]
  cases negative
  · simp only [Bool.false_eq_true, if_false]
    omega
  · simp only [if_true]
    omega

theorem magnitude_ofSignAndBits (hbiased : biased ≤ 2044) (hlow : 2 ^ 52 ≤ q)
    (hhigh : q < 2 ^ 53) :
    (ofSignAndBits negative (biased * 2 ^ 52 + q)).magnitude = ⟨q, (biased : Int) - 1074⟩ := by
  obtain ⟨hexponent, hfraction⟩ := fields_ofSignAndBits negative hbiased hlow hhigh
  have hmantissa : 2 ^ 52 + (q - 2 ^ 52) = q := Nat.add_sub_of_le hlow
  have hshift : ((biased + 1 : Nat) : Int) - 1075 = (biased : Int) - 1074 := by omega
  rw [magnitude, hexponent, hfraction, if_neg (Nat.succ_ne_zero biased), hmantissa, hshift]

theorem isFinite_ofSignAndBits (hbiased : biased ≤ 2044) (hlow : 2 ^ 52 ≤ q)
    (hhigh : q < 2 ^ 53) : (ofSignAndBits negative (biased * 2 ^ 52 + q)).isFinite = true := by
  obtain ⟨hexponent, -⟩ := fields_ofSignAndBits negative hbiased hlow hhigh
  rw [isFinite, hexponent, bne_iff_ne]
  omega

end Fields

/-! ## Whole numbers -/

section Whole

variable {negative : Bool} {n : Nat}

/-- How many of the last bits of a number go beyond fifty-three. -/
def lostBits (n : Nat) : Nat :=
  Nat.log2 n - 52

/-- A number to fifty-three significant bits. -/
def roundedWhole (n : Nat) : Nat :=
  roundedQuotient n (2 ^ lostBits n) * 2 ^ lostBits n

theorem log2_eq_lostBits (h : 52 ≤ Nat.log2 n) : Nat.log2 n = 52 + lostBits n := by
  unfold lostBits
  omega

theorem le_of_lostBits (h : 52 ≤ Nat.log2 n) : 2 ^ 52 * 2 ^ lostBits n ≤ n := by
  rw [← pow_add, ← log2_eq_lostBits h]
  apply Nat.log2_self_le
  rintro rfl
  simp at h

theorem lt_of_lostBits (h : 52 ≤ Nat.log2 n) : n < 2 ^ 53 * 2 ^ lostBits n := by
  have hbits : 53 + lostBits n = Nat.log2 n + 1 := by
    have hlost := log2_eq_lostBits h
    omega
  rw [← pow_add, hbits]
  exact Nat.lt_log2_self

theorem ofRatio_of_scaledRatio (negative : Bool) {a b : Nat} (hn : n ≠ 0) (hlog : Nat.log2 n ≤ 1000)
    (hscaled : scaledRatio n 1 ((Nat.log2 n : Int) - 52) = (a, b)) (hlow : 2 ^ 52 * b ≤ a)
    (hhigh : roundedQuotient a b ≤ 2 ^ 53) :
    ofRatio negative n 1 =
      ofSignAndBits negative ((Nat.log2 n + 1022) * 2 ^ 52 + roundedQuotient a b) := by
  have hone : Nat.log2 1 = 0 := by decide
  have hguess : (Nat.log2 n : Int) - (Nat.log2 1 : Nat) - 52 = (Nat.log2 n : Int) - 52 := by
    rw [hone]
    omega
  have hleast : max ((Nat.log2 n : Int) - 52) (-1074) = (Nat.log2 n : Int) - 52 := by omega
  have hnormal : ¬ (Nat.log2 n : Int) - 52 = -1074 := by omega
  have hbiased : ((Nat.log2 n : Int) - 52 + 1074).toNat = Nat.log2 n + 1022 := by omega
  have hfinite : ¬ 2047 * 2 ^ 52 ≤ (Nat.log2 n + 1022) * 2 ^ 52 + roundedQuotient a b := by omega
  rw [ofRatio, if_neg (by simp [hn])]
  simp only [hguess, hscaled, hlow, if_true, hleast, hnormal, if_false, hbiased, hfinite]

/-- The values of a normal exponent and the next higher power of two. -/
theorem toInt?_ofSignAndBits {e q : Nat} (he : e ≤ 900) (hlow : 2 ^ 52 ≤ q) (hhigh : q ≤ 2 ^ 53) :
    (ofSignAndBits negative ((e + 1074) * 2 ^ 52 + q)).toInt? =
      some (signed negative (q * 2 ^ e)) := by
  have hbody : (e + 1074) * 2 ^ 52 + q < 2 ^ 63 := by omega
  rcases Nat.lt_or_eq_of_le hhigh with hless | rfl
  · have hbiased : e + 1074 ≤ 2044 := by omega
    have hfinite := isFinite_ofSignAndBits negative hbiased hlow hless
    have hmagnitude := magnitude_ofSignAndBits negative hbiased hlow hless
    have hshift : ((e + 1074 : Nat) : Int) - 1074 = e := by omega
    rw [hshift] at hmagnitude
    rw [toInt?_of_magnitude hfinite hmagnitude, negative_ofSignAndBits hbody]
  · -- the fraction is full, so the exponent goes up by one
    have hcarry : (e + 1074) * 2 ^ 52 + 2 ^ 53 = (e + 1075) * 2 ^ 52 + 2 ^ 52 := by omega
    have hbiased : e + 1075 ≤ 2044 := by omega
    have hfinite := isFinite_ofSignAndBits negative hbiased le_rfl (by decide)
    have hmagnitude := magnitude_ofSignAndBits negative hbiased le_rfl (by decide)
    have hshift : ((e + 1075 : Nat) : Int) - 1074 = (e + 1 : Nat) := by omega
    have hvalue : (2 : Nat) ^ 52 * 2 ^ (e + 1) = 2 ^ 53 * 2 ^ e := by
      rw [Nat.pow_succ]
      omega
    rw [hshift] at hmagnitude
    rw [hcarry] at hbody ⊢
    rw [toInt?_of_magnitude hfinite hmagnitude, negative_ofSignAndBits hbody, hvalue]

theorem toInt?_ofRatio_of_short (hn : n ≠ 0) (h : Nat.log2 n ≤ 52) :
    (ofRatio negative n 1).toInt? = some (signed negative n) := by
  obtain ⟨spare, hspare⟩ := Nat.exists_eq_add_of_le h
  have hscaled : scaledRatio n 1 ((Nat.log2 n : Int) - 52) = (n * 2 ^ spare, 1) := by
    unfold scaledRatio
    rcases Nat.eq_zero_or_pos spare with rfl | hpos
    · have hexponent : (Nat.log2 n : Int) - 52 = 0 := by omega
      simp [hexponent]
    · have hexponent : (-((Nat.log2 n : Int) - 52)).toNat = spare := by omega
      rw [if_neg (by omega), hexponent]
  have hlow : 2 ^ 52 ≤ n * 2 ^ spare := by
    rw [hspare, pow_add]
    exact Nat.mul_le_mul_right _ (Nat.log2_self_le hn)
  have hhigh : n * 2 ^ spare < 2 ^ 53 := by
    have hsplit : (2 : Nat) ^ 53 = 2 ^ (Nat.log2 n + 1) * 2 ^ spare := by
      rw [← pow_add]
      congr 1
      omega
    rw [hsplit]
    exact Nat.mul_lt_mul_of_pos_right Nat.lt_log2_self (Nat.two_pow_pos spare)
  have hvalue := ofRatio_of_scaledRatio negative hn (by omega) hscaled
    (by omega) (by rw [roundedQuotient_one]; exact hhigh.le)
  rw [roundedQuotient_one] at hvalue
  have hbiased : Nat.log2 n + 1022 ≤ 2044 := by omega
  have hmagnitude := magnitude_ofSignAndBits negative hbiased hlow hhigh
  have hshift : ((Nat.log2 n + 1022 : Nat) : Int) - 1074 = -spare := by omega
  rw [hshift] at hmagnitude
  have hfinite := isFinite_ofSignAndBits negative hbiased hlow hhigh
  rw [hvalue, toInt?_of_magnitude_neg hfinite hmagnitude, negative_ofSignAndBits (by omega)]

theorem toInt?_ofRatio_of_long (h : 52 ≤ Nat.log2 n) (hhigh : Nat.log2 n ≤ 900) :
    (ofRatio negative n 1).toInt? = some (signed negative (roundedWhole n)) := by
  have hn : n ≠ 0 := by
    rintro rfl
    simp at h
  have hlost := log2_eq_lostBits h
  have hscaled : scaledRatio n 1 ((Nat.log2 n : Int) - 52) = (n, 2 ^ lostBits n) := by
    have hexponent : ((Nat.log2 n : Int) - 52).toNat = lostBits n := by omega
    rw [scaledRatio, if_pos (by omega), hexponent, Nat.one_mul]
  have hlow := le_of_lostBits h
  have hdigits := roundedQuotient_le (Nat.two_pow_pos (lostBits n)) (lt_of_lostBits h)
  have hvalue := ofRatio_of_scaledRatio negative hn (by omega) hscaled hlow hdigits
  have hbiased : Nat.log2 n + 1022 = lostBits n + 1074 := by omega
  rw [hvalue, hbiased, toInt?_ofSignAndBits (by omega)
    (le_roundedQuotient (Nat.two_pow_pos (lostBits n)) hlow) hdigits, roundedWhole]

theorem roundedWhole_of_short (h : Nat.log2 n ≤ 52) : roundedWhole n = n := by
  have hlost : lostBits n = 0 := by
    unfold lostBits
    omega
  rw [roundedWhole, hlost, Nat.pow_zero, roundedQuotient_one, Nat.mul_one]

theorem toInt?_ofRatio (h : Nat.log2 n ≤ 900) :
    (ofRatio negative n 1).toInt? = some (signed negative (roundedWhole n)) := by
  rcases Nat.lt_or_ge 52 (Nat.log2 n) with hlong | hshort
  · exact toInt?_ofRatio_of_long hlong.le h
  · rw [roundedWhole_of_short hshort]
    by_cases hn : n = 0
    · rw [hn]
      cases negative <;> decide +kernel
    · exact toInt?_ofRatio_of_short hn hshort

end Whole

/-! ## Nearest values -/

/-- A whole number with at most fifty-three significant bits. -/
def FitsInt (n : Int) : Prop :=
  ∃ (m : Int) (e : Nat), m.natAbs < 2 ^ 53 ∧ n = m * 2 ^ e

/-- Of the numbers with fifty-three significant bits none is nearer to `n` than `r`. -/
structure NearestTo (n r : Int) : Prop where
  fits : FitsInt r
  least : ∀ q, FitsInt q → (n - r).natAbs ≤ (n - q).natAbs

theorem NearestTo.eq_iff {n r : Int} (h : NearestTo n r) : r = n ↔ FitsInt n := by
  constructor
  · rintro rfl
    exact h.fits
  · intro hn
    have hleast := h.least n hn
    omega

theorem fits_roundedWhole (n : Nat) : ∃ m e : Nat, m < 2 ^ 53 ∧ roundedWhole n = m * 2 ^ e := by
  rcases Nat.lt_or_ge 52 (Nat.log2 n) with hlong | hshort
  · have hdigits := roundedQuotient_le (Nat.two_pow_pos (lostBits n)) (lt_of_lostBits hlong.le)
    rcases Nat.lt_or_eq_of_le hdigits with hdigits | hdigits
    · exact ⟨_, _, hdigits, rfl⟩
    · refine ⟨1, 53 + lostBits n, by decide, ?_⟩
      rw [roundedWhole, hdigits, Nat.one_mul, pow_add]
  · refine ⟨n, 0, ?_, ?_⟩
    · have hpower : (2 : Nat) ^ (Nat.log2 n + 1) ≤ 2 ^ 53 :=
        Nat.pow_le_pow_right (by decide) (by omega)
      exact Nat.lt_log2_self.trans_le hpower
    · rw [roundedWhole_of_short hshort, Nat.pow_zero, Nat.mul_one]

theorem roundedWhole_least (n : Nat) {m : Nat} (e : Nat) (hm : m < 2 ^ 53) :
    ((n : Int) - roundedWhole n).natAbs ≤ ((n : Int) - (m * 2 ^ e : Nat)).natAbs := by
  rcases Nat.lt_or_ge 52 (Nat.log2 n) with hlong | hshort
  · have hnearest := roundedQuotient_nearest (Nat.two_pow_pos (lostBits n)) n
    rcases Nat.lt_or_ge e (lostBits n) with hfine | hcoarse
    · -- what is no multiple of the last place lies below the leading power of two
      have hpower := le_of_lostBits hlong.le
      have hbelow : m * 2 ^ e ≤ 2 ^ 52 * 2 ^ lostBits n := by
        have hstep : (2 : Nat) ^ 53 * 2 ^ e = 2 ^ 52 * 2 ^ (e + 1) := by
          rw [Nat.pow_succ]
          omega
        calc m * 2 ^ e ≤ 2 ^ 53 * 2 ^ e := Nat.mul_le_mul_right _ hm.le
          _ = 2 ^ 52 * 2 ^ (e + 1) := hstep
          _ ≤ 2 ^ 52 * 2 ^ lostBits n :=
            Nat.mul_le_mul_left _ (Nat.pow_le_pow_right (by decide) hfine)
      have hleading := hnearest (2 ^ 52)
      rw [roundedWhole]
      omega
    · have hmultiple : m * 2 ^ e = m * 2 ^ (e - lostBits n) * 2 ^ lostBits n := by
        rw [Nat.mul_assoc, ← pow_add, Nat.sub_add_cancel hcoarse]
      rw [hmultiple]
      exact hnearest _
  · rw [roundedWhole_of_short hshort, Int.sub_self]
    exact Nat.zero_le _

theorem natAbs_signed (negative : Bool) (n : Nat) : (signed negative n).natAbs = n := by
  cases negative <;> simp [signed]

theorem fitsInt_signed (negative : Bool) {m : Nat} (e : Nat) (h : m < 2 ^ 53) :
    FitsInt (signed negative (m * 2 ^ e)) := by
  refine ⟨signed negative m, e, ?_, ?_⟩
  · rwa [natAbs_signed]
  · cases negative <;> simp [signed]

/-- A whole number is read as a nearest one of those that are floating point values. -/
theorem exists_nearestTo_ofInt {n : Int} (h : Nat.log2 n.natAbs ≤ 900) :
    ∃ r, (ofInt n).toInt? = some r ∧ NearestTo n r := by
  refine ⟨signed (n < 0) (roundedWhole n.natAbs), toInt?_ofRatio h, ?_, ?_⟩
  · obtain ⟨m, e, hm, heq⟩ := fits_roundedWhole n.natAbs
    rw [heq]
    exact fitsInt_signed _ e hm
  · rintro q ⟨m, e, hm, rfl⟩
    have hleast := roundedWhole_least n.natAbs e hm
    have habs : (m * 2 ^ e).natAbs = m.natAbs * 2 ^ e := by
      rw [Int.natAbs_mul, Int.natAbs_pow]
      rfl
    have hsame : (n - signed (n < 0) (roundedWhole n.natAbs)).natAbs =
        ((n.natAbs : Int) - roundedWhole n.natAbs).natAbs := by
      by_cases hneg : n < 0
      · simp only [signed, hneg, decide_true, if_true]
        omega
      · simp only [signed, hneg, decide_false, Bool.false_eq_true, if_false]
        omega
    rw [hsame]
    rw [← habs] at hleast
    omega

end Scaffold.Double
