/-!
# The double nearest to a fraction

A double precision number is a whole number of at most 53 bits times a power
of two not below `2 ^ (-1074)`. The double nearest to a fraction is found in
whole numbers: the power is chosen so that the quotient has 53 bits, the
quotient is rounded, and a tie goes to the even neighbour. What is too large
becomes infinite.
-/

namespace Flowchart.Double

/-- The whole number nearest to a quotient; of two equally near, the even
one. -/
def roundDiv (n d : Nat) : Nat :=
  let whole := n / d
  let rest := n % d
  if d < 2 * rest || (2 * rest == d && whole % 2 == 1) then whole + 1 else whole

/-- A rounded quotient is the quotient or the next number. -/
theorem roundDiv_eq (n d : Nat) : roundDiv n d = n / d ∨ roundDiv n d = n / d + 1 := by
  unfold roundDiv
  dsimp only
  split
  · exact Or.inr rfl
  · exact Or.inl rfl

/-- **Rounding is off by no more than one half.** -/
theorem roundDiv_near {n d : Nat} (hd : 0 < d) :
    2 * n ≤ 2 * (roundDiv n d * d) + d ∧ 2 * (roundDiv n d * d) ≤ 2 * n + d := by
  have hdiv : d * (n / d) + n % d = n := Nat.div_add_mod n d
  have hmod : n % d < d := Nat.mod_lt n hd
  unfold roundDiv
  dsimp only
  split
  · rename_i h
    have h : d ≤ 2 * (n % d) := by
      simp only [Bool.or_eq_true, decide_eq_true_eq, Bool.and_eq_true, beq_iff_eq] at h
      omega
    have he : (n / d + 1) * d = d * (n / d) + d := by rw [Nat.add_mul, Nat.mul_comm]; simp
    rw [he]; omega
  · rename_i h
    have h : 2 * (n % d) ≤ d := by
      simp only [Bool.or_eq_true, decide_eq_true_eq, not_or] at h
      omega
    rw [Nat.mul_comm (n / d) d]; omega

/-- The exponent of the largest power of two that is at most `n / d`, for
positive numbers. -/
def ratioLog2 (n d : Nat) : Int :=
  let guess : Int := (n.log2 : Int) - d.log2
  if d * Nat.pow 2 guess.toNat ≤ n * Nat.pow 2 (-guess).toNat then guess else guess - 1

/-- The bits of positive infinity. -/
def infinityBits : Nat := 0x7FF0000000000000

/-- The bits of the double nearest to `n / d`. -/
def nearestBits (n d : Nat) : Nat :=
  if n = 0 then 0
  else
    let power := max (ratioLog2 n d - 52) (-1074)
    let significand := roundDiv (n * Nat.pow 2 (-power).toNat) (d * Nat.pow 2 power.toNat)
    min ((power + 1074).toNat * Nat.pow 2 52 + significand) infinityBits

/-- The double with the given sign and the given bits besides. -/
def signed (negative : Bool) (bits : Nat) : Float :=
  Float.ofBits (UInt64.ofNat (if negative then bits + Nat.pow 2 63 else bits))

/-- The number of decimal digits of a positive number. -/
def digitCount (n : Nat) : Nat :=
  (Nat.toDigits 10 n).length

/-- **The double nearest to a decimal number**, `digits * 10 ^ exponent` with
a sign. Far outside the range of doubles no powers are computed. -/
def ofDecimal (negative : Bool) (digits : Nat) (exponent : Int) : Float :=
  signed negative <|
    if digits = 0 then 0
    else if 310 < exponent then infinityBits
    else if exponent + digitCount digits < -330 then 0
    else nearestBits (digits * Nat.pow 10 exponent.toNat) (Nat.pow 10 (-exponent).toNat)

end Flowchart.Double
