/-! # Percentages

How much of a work is done, as a whole number: quotient and product are rounded to the 53 binary digits of double
precision, and what is behind the point is cut off. So 29 of 100 is 28 percent.
-/

set_option autoImplicit false

namespace SpellLint

/-- The whole number next to `n / d`; of two equally near ones, the even one. -/
def nearest (n d : Nat) : Nat :=
  let q := n / d
  let r := n % d
  if 2 * r < d then q else if d < 2 * r then q + 1 else q + q % 2

/-- The power of two that takes `n / d` to 53 binary digits before the point. -/
def scaleOf (n d : Nat) : Int :=
  let guess : Int := n.log2 - d.log2
  let fits := d * Nat.pow 2 guess.toNat ≤ n * Nat.pow 2 (-guess).toNat
  52 - if fits then guess else guess - 1

/-- The ratio `n / d` rounded to 53 binary digits, as a ratio. -/
def rounded (n d : Nat) : Nat × Nat :=
  let s := scaleOf n d
  let up := Nat.pow 2 s.toNat
  let down := Nat.pow 2 (-s).toNat
  (nearest (n * up) (d * down) * down, up)

/-- How many percent of `total` a count is, at most 100. -/
def percentOf (count : Int) (total : Nat) : Int :=
  let (n, d) := rounded count.natAbs total
  let (m, e) := rounded (100 * n) d
  let whole : Int := (m / e : Nat)
  min (if count < 0 then -whole else whole) 100

end SpellLint
