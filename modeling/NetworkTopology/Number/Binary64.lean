/-!
# Double-precision numbers, exactly

A double-precision number is kept as the value it stands for, not as a machine word: a finite one is
`± mantissa · 2 ^ exponent` with an odd mantissa, or a signed zero.  Each value has one
representation, so equality of representations decides equality of numbers except between the two
zeros.  Decimal notation is rounded to the nearest double, a tie to the even neighbour.
-/

namespace NetworkTopology

/-- A number of the binary64 format. -/
inductive Binary64 where
  | nan
  | infinite (negative : Bool)
  | finite (negative : Bool) (mantissa : Nat) (exponent : Int)
  deriving DecidableEq, Repr, Inhabited

namespace Binary64

/-- The exponent of the unit in the last place of the smallest numbers. -/
def leastExponent : Int := -1074

/-- Numbers from two to this power on are infinite. -/
def overflowExponent : Int := 1024

/-- `n · 2 ^ e` for a non-negative exponent; a negative one leaves `n` alone. -/
def scaleUp (n : Nat) (e : Int) : Nat :=
  n * Nat.pow 2 e.toNat

/-- The finite number `± n · 2 ^ e` in its one representation. -/
def ofScaled (negative : Bool) (n : Nat) (e : Int) : Binary64 :=
  if h : n = 0 then finite negative 0 0
  else if n % 2 = 0 then ofScaled negative (n / 2) (e + 1)
  else finite negative n e
termination_by n
decreasing_by omega

/-- The integer nearest to a quotient; a tie goes to the even neighbour. -/
def roundQuotient (num den : Nat) : Nat :=
  let q := num / den
  let r := num % den
  if 2 * r < den then q
  else if den < 2 * r then q + 1
  else if q % 2 = 0 then q else q + 1

/-- The exponent `e` with `2 ^ e ≤ num / den < 2 ^ (e + 1)`, for positive operands. -/
def binaryOrder (num den : Nat) : Int :=
  let e : Int := (Nat.log2 num : Int) - Nat.log2 den
  if scaleUp den e ≤ scaleUp num (-e) then e else e - 1

/-- The double nearest to a positive quotient. -/
def ofQuotient (negative : Bool) (num den : Nat) : Binary64 :=
  let unit := max (binaryOrder num den - 52) leastExponent
  let m := roundQuotient (scaleUp num (-unit)) (scaleUp den unit)
  if m ≠ 0 ∧ overflowExponent ≤ unit + Nat.log2 m then infinite negative
  else ofScaled negative m unit

/-- The double nearest to `± n · 10 ^ e`.  Decimal orders far beyond the range are settled by their
size, without computing the power. -/
def ofDecimal (negative : Bool) (n : Nat) (e : Int) : Binary64 :=
  let order : Int := e + (Nat.log2 n * 3 / 10 : Nat)
  if n = 0 then finite negative 0 0
  else if 400 < order then infinite negative
  else if e + (Nat.log2 n + 1 : Nat) < -400 then finite negative 0 0
  else ofQuotient negative (n * Nat.pow 10 e.toNat) (Nat.pow 10 (-e).toNat)

/-- The number `± n` when it is an integer. -/
def toInt? : Binary64 → Option Int
  | finite negative m e =>
    if 0 ≤ e then some (if negative then -(scaleUp m e : Int) else scaleUp m e) else none
  | _ => none

/-- The integer part of a finite number, towards zero. -/
def truncate? : Binary64 → Option Int
  | finite negative m e =>
    let n := scaleUp m e / Nat.pow 2 (-e).toNat
    some (if negative then -(n : Int) else n)
  | _ => none

def isZero : Binary64 → Bool
  | finite _ m _ => m == 0
  | _ => false

/-- The double that an integer is, or the nearest one. -/
def ofInt (n : Int) : Binary64 :=
  ofDecimal (decide (n < 0)) n.natAbs 0

/-- The two numbers in units of the smaller exponent. -/
def commonScale (x y : Int × Int) : Int × Int :=
  let e := min x.2 y.2
  (x.1 * Nat.pow 2 (x.2 - e).toNat, y.1 * Nat.pow 2 (y.2 - e).toNat)

end Binary64

/-- An integer or a double, as quantities that can be compared. -/
inductive Quantity where
  | dyadic (numerator exponent : Int)
  | infinite (negative : Bool)
  | undefined
  deriving DecidableEq, Repr

namespace Quantity

/-- The quantity of an integer. -/
def ofInt (n : Int) : Quantity := dyadic n 0

def ofBinary64 : Binary64 → Quantity
  | .nan => undefined
  | .infinite negative => infinite negative
  | .finite negative m e => dyadic (if negative then -(m : Int) else m) e

/-- Strict comparison by value; nothing is below or above what is undefined. -/
def lt : Quantity → Quantity → Bool
  | undefined, _ => false
  | _, undefined => false
  | infinite x, infinite y => x && !y
  | infinite x, dyadic _ _ => x
  | dyadic _ _, infinite y => !y
  | dyadic n e, dyadic m f =>
    let pair := Binary64.commonScale (n, e) (m, f)
    pair.1 < pair.2

/-- Equality by value; nothing equals what is undefined. -/
def eq : Quantity → Quantity → Bool
  | undefined, _ => false
  | _, undefined => false
  | x, y => !x.lt y && !y.lt x

end Quantity

end NetworkTopology
