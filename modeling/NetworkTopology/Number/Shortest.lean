import NetworkTopology.Number.Binary64
import NetworkTopology.Number.Decimal

/-!
# The shortest decimal notation of a double

Among the decimal numbers that round to a given double, the notation takes one with the fewest
digits, and of those the nearest.  The search walks through decimal grids from coarse to fine; on
each grid only the two neighbours of the value matter.
-/

namespace NetworkTopology.Binary64

/-- A positive decimal number: its digits as one number, times ten to the exponent. -/
structure DecimalForm where
  digits : Nat
  exponent : Int
  deriving DecidableEq, Repr

/-- The numbers that round to a double, in units of two to `unit`: `centre` is the double itself,
and the ends belong to the interval when `closed`. -/
structure RoundingInterval where
  low : Nat
  centre : Nat
  high : Nat
  unit : Int
  closed : Bool
  deriving DecidableEq, Repr

/-- The rounding interval of `m · 2 ^ e`, for positive `m`: half a unit in the last place to either
side, and half as much downwards from a power of two. -/
def roundingInterval (m : Nat) (e : Int) : RoundingInterval :=
  let unit := max (e - (52 - (Nat.log2 m : Int))) leastExponent
  let significand := scaleUp m (e - unit)
  let low := if significand = Nat.pow 2 52 ∧ leastExponent < unit
    then 4 * significand - 1 else 4 * significand - 2
  { low, centre := 4 * significand, high := 4 * significand + 2, unit := unit - 2
    closed := significand % 2 = 0 }

/-- The nearest point of the grid of multiples of `10 ^ p` inside an interval, if there is one. -/
def RoundingInterval.nearest? (i : RoundingInterval) (p : Int) : Option Nat :=
  let grid := Nat.pow 10 p.toNat * Nat.pow 2 (-i.unit).toNat
  let scale := Nat.pow 2 i.unit.toNat * Nat.pow 10 (-p).toNat
  let inside (d : Nat) : Bool :=
    d ≠ 0 && if i.closed then i.low * scale ≤ d * grid && d * grid ≤ i.high * scale
      else i.low * scale < d * grid && d * grid < i.high * scale
  let below := i.centre * scale / grid
  let above := below + 1
  let down := i.centre * scale - below * grid
  let up := above * grid - i.centre * scale
  match inside below, inside above with
  | true, true => some (if down < up ∨ (down = up ∧ below % 2 = 0) then below else above)
  | true, false => some below
  | false, true => some above
  | false, false => none

/-- Searches the grids from `10 ^ p` downwards; seventeen digits tell any two doubles apart, so the
search ends long before `fuel` does. -/
def searchGrids (i : RoundingInterval) : Nat → Int → DecimalForm
  | 0, p => ⟨i.centre, p⟩
  | fuel + 1, p =>
    match i.nearest? p with
    | some d => ⟨d, p⟩
    | none => searchGrids i fuel (p - 1)

/-- The shortest decimal form of `m · 2 ^ e`, for positive `m`. -/
def shortest (m : Nat) (e : Int) : DecimalForm :=
  let order := (Nat.log2 m : Int) + e
  searchGrids (roundingInterval m e) 32 (order * 30103 / 100000 + 2)

/-- How a number is set out around its digits. -/
structure NotationStyle where
  /-- The decimal orders `low ≤ order < high` are written without an exponent. -/
  low : Int
  high : Int
  /-- The least number of digits of an exponent. -/
  exponentDigits : Nat

/-- Numbers from `0.0001` to below `10 ^ 16` are written without an exponent; an exponent has a sign
and two digits at least. -/
def documentStyle : NotationStyle := ⟨-4, 16, 2⟩

/-- The exponent of scientific notation, with sign and least width. -/
def NotationStyle.exponent (style : NotationStyle) (e : Int) : List Char :=
  let ds := Decimal.natural e.natAbs
  'e' :: (if e < 0 then '-' else '+') ::
    (List.replicate (style.exponentDigits - ds.length) '0' ++ ds)

def NotationStyle.setOut (style : NotationStyle) (d : DecimalForm) : List Char :=
  let ds := Decimal.natural d.digits
  let order := d.exponent + ds.length - 1
  if style.low ≤ order ∧ order < style.high then
    if 0 ≤ d.exponent then ds ++ List.replicate d.exponent.toNat '0' ++ ['.', '0']
    else if 0 ≤ order then
      ds.take (order + 1).toNat ++ '.' :: ds.drop (order + 1).toNat
    else '0' :: '.' :: List.replicate (-order - 1).toNat '0' ++ ds
  else match ds with
    | [] => []
    | [c] => c :: style.exponent order
    | c :: rest => c :: '.' :: rest ++ style.exponent order

/-- The notation of a double. -/
def chars : Binary64 → List Char
  | nan => ['n', 'a', 'n']
  | infinite negative => (if negative then ['-'] else []) ++ ['i', 'n', 'f']
  | finite negative m e =>
    (if negative then ['-'] else []) ++
      if m = 0 then ['0', '.', '0'] else documentStyle.setOut (shortest m e)

/-- The notation of a double as text. -/
def text (x : Binary64) : String :=
  String.ofList x.chars

end NetworkTopology.Binary64
