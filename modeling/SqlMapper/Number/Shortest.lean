import SqlMapper.Number.Binary64

/-!
The fewest decimal digits that read back as a given double, and their layout. A decimal reads back
if it lies between the midpoints to the two neighbouring doubles, the midpoints themselves only
when the significand is even.
-/
namespace SqlMapper.Shortest

/-- The exact value and the two midpoints over a common denominator. -/
structure Interval where
  low : Nat
  value : Nat
  high : Nat
  den : Nat
  closed : Bool

def interval (x : Binary64) : Interval :=
  let m := x.significand
  let k := x.scale
  -- below a power of two the neighbour is half as far away
  let narrow := m == Binary64.stepWeight && k != 0
  let low := if narrow then 4 * m - 1 else 4 * m - 2
  let closed := m % 2 == 0
  if 1074 ≤ k then
    ⟨low <<< (k - 1074), (4 * m) <<< (k - 1074), (4 * m + 2) <<< (k - 1074), 4, closed⟩
  else ⟨low, 4 * m, 4 * m + 2, 4 <<< (1074 - k), closed⟩

def Interval.contains (i : Interval) (num den : Nat) : Bool :=
  if i.closed then i.low * den ≤ num * i.den && num * i.den ≤ i.high * den
  else i.low * den < num * i.den && num * i.den < i.high * den

/-- `10 ^ e` as a fraction. -/
def powerOfTen (e : Int) : Nat × Nat :=
  if 0 ≤ e then (Nat.pow 10 e.toNat, 1) else (1, Nat.pow 10 (-e).toNat)

/-- The least `p` with value below `10 ^ p`, searched upwards from a lower bound. -/
def pointPosition (i : Interval) (start : Int) : Nat → Int
  | 0 => start
  | fuel + 1 =>
      let (num, den) := powerOfTen start
      if i.value * den < num * i.den then start else pointPosition i (start + 1) fuel

/-- Digits of a decimal `0.d₁d₂… * 10 ^ point`. -/
structure Digits where
  digits : List Char
  point : Int

/-- The `count`-digit decimals next to the value that read back; of two the nearer, of equally
near ones the even. -/
def candidate (i : Interval) (point : Int) (count : Nat) : Option Nat :=
  let (num, den) := powerOfTen (point - count)
  -- value = position * step, with `position` the fraction `above / below`
  let above := i.value * den
  let below := i.den * num
  let floor := above / below
  let lowFits := i.contains (floor * num) den
  let highFits := i.contains ((floor + 1) * num) den
  if lowFits && highFits then
    let twice := 2 * (above % below)
    if twice < below || (twice == below && floor % 2 == 0) then some floor else some (floor + 1)
  else if lowFits then some floor
  else if highFits then some (floor + 1)
  else none

def search (i : Interval) (point : Int) : Nat → Nat → Nat × Nat
  | count, 0 => ((candidate i point count).getD 0, count)
  | count, fuel + 1 =>
      match candidate i point count with
      | some decimal => (decimal, count)
      | none => search i point (count + 1) fuel

/-- The shortest digits of a finite number other than zero. -/
def digits (x : Binary64) : Digits :=
  let i := interval x
  let start : Int := (((i.value.log2 : Int) - i.den.log2 - 1) * 1233) / 4096
  let point := pointPosition i start 5
  let (decimal, count) := search i point 1 16
  let written := Nat.toDigits 10 decimal
  let kept := (written.reverse.dropWhile (· == '0')).reverse
  ⟨kept, point + ((written.length : Int) - count)⟩

/-- When exponents are used: below `least` and from `limit` on. -/
structure Layout where
  least : Int
  limit : Int

def exponentText (exponent : Int) : List Char :=
  let digits := Nat.toDigits 10 exponent.natAbs
  (if exponent < 0 then '-' else '+') :: (if digits.length < 2 then '0' :: digits else digits)

def positional (d : Digits) : List Char :=
  if d.point ≤ 0 then '0' :: '.' :: List.replicate (-d.point).toNat '0' ++ d.digits
  else
    let whole := d.point.toNat
    if d.digits.length ≤ whole then d.digits ++ List.replicate (whole - d.digits.length) '0'
    else d.digits.take whole ++ '.' :: d.digits.drop whole

def scientific (d : Digits) : List Char :=
  let mantissa := match d.digits with
    | [] => ['0']
    | [first] => [first]
    | first :: rest => first :: '.' :: rest
  mantissa ++ 'e' :: exponentText (d.point - 1)

/-- The text of a number: digits laid out, or a word for what has none. -/
def render (layout : Layout) (x : Binary64) : String :=
  if x.isNaN then "NaN"
  else if x.isInfinite then (if x.negative then "-Inf" else "+Inf")
  else
    let sign := if x.negative then ['-'] else []
    if x.isZero then String.ofList (sign ++ ['0'])
    else
      let d := digits x
      let exponent := d.point - 1
      let body :=
        if exponent < layout.least || layout.limit ≤ exponent then scientific d else positional d
      String.ofList (sign ++ body)

end SqlMapper.Shortest
