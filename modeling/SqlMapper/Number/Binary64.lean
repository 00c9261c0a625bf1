/-!
Double precision numbers by their bit pattern. Order and equality are read off the pattern, and
`ofRatio` rounds an exact quotient to the nearest double, so nothing rests on machine arithmetic.
-/
namespace SqlMapper

/-- A double precision number, held as its 64 bits. -/
structure Binary64 where
  bits : UInt64
  deriving DecidableEq, Inhabited

namespace Binary64

/-- What the sign bit adds to a pattern. -/
def signWeight : Nat :=
  0x8000000000000000

/-- What one step of the exponent adds to a pattern; a significand of full width is at least this. -/
def stepWeight : Nat :=
  0x10000000000000

def negative (x : Binary64) : Bool :=
  signWeight ≤ x.bits.toNat

/-- The pattern without the sign bit. -/
def magnitude (x : Binary64) : Nat :=
  x.bits.toNat % signWeight

/-- The pattern of infinity; patterns above it are not numbers. -/
def infinityPattern : Nat :=
  2047 * stepWeight

def isNaN (x : Binary64) : Bool :=
  infinityPattern < x.magnitude

def isInfinite (x : Binary64) : Bool :=
  x.magnitude == infinityPattern

def isZero (x : Binary64) : Bool :=
  x.magnitude == 0

/-- Numbers are ordered as these keys are; both zeros have key zero. -/
def key (x : Binary64) : Int :=
  if x.negative then -(x.magnitude : Int) else x.magnitude

def equal (x y : Binary64) : Bool :=
  !x.isNaN && !y.isNaN && x.key == y.key

def less (x y : Binary64) : Bool :=
  !x.isNaN && !y.isNaN && decide (x.key < y.key)

def lessOrEqual (x y : Binary64) : Bool :=
  !x.isNaN && !y.isNaN && decide (x.key ≤ y.key)

/-- Flips the sign, of zeros and of values that are not numbers too. -/
def negate (x : Binary64) : Binary64 :=
  ⟨x.bits ^^^ 0x8000000000000000⟩

def ofMagnitude (negative : Bool) (magnitude : Nat) : Binary64 :=
  ⟨UInt64.ofNat (if negative then signWeight + magnitude else magnitude)⟩

def infinity (negative : Bool) : Binary64 :=
  ofMagnitude negative infinityPattern

def notANumber : Binary64 :=
  ⟨0x7ff8000000000001⟩

/-- The quotient rounded to an integer, a half going to the even neighbour. -/
def roundHalfEven (num den : Nat) : Nat :=
  let quotient := num / den
  let twice := 2 * (num % den)
  if twice < den then quotient
  else if den < twice then quotient + 1
  else quotient + quotient % 2

/-- The double nearest to `num / den`; nothing when it is too large. A double is `q * 2 ^ (k - 1074)`
with `q` below `2 ^ 53`; the least `k` that leaves `q` so small is taken. -/
def ofRatio (negative : Bool) (num den : Nat) : Option Binary64 :=
  if num == 0 || den == 0 then some (ofMagnitude negative 0)
  else
    -- `num / den` lies between `2 ^ (lead - 1)` and `2 ^ (lead + 1)`, shifted by `1074`
    let lead : Int := (num.log2 : Int) - den.log2 + 1074
    let guess := (lead - 53).toNat
    let unit := fun (k : Nat) => if k ≤ 1074 then (num <<< (1074 - k), den) else (num, den <<< (k - 1074))
    let fits := fun (k : Nat) => (unit k).1 < (unit k).2 * (2 * stepWeight)
    let k := if fits guess then guess else if fits (guess + 1) then guess + 1 else guess + 2
    let pattern := roundHalfEven (unit k).1 (unit k).2 + k * stepWeight
    if infinityPattern ≤ pattern then none else some (ofMagnitude negative pattern)

def ofInt (n : Int) : Binary64 :=
  (ofRatio (n < 0) n.natAbs 1).getD (infinity (n < 0))

/-- A finite magnitude as `significand * 2 ^ (scale - 1074)`. -/
def significand (x : Binary64) : Nat :=
  if x.magnitude < stepWeight then x.magnitude else stepWeight + x.magnitude % stepWeight

def scale (x : Binary64) : Nat :=
  x.magnitude / stepWeight - 1

end Binary64
end SqlMapper
