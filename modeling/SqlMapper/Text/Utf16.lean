/-!
Texts in units of sixteen bits. Characters that need more bits are pairs of surrogates.
-/
namespace SqlMapper.Text

/-- Units of two bytes each; `high` tells whether the high byte is first. -/
def units? (high : Bool) : List UInt8 → Option (List Nat)
  | [] => some []
  | [_] => none
  | a :: b :: rest =>
      let unit := if high then a.toNat * 256 + b.toNat else b.toNat * 256 + a.toNat
      (units? high rest).map (unit :: ·)

def isHighSurrogate (unit : Nat) : Bool :=
  0xd800 ≤ unit && unit < 0xdc00

def isLowSurrogate (unit : Nat) : Bool :=
  0xdc00 ≤ unit && unit < 0xe000

/-- The characters of units, if every surrogate has its partner. -/
def ofUnits? : List Nat → Option (List Char)
  | [] => some []
  | [unit] =>
      if isHighSurrogate unit || isLowSurrogate unit then none else some [Char.ofNat unit]
  | unit :: low :: rest =>
      if isHighSurrogate unit then
        if isLowSurrogate low then
          let code := 0x10000 + (unit - 0xd800) * 1024 + (low - 0xdc00)
          (ofUnits? rest).map (Char.ofNat code :: ·)
        else none
      else if isLowSurrogate unit then none
      else (ofUnits? (low :: rest)).map (Char.ofNat unit :: ·)

end SqlMapper.Text
