/-!
Bytes written with sixty-four signs: four signs for three bytes, and a last group filled up.
-/
namespace SqlMapper.Text

/-- The six bits of a sign. -/
def sextet? (c : Char) : Option Nat :=
  if 'A' ≤ c && c ≤ 'Z' then some (c.toNat - 'A'.toNat)
  else if 'a' ≤ c && c ≤ 'z' then some (c.toNat - 'a'.toNat + 26)
  else if c.isDigit then some (c.toNat - '0'.toNat + 52)
  else if c == '+' then some 62
  else if c == '/' then some 63
  else none

/-- The first bytes of a group of four signs; bits that are left over do not count. -/
def groupBytes? (count : Nat) (a b c d : Char) : Option (List UInt8) := do
  let bits := (((← sextet? a) * 64 + (← sextet? b)) * 64 + (← sextet? c)) * 64 + (← sextet? d)
  return ([bits / 65536, bits / 256, bits].take count).map Nat.toUInt8

def groupsBytes? : List Char → Option (List UInt8)
  | [] => some []
  | [a, b, '=', '='] => groupBytes? 1 a b 'A' 'A'
  | [a, b, c, '='] => groupBytes? 2 a b c 'A'
  | a :: b :: c :: d :: rest =>
      (groupBytes? 3 a b c d).bind fun first => (groupsBytes? rest).map (first ++ ·)
  | _ => none

/-- The bytes of a text in base sixty-four; line breaks in it do not count. -/
def base64? (text : String) : Option (List UInt8) :=
  groupsBytes? (text.toList.filter fun c => c != '\n' && c != '\r')

end SqlMapper.Text
