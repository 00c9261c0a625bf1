import SqlMapper.Text.Quoted

/-!
Bytes as text. Every byte that is not part of a well-formed UTF-8 sequence is a piece of its own,
so that bytes can be shown, quoted or refused one by one.
-/
namespace SqlMapper.Text

/-- A character, or a byte that belongs to none. -/
inductive Piece where
  | char (c : Char)
  | stray (b : UInt8)
  deriving DecidableEq

/-- Whether a byte continues a sequence and carries six bits of it. -/
def isTail (b : UInt8) : Bool :=
  0x80 ≤ b && b ≤ 0xbf

def tailBits (b : UInt8) : Nat :=
  b.toNat % 64

/-- Whether `b` may follow the first byte `a` of a sequence: the shortest form is required and
surrogates are left out. -/
def isSecond (a b : UInt8) : Bool :=
  isTail b &&
    (if a == 0xe0 then 0xa0 ≤ b
     else if a == 0xed then b ≤ 0x9f
     else if a == 0xf0 then 0x90 ≤ b
     else if a == 0xf4 then b ≤ 0x8f
     else true)

def pieces : List UInt8 → List Piece
  | [] => []
  | a :: rest =>
      if a < 0x80 then .char (Char.ofNat a.toNat) :: pieces rest
      else match rest with
        | [] => [.stray a]
        | b :: rest2 =>
            if 0xc2 ≤ a && a ≤ 0xdf && isTail b then
              .char (Char.ofNat ((a.toNat - 0xc0) * 64 + tailBits b)) :: pieces rest2
            else match rest2 with
              | [] => .stray a :: pieces [b]
              | c :: rest3 =>
                  if 0xe0 ≤ a && a ≤ 0xef && isSecond a b && isTail c then
                    .char (Char.ofNat (((a.toNat - 0xe0) * 64 + tailBits b) * 64 + tailBits c))
                      :: pieces rest3
                  else match rest3 with
                    | [] => .stray a :: pieces [b, c]
                    | d :: rest4 =>
                        if 0xf0 ≤ a && a ≤ 0xf4 && isSecond a b && isTail c && isTail d then
                          .char (Char.ofNat ((((a.toNat - 0xf0) * 64 + tailBits b) * 64
                            + tailBits c) * 64 + tailBits d)) :: pieces rest4
                        else .stray a :: pieces (b :: c :: d :: rest4)
termination_by bytes => bytes.length

/-- The characters, if no byte is stray. -/
def characters? : List Piece → Option (List Char)
  | [] => some []
  | .char c :: rest => (characters? rest).map (c :: ·)
  | .stray _ :: _ => none

def Piece.shown : Piece → Char
  | .char c => c
  | .stray _ => '\ufffd'

/-- Bytes as text, with replacement characters for stray bytes. -/
def decode (bytes : List UInt8) : String :=
  String.ofList ((pieces bytes).map Piece.shown)

/-- Bytes between double quotes; a stray byte is written in hexadecimal. -/
def quotedBytes (bytes : List UInt8) : String :=
  let body := (pieces bytes).flatMap fun
    | .char c => quotedChar c
    | .stray b => '\\' :: 'x' :: hexDigits 2 b.toNat
  String.ofList ('"' :: body ++ ['"'])

/-- The UTF-8 form of a text. -/
def encode (text : String) : List UInt8 :=
  text.toUTF8.toList

end SqlMapper.Text
