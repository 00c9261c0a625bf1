import SqlMapper.Proofs.Decoding
import SqlMapper.Proofs.Literal

/-!
String literals for bytes that need not be text. A literal is written byte by byte: an ASCII byte
as its character is, any other byte as it stands. A reader takes each escape as long as it can be,
three octal digits at most, and stops behind the first quote that belongs to no escape; it finds the
bytes that the literal was written for, whatever follows the literal.
-/

namespace SqlMapper.C

open Text (byte encode encodeChars)

section Codes

/-- The character with the code of a byte. -/
def charOf (b : UInt8) : Char :=
  Char.ofNat b.toNat

theorem toNat_charOf (b : UInt8) : (charOf b).toNat = b.toNat := by
  have small : b.toNat < 256 := b.toNat_lt
  exact Text.toNat_ofNat_valid (by omega)

@[simp]
theorem byte_charOf (b : UInt8) : byte (charOf b) = b := by
  rw [byte, toNat_charOf, UInt8.ofNat_toNat]

theorem charOf_byte {c : Char} (small : c.toNat < 256) : charOf (byte c) = c := by
  rw [charOf, Text.toNat_byte small, Char.ofNat_toNat]

end Codes

section Writing

/-- One byte inside a literal. -/
def literalByte (b : UInt8) : List UInt8 :=
  (literalChar (charOf b)).map byte

/-- The literal whose value is `bytes`. -/
def literalBytes (bytes : List UInt8) : List UInt8 :=
  byte '"' :: bytes.flatMap literalByte ++ [byte '"']

theorem literalChar_high {c : Char} (high : 128 ≤ c.toNat) : literalChar c = [c] := by
  have other (ascii : Char) (low : ascii.toNat < 128) : (c == ascii) = false := by
    rw [beq_eq_false_iff_ne]
    rintro rfl
    omega
  have uncontrolled : (decide (c.toNat < 0x20) || c.toNat == 0x7f) = false := by
    simp only [Bool.or_eq_false_iff, decide_eq_false_iff_not, beq_eq_false_iff_ne]
    omega
  unfold literalChar
  simp only [other '\\' (by decide), other '"' (by decide), other '\n' (by decide),
    other '\r' (by decide), other '\t' (by decide), uncontrolled, Bool.false_eq_true, if_false]

theorem toNat_octalDigit (n : Nat) : (octalDigit n).toNat = 48 + n % 8 := by
  have small : n % 8 < 8 := Nat.mod_lt n (by decide)
  unfold octalDigit
  generalize n % 8 = digit at small
  decide +revert

/-- A character is written as it stands or by printable ASCII characters. -/
theorem literalChar_shown (c : Char) :
    (literalChar c = [c] ∧ 0x20 ≤ c.toNat ∧ c.toNat ≠ 0x7f) ∨
      ∀ d ∈ literalChar c, 0x20 ≤ d.toNat ∧ d.toNat < 0x7f := by
  have pair (mark : Char) (shown : 0x20 ≤ mark.toNat ∧ mark.toNat < 0x7f) :
      ∀ d ∈ ['\\', mark], 0x20 ≤ d.toNat ∧ d.toNat < 0x7f :=
    List.forall_mem_cons.mpr ⟨by decide, List.forall_mem_singleton.mpr shown⟩
  unfold literalChar
  split
  · exact .inr (pair '\\' (by decide))
  split
  · exact .inr (pair '"' (by decide))
  split
  · exact .inr (pair 'n' (by decide))
  split
  · exact .inr (pair 'r' (by decide))
  split
  · exact .inr (pair 't' (by decide))
  split
  · right
    have digit (n : Nat) : 0x20 ≤ (octalDigit n).toNat ∧ (octalDigit n).toNat < 0x7f := by
      rw [toNat_octalDigit]
      omega
    simp only [octal, List.forall_mem_cons, digit, List.not_mem_nil, false_implies, implies_true,
      and_true]
    decide
  · next uncontrolled =>
      left
      simp only [Bool.or_eq_true, decide_eq_true_eq, beq_iff_eq] at uncontrolled
      exact ⟨rfl, by omega⟩

theorem mem_literalBytes {bytes : List UInt8} {x : UInt8} (member : x ∈ literalBytes bytes) :
    0x20 ≤ x.toNat ∧ x.toNat ≠ 0x7f := by
  simp only [literalBytes, List.mem_append, List.mem_cons, List.mem_flatMap, List.not_mem_nil,
    or_false] at member
  rcases member with (rfl | ⟨b, -, inside⟩) | rfl
  · decide
  · obtain ⟨d, written, rfl⟩ := List.mem_map.mp inside
    rcases literalChar_shown (charOf b) with ⟨itself, shown⟩ | shown
    · obtain rfl : d = charOf b := by simpa [itself] using written
      rwa [toNat_charOf, ← byte_charOf b] at shown
    · have code := shown d written
      rw [Text.toNat_byte (by omega)]
      omega
  · decide

/-- The literal for a text has the bytes of the literal for its bytes. -/
theorem encode_literal (text : String) : encode (literal text) = literalBytes (encode text) := by
  -- Beyond ASCII a character is written as it stands, and so is each of its bytes.
  have ascii (c : Char) (low : c.toNat < 128) :
      encodeChars (literalChar c) = literalByte (byte c) := by
    rw [literalByte, charOf_byte (by omega)]
    refine Text.encodeChars_ascii fun d member => ?_
    rcases literalChar_shown c with ⟨itself, -⟩ | shown
    · obtain rfl : d = c := by simpa [itself] using member
      exact low
    · have code := shown d member
      omega
  have kept (b : UInt8) (high : 128 ≤ b.toNat) : literalByte b = [b] := by
    rw [literalByte, literalChar_high (by rwa [toNat_charOf]), List.map_singleton, byte_charOf]
  have quote : encodeChars ['"'] = [byte '"'] :=
    Text.encodeChars_ascii (List.forall_mem_singleton.mpr (by decide))
  rw [literal, Text.encode_ofList, literalChars, Text.encodeChars_append, Text.encodeChars_cons,
    Text.utf8EncodeChar_ascii '"' (by decide), quote,
    Text.encodeChars_flatMap ascii (fun _ => literalChar_high) kept, ← Text.encode_eq]
  rfl

end Writing

section Reading

/-- The digits of an octal escape: as many as there are, up to a limit. -/
def octalRun : Nat → List UInt8 → List Nat
  | limit + 1, b :: rest =>
      match octalValue (charOf b) with
      | some digit => digit :: octalRun limit rest
      | none => []
  | _, _ => []

/-- What an escape stands for, read behind its backslash, and how many bytes it takes there. A code
that no byte has stands for nothing. -/
def escapeAt (bytes : List UInt8) : Option (UInt8 × Nat) :=
  match octalRun 3 bytes with
  | [] => (bytes.head?.bind fun b => shortEscape (charOf b)).map fun value => (byte value, 1)
  | digits =>
      let code := digits.foldl (fun code digit => 8 * code + digit) 0
      if code < 256 then some (UInt8.ofNat code, digits.length) else none

/-- Reads up to the first quote that belongs to no escape: the bytes that are meant, and what
follows the quote. The number says how many of the next bytes belong to an escape that is read
already. -/
def readBytes : Nat → List UInt8 → Option (List UInt8 × List UInt8)
  | _, [] => none
  | skipped + 1, _ :: rest => readBytes skipped rest
  | 0, b :: rest =>
      if b = byte '"' then some ([], rest)
      else if b = byte '\n' then none
      else if b = byte '\\' then
        (escapeAt rest).bind fun found =>
          (readBytes found.2 rest).map fun read => (found.1 :: read.1, read.2)
      else (readBytes 0 rest).map fun read => (b :: read.1, read.2)

/-- Reads the literal at the start of some bytes: what it stands for, and what follows it. -/
def readLiteral : List UInt8 → Option (List UInt8 × List UInt8)
  | [] => none
  | b :: rest => if b = byte '"' then readBytes 0 rest else none

theorem readBytes_append (escape rest : List UInt8) :
    readBytes escape.length (escape ++ rest) = readBytes 0 rest := by
  induction escape with
  | nil => rfl
  | cons b more ih => exact ih

theorem readBytes_escape {escape rest : List UInt8} {value : UInt8}
    (found : escapeAt (escape ++ rest) = some (value, escape.length)) :
    readBytes 0 (byte '\\' :: escape ++ rest) =
      (readBytes 0 rest).map fun read => (value :: read.1, read.2) := by
  have quote : byte '\\' ≠ byte '"' := by decide
  have newline : byte '\\' ≠ byte '\n' := by decide
  rw [List.cons_append, readBytes, if_neg quote, if_neg newline, if_pos rfl, found,
    Option.bind_some]
  dsimp only
  rw [readBytes_append]

theorem escapeAt_short {mark value : Char} (small : mark.toNat < 256)
    (digit : octalValue mark = none) (known : shortEscape mark = some value) (rest : List UInt8) :
    escapeAt ([byte mark] ++ rest) = some (byte value, 1) := by
  have none : octalRun 3 (byte mark :: rest) = [] := by
    rw [octalRun, charOf_byte small, digit]
  rw [List.singleton_append, escapeAt, none]
  simp [charOf_byte small, known]

/-- Three octal digits are read as one escape, also if a digit follows. -/
theorem escapeAt_octal {code : Nat} (small : code < 256) (rest : List UInt8) :
    escapeAt ((octal code).map byte ++ rest) = some (UInt8.ofNat code, 3) := by
  have digit (n : Nat) : octalValue (charOf (byte (octalDigit n))) = some (n % 8) := by
    have code := toNat_octalDigit n
    rw [charOf_byte (by omega), octalValue_octalDigit]
  have run : octalRun 3 ((octal code).map byte ++ rest) =
      [code / 64 % 8, code / 8 % 8, code % 8] := by
    simp only [octal, List.map_cons, List.map_nil, List.cons_append, List.nil_append, octalRun,
      digit]
  have whole : 8 * (8 * (8 * 0 + code / 64 % 8) + code / 8 % 8) + code % 8 = code := by omega
  rw [escapeAt, run]
  simp only [List.foldl_cons, List.foldl_nil, whole, small, if_true]
  rfl

theorem readBytes_literalByte (b : UInt8) (rest : List UInt8) :
    readBytes 0 (literalByte b ++ rest) =
      (readBytes 0 rest).map fun read => (b :: read.1, read.2) := by
  have short (mark value : Char) (same : charOf b = value) (small : mark.toNat < 256)
      (digit : octalValue mark = none) (known : shortEscape mark = some value) :
      readBytes 0 (['\\', mark].map byte ++ rest) =
        (readBytes 0 rest).map fun read => (b :: read.1, read.2) := by
    have back : byte value = b := by rw [← same, byte_charOf]
    exact readBytes_escape (back ▸ escapeAt_short small digit known rest)
  -- One case for each way to write a byte: five short escapes, the octal one, and the byte itself.
  unfold literalByte literalChar
  split
  · next same => exact short '\\' '\\' (beq_iff_eq.mp same) (by decide) rfl rfl
  split
  · next same => exact short '"' '"' (beq_iff_eq.mp same) (by decide) rfl rfl
  split
  · next same => exact short 'n' '\n' (beq_iff_eq.mp same) (by decide) rfl rfl
  split
  · next same => exact short 'r' '\r' (beq_iff_eq.mp same) (by decide) rfl rfl
  split
  · next same => exact short 't' '\t' (beq_iff_eq.mp same) (by decide) rfl rfl
  split
  · have back : UInt8.ofNat (charOf b).toNat = b := by rw [toNat_charOf, UInt8.ofNat_toNat]
    have small : (charOf b).toNat < 256 := by
      rw [toNat_charOf]
      exact b.toNat_lt
    have found := escapeAt_octal small rest
    rw [back] at found
    exact readBytes_escape found
  · next backslash quote newline _ _ _ =>
      have other {c : Char} (differs : ¬ (charOf b == c) = true) (small : c.toNat < 256) :
          b ≠ byte c := by
        rintro rfl
        exact differs (beq_iff_eq.mpr (charOf_byte small))
      rw [List.map_singleton, byte_charOf, List.singleton_append, readBytes,
        if_neg (other quote (by decide)), if_neg (other newline (by decide)),
        if_neg (other backslash (by decide))]

/-- The first quote that belongs to no escape is the one that was written last. -/
theorem readBytes_literal (bytes rest : List UInt8) :
    readBytes 0 (bytes.flatMap literalByte ++ byte '"' :: rest) = some (bytes, rest) := by
  induction bytes with
  | nil => simp [readBytes]
  | cons b more ih =>
      rw [List.flatMap_cons, List.append_assoc, readBytes_literalByte, ih]
      rfl

theorem readLiteral_append (bytes rest : List UInt8) :
    readLiteral (literalBytes bytes ++ rest) = some (bytes, rest) := by
  have spelled : literalBytes bytes ++ rest =
      byte '"' :: (bytes.flatMap literalByte ++ byte '"' :: rest) := by simp [literalBytes]
  rw [spelled, readLiteral, if_pos rfl, readBytes_literal]

end Reading

/-- The literal for some bytes is read as these bytes and nothing of what follows it, no control
byte stands in it, and no other bytes have the same literal. For a text it is the encoded literal of
the text. -/
theorem literalBytes_faithful :
    (∀ bytes rest, readLiteral (literalBytes bytes ++ rest) = some (bytes, rest)) ∧
      (∀ bytes, ∀ b ∈ literalBytes bytes, 0x20 ≤ b.toNat ∧ b.toNat ≠ 0x7f) ∧
      Function.Injective literalBytes ∧
      ∀ text, encode (literal text) = literalBytes (encode text) := by
  refine ⟨readLiteral_append, fun _ _ => mem_literalBytes, ?_, encode_literal⟩
  -- Equal literals are read alike, with nothing behind them.
  intro first second same
  have one := readLiteral_append first []
  rw [same, readLiteral_append second []] at one
  exact (Prod.mk.inj (Option.some.inj one)).1.symm

/-- Bytes of no text: a backslash before a quote, a control code before a digit, a stray byte. -/
def awkward : List UInt8 :=
  [0x5c, 0x22, 0x01, 0x37, 0xff]

theorem awkward_faithful :
    readLiteral (literalBytes awkward ++ [0x22]) = some (awkward, [0x22]) ∧
      0x31 ∈ literalBytes awkward ∧ 0x20 ≤ (0x31 : UInt8).toNat ∧ (0x31 : UInt8).toNat ≠ 0x7f := by
  have shown : 0x31 ∈ literalBytes awkward := by decide
  exact ⟨literalBytes_faithful.1 awkward _, shown, literalBytes_faithful.2.1 awkward _ shown⟩

example : literalBytes awkward =
    [0x22, 0x5c, 0x5c, 0x5c, 0x22, 0x5c, 0x30, 0x30, 0x31, 0x37, 0xff, 0x22] := by
  decide

end SqlMapper.C
