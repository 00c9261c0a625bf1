import Mathlib.Data.List.Basic
import SqlMapper.Text.Utf8
import SqlMapper.Text.Search

/-!
Texts and their bytes. A text is encoded character by character, and no byte of another character
is that of an ASCII character: what is looked for by ASCII characters is found in the bytes where it
is in the text.
-/

namespace SqlMapper.Text

theorem toList_loop (bytes : ByteArray) (i : Nat) (read : List UInt8) :
    ByteArray.toList.loop bytes i read = read.reverse ++ bytes.data.toList.drop i := by
  rw [ByteArray.toList.loop]
  split
  · next inside =>
      have inside : i < bytes.data.toList.length := by simpa only [Array.length_toList, ByteArray.size_data] using inside
      have here : bytes.get! i = bytes.data.toList[i] := by
        rw [Array.getElem_toList]
        exact getElem!_pos bytes.data i inside
      rw [toList_loop bytes (i + 1), here, List.drop_eq_getElem_cons inside, List.reverse_cons,
        List.append_assoc]
      rfl
  · next outside =>
      have outside : bytes.data.toList.length ≤ i := by
        simpa only [Array.length_toList, ByteArray.size_data, Nat.not_lt] using outside
      rw [List.drop_eq_nil_of_le outside, List.append_nil]
termination_by bytes.size - i

def encodeChars (text : List Char) : List UInt8 :=
  text.flatMap String.utf8EncodeChar

@[simp]
theorem encodeChars_nil : encodeChars [] = [] :=
  rfl

@[simp]
theorem encodeChars_cons (c : Char) (rest : List Char) :
    encodeChars (c :: rest) = String.utf8EncodeChar c ++ encodeChars rest :=
  List.flatMap_cons

theorem encodeChars_append (first second : List Char) :
    encodeChars (first ++ second) = encodeChars first ++ encodeChars second :=
  List.flatMap_append

theorem encodeChars_ne_nil (c : Char) (rest : List Char) : encodeChars (c :: rest) ≠ [] := by
  rw [encodeChars_cons]
  exact List.append_ne_nil_of_left_ne_nil String.utf8EncodeChar_ne_nil _

theorem encode_eq (text : String) : encode text = encodeChars text.toList := by
  rw [encode, String.toUTF8_eq_toByteArray, ← String.utf8Encode_toList, ByteArray.toList,
    toList_loop]
  simp [List.utf8Encode, encodeChars]

@[simp]
theorem encode_ofList (text : List Char) : encode (String.ofList text) = encodeChars text := by
  rw [encode_eq, String.toList_ofList]

theorem encode_append (first second : String) :
    encode (first ++ second) = encode first ++ encode second := by
  rw [encode_eq, String.toList_append, encodeChars_append, ← encode_eq, ← encode_eq]

theorem encode_injective {first second : String} (same : encode first = encode second) :
    first = second := by
  rw [encode_eq, encode_eq] at same
  rw [← String.toByteArray_inj, ← String.utf8Encode_toList, ← String.utf8Encode_toList]
  exact congrArg List.toByteArray same

theorem length_encode (text : String) : (encode text).length = byteCount text := by
  rw [encode_eq, byteCount, String.utf8ByteSize, ← String.utf8Encode_toList]
  simp [List.utf8Encode, encodeChars]

def byte (c : Char) : UInt8 :=
  UInt8.ofNat c.toNat

theorem utf8EncodeChar_ascii (c : Char) (ascii : c.toNat < 128) :
    String.utf8EncodeChar c = [byte c] := by
  have small : c.val.toNat ≤ 127 := by
    have : c.val.toNat < 128 := ascii
    omega
  unfold String.utf8EncodeChar
  simp only [small, if_true]
  rfl

theorem high_of_mem_utf8EncodeChar {c : Char} (high : 128 ≤ c.toNat) (byte : UInt8)
    (member : byte ∈ String.utf8EncodeChar c) : 128 ≤ byte.toNat := by
  have marked (n : Nat) (large : 128 ≤ n) (small : n < 256) : 128 ≤ (UInt8.ofNat n).toNat := by
    rw [UInt8.toNat_ofNat']
    omega
  have wide : ¬ c.val.toNat ≤ 127 := by
    have : 128 ≤ c.val.toNat := high
    omega
  -- Every byte is a group of bits with a mark that is at least 128 added to it.
  unfold String.utf8EncodeChar at member
  simp only [wide, if_false] at member
  split at member
  · simp only [List.mem_cons, List.not_mem_nil, or_false] at member
    rcases member with rfl | rfl
    · exact marked _ (by omega) (by omega)
    · exact marked _ (by omega) (by omega)
  split at member
  · simp only [List.mem_cons, List.not_mem_nil, or_false] at member
    rcases member with rfl | rfl | rfl
    · exact marked _ (by omega) (by omega)
    · exact marked _ (by omega) (by omega)
    · exact marked _ (by omega) (by omega)
  · simp only [List.mem_cons, List.not_mem_nil, or_false] at member
    rcases member with rfl | rfl | rfl | rfl
    · exact marked _ (by omega) (by omega)
    · exact marked _ (by omega) (by omega)
    · exact marked _ (by omega) (by omega)
    · exact marked _ (by omega) (by omega)

/-- Only an ASCII character has an ASCII byte. -/
theorem mem_utf8EncodeChar_ascii {c ascii : Char} (small : ascii.toNat < 128)
    (member : byte ascii ∈ String.utf8EncodeChar c) : c = ascii := by
  by_cases high : 128 ≤ c.toNat
  · have := high_of_mem_utf8EncodeChar high _ member
    rw [byte, UInt8.toNat_ofNat'] at this
    omega
  · rw [utf8EncodeChar_ascii c (by omega), List.mem_singleton] at member
    have same := congrArg UInt8.toNat member
    rw [byte, byte, UInt8.toNat_ofNat', UInt8.toNat_ofNat'] at same
    have codes : c.toNat = ascii.toNat := by omega
    rw [← Char.ofNat_toNat c, codes, Char.ofNat_toNat]

theorem head?_encodeChars_ascii {c ascii : Char} (small : ascii.toNat < 128) (rest : List Char)
    (first : (encodeChars (c :: rest)).head? = some (byte ascii)) : c = ascii := by
  apply mem_utf8EncodeChar_ascii small
  obtain ⟨b, bytes, spelled⟩ := List.exists_cons_of_ne_nil (String.utf8EncodeChar_ne_nil (c := c))
  rw [encodeChars_cons, spelled] at first
  rw [spelled, ← Option.some_inj.mp first]
  exact List.mem_cons_self

theorem mem_encodeChars_ascii {ascii : Char} (small : ascii.toNat < 128) (text : List Char)
    (member : byte ascii ∈ encodeChars text) : ascii ∈ text := by
  obtain ⟨c, listed, here⟩ := List.mem_flatMap.mp member
  rw [← mem_utf8EncodeChar_ascii small here]
  exact listed

theorem toNat_byte {c : Char} (small : c.toNat < 256) : (byte c).toNat = c.toNat := by
  rw [byte, UInt8.toNat_ofNat']
  omega

theorem encodeChars_ascii {text : List Char} (ascii : ∀ c ∈ text, c.toNat < 128) :
    encodeChars text = text.map byte := by
  induction text with
  | nil => rfl
  | cons c rest ih =>
      obtain ⟨here, later⟩ := List.forall_mem_cons.mp ascii
      rw [encodeChars_cons, utf8EncodeChar_ascii c here, ih later]
      rfl

/-- A spelling that leaves all but ASCII characters alone is the same for characters and for bytes. -/
theorem encodeChars_flatMap {spell : Char → List Char} {write : UInt8 → List UInt8}
    (ascii : ∀ c, c.toNat < 128 → encodeChars (spell c) = write (byte c))
    (high : ∀ c, 128 ≤ c.toNat → spell c = [c]) (kept : ∀ b, 128 ≤ b.toNat → write b = [b])
    (text : List Char) :
    encodeChars (text.flatMap spell) = (encodeChars text).flatMap write := by
  have each (c : Char) : encodeChars (spell c) = (String.utf8EncodeChar c).flatMap write := by
    by_cases wide : 128 ≤ c.toNat
    · have same : ∀ b ∈ String.utf8EncodeChar c, write b = [b] :=
        fun b member => kept b (high_of_mem_utf8EncodeChar wide b member)
      rw [high c wide, encodeChars_cons, encodeChars_nil, List.append_nil, List.flatMap_congr same,
        List.flatMap_singleton']
    · rw [utf8EncodeChar_ascii c (by omega), List.flatMap_singleton, ascii c (by omega)]
  induction text with
  | nil => rfl
  | cons c rest ih =>
      rw [List.flatMap_cons, encodeChars_append, each, ih, encodeChars_cons, List.flatMap_append]

end SqlMapper.Text
