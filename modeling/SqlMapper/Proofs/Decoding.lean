import SqlMapper.Proofs.Encoding

/-!
Decoding what was encoded: the bytes of each character are cut off as one piece, in the shortest form
and without surrogates, so the pieces of a text's bytes are its characters. A byte that starts a
character never continues one, so one text is found at an end of another exactly if its bytes are.
-/

namespace SqlMapper.Text

theorem isTail_ofNat (n : Nat) : isTail (UInt8.ofNat (n % 64 + 128)) = true := by
  simp only [isTail, Bool.and_eq_true, decide_eq_true_eq, UInt8.le_iff_toNat_le,
    UInt8.toNat_ofNat', UInt8.reduceToNat]
  omega

theorem tailBits_ofNat (n : Nat) : tailBits (UInt8.ofNat (n % 64 + 128)) = n % 64 := by
  rw [tailBits, UInt8.toNat_ofNat']
  omega

theorem toNat_ofNat_small {n : Nat} (small : n < 256) : (UInt8.ofNat n).toNat = n := by
  rw [UInt8.toNat_ofNat']
  omega

theorem pieces_one {a : UInt8} (lead : a.toNat < 128) (rest : List UInt8) :
    pieces (a :: rest) = .char (Char.ofNat a.toNat) :: pieces rest := by
  have small : a < 0x80 := UInt8.lt_iff_toNat_lt.mpr lead
  rw [pieces.eq_def]
  simp only [small, if_true]

theorem pieces_two {a b : UInt8} (low : 194 ≤ a.toNat) (high : a.toNat ≤ 223)
    (tail : isTail b = true) (rest : List UInt8) :
    pieces (a :: b :: rest) =
      .char (Char.ofNat ((a.toNat - 192) * 64 + tailBits b)) :: pieces rest := by
  have wide : ¬ a < 0x80 := by
    rw [UInt8.lt_iff_toNat_lt]
    show ¬ a.toNat < 128
    omega
  have lead : (decide (0xc2 ≤ a) && decide (a ≤ 0xdf) && isTail b) = true := by
    simp only [tail, Bool.and_true, Bool.and_eq_true, decide_eq_true_eq, UInt8.le_iff_toNat_le]
    exact ⟨low, high⟩
  rw [pieces.eq_def]
  simp only [wide, if_false, lead, if_true]

theorem pieces_three {a b c : UInt8} (low : 224 ≤ a.toNat) (high : a.toNat ≤ 239)
    (second : isSecond a b = true) (tail : isTail c = true) (rest : List UInt8) :
    pieces (a :: b :: c :: rest) =
      .char (Char.ofNat (((a.toNat - 224) * 64 + tailBits b) * 64 + tailBits c)) ::
        pieces rest := by
  have wide : ¬ a < 0x80 := by
    rw [UInt8.lt_iff_toNat_lt]
    show ¬ a.toNat < 128
    omega
  have longer : decide (a ≤ 0xdf) = false := by
    rw [decide_eq_false_iff_not, UInt8.le_iff_toNat_le]
    show ¬ a.toNat ≤ 223
    omega
  have lead : (decide (0xe0 ≤ a) && decide (a ≤ 0xef) && isSecond a b && isTail c) = true := by
    simp only [second, tail, Bool.and_true, Bool.and_eq_true, decide_eq_true_eq,
      UInt8.le_iff_toNat_le]
    exact ⟨low, high⟩
  rw [pieces.eq_def]
  simp only [wide, if_false, longer, Bool.and_false, Bool.false_and, Bool.false_eq_true, lead,
    if_true]

theorem pieces_four {a b c d : UInt8} (low : 240 ≤ a.toNat) (high : a.toNat ≤ 244)
    (second : isSecond a b = true) (tail : isTail c = true) (last : isTail d = true)
    (rest : List UInt8) :
    pieces (a :: b :: c :: d :: rest) =
      .char (Char.ofNat ((((a.toNat - 240) * 64 + tailBits b) * 64 + tailBits c) * 64 +
        tailBits d)) :: pieces rest := by
  have wide : ¬ a < 0x80 := by
    rw [UInt8.lt_iff_toNat_lt]
    show ¬ a.toNat < 128
    omega
  have longer : decide (a ≤ 0xdf) = false ∧ decide (a ≤ 0xef) = false := by
    rw [decide_eq_false_iff_not, decide_eq_false_iff_not, UInt8.le_iff_toNat_le,
      UInt8.le_iff_toNat_le]
    show ¬ a.toNat ≤ 223 ∧ ¬ a.toNat ≤ 239
    omega
  have lead : (decide (0xf0 ≤ a) && decide (a ≤ 0xf4) && isSecond a b && isTail c && isTail d) =
      true := by
    simp only [second, tail, last, Bool.and_true, Bool.and_eq_true, decide_eq_true_eq,
      UInt8.le_iff_toNat_le]
    exact ⟨low, high⟩
  rw [pieces.eq_def]
  simp only [wide, if_false, longer, Bool.and_false, Bool.false_and, Bool.false_eq_true, lead,
    if_true]

/-- The second byte keeps to the shortest form and leaves the surrogates out. -/
theorem isSecond_ofNat {a : UInt8} (n : Nat) (shortThree : a.toNat = 224 → 32 ≤ n % 64)
    (surrogates : a.toNat = 237 → n % 64 < 32) (shortFour : a.toNat = 240 → 16 ≤ n % 64)
    (range : a.toNat = 244 → n % 64 < 16) :
    isSecond a (UInt8.ofNat (n % 64 + 128)) = true := by
  have value : (UInt8.ofNat (n % 64 + 128)).toNat = n % 64 + 128 := toNat_ofNat_small (by omega)
  have bound (x : UInt8) (least : x.toNat ≤ n % 64 + 128) :
      decide (x ≤ UInt8.ofNat (n % 64 + 128)) = true := by
    rwa [decide_eq_true_eq, UInt8.le_iff_toNat_le, value]
  have limit (x : UInt8) (most : n % 64 + 128 ≤ x.toNat) :
      decide (UInt8.ofNat (n % 64 + 128) ≤ x) = true := by
    rwa [decide_eq_true_eq, UInt8.le_iff_toNat_le, value]
  rw [isSecond, isTail_ofNat, Bool.true_and]
  split
  · next lead =>
      have three := shortThree (congrArg UInt8.toNat (beq_iff_eq.mp lead))
      exact bound 0xa0 (show 160 ≤ _ by omega)
  split
  · next lead =>
      have below := surrogates (congrArg UInt8.toNat (beq_iff_eq.mp lead))
      exact limit 0x9f (show _ ≤ 159 by omega)
  split
  · next lead =>
      have four := shortFour (congrArg UInt8.toNat (beq_iff_eq.mp lead))
      exact bound 0x90 (show 144 ≤ _ by omega)
  split
  · next lead =>
      have last := range (congrArg UInt8.toNat (beq_iff_eq.mp lead))
      exact limit 0x8f (show _ ≤ 143 by omega)
  · rfl

theorem pieces_utf8EncodeChar (c : Char) (rest : List UInt8) :
    pieces (String.utf8EncodeChar c ++ rest) = .char c :: pieces rest := by
  have valid : c.val.toNat < 0xd800 ∨ 0xdfff < c.val.toNat ∧ c.val.toNat < 0x110000 := c.valid
  have code : Char.ofNat c.val.toNat = c := Char.ofNat_toNat c
  -- One case for each length; the bits of the bytes are put together again.
  unfold String.utf8EncodeChar
  generalize c.val.toNat = v at valid code
  dsimp only
  split
  · have lead : (UInt8.ofNat v).toNat = v := toNat_ofNat_small (by omega)
    rw [List.singleton_append, pieces_one (by omega), lead, code]
  split
  · have lead : (UInt8.ofNat (v / 64 % 32 + 192)).toNat = v / 64 % 32 + 192 :=
      toNat_ofNat_small (by omega)
    have whole : (v / 64 % 32 + 192 - 192) * 64 + v % 64 = v := by omega
    rw [List.cons_append, List.singleton_append, pieces_two (by omega) (by omega) (isTail_ofNat v),
      lead, tailBits_ofNat, whole, code]
  split
  · have lead : (UInt8.ofNat (v / 4096 % 16 + 224)).toNat = v / 4096 % 16 + 224 :=
      toNat_ofNat_small (by omega)
    have whole : ((v / 4096 % 16 + 224 - 224) * 64 + v / 64 % 64) * 64 + v % 64 = v := by omega
    have second : isSecond (UInt8.ofNat (v / 4096 % 16 + 224)) (UInt8.ofNat (v / 64 % 64 + 128)) =
        true :=
      isSecond_ofNat (v / 64) (by omega) (by omega) (by omega) (by omega)
    rw [List.cons_append, List.cons_append, List.singleton_append,
      pieces_three (by omega) (by omega) second (isTail_ofNat v), lead, tailBits_ofNat,
      tailBits_ofNat, whole, code]
  · have lead : (UInt8.ofNat (v / 262144 % 8 + 240)).toNat = v / 262144 % 8 + 240 :=
      toNat_ofNat_small (by omega)
    have whole : (((v / 262144 % 8 + 240 - 240) * 64 + v / 4096 % 64) * 64 + v / 64 % 64) * 64 +
        v % 64 = v := by omega
    have second : isSecond (UInt8.ofNat (v / 262144 % 8 + 240))
        (UInt8.ofNat (v / 4096 % 64 + 128)) = true :=
      isSecond_ofNat (v / 4096) (by omega) (by omega) (by omega) (by omega)
    rw [List.cons_append, List.cons_append, List.cons_append, List.singleton_append,
      pieces_four (by omega) (by omega) second (isTail_ofNat (v / 64)) (isTail_ofNat v), lead,
      tailBits_ofNat, tailBits_ofNat, tailBits_ofNat, whole, code]

/-- The bytes of a text are cut into its characters. -/
theorem pieces_encodeChars (text : List Char) :
    pieces (encodeChars text) = text.map .char := by
  induction text with
  | nil => rw [encodeChars_nil, pieces, List.map_nil]
  | cons c rest ih => rw [encodeChars_cons, pieces_utf8EncodeChar, ih, List.map_cons]

theorem characters?_map_char (text : List Char) : characters? (text.map .char) = some text := by
  induction text with
  | nil => rfl
  | cons c rest ih => rw [List.map_cons, characters?, ih, Option.map_some]

section Ends

theorem encodeChars_injective {first second : List Char}
    (same : encodeChars first = encodeChars second) : first = second := by
  have cut := congrArg (fun bytes => characters? (pieces bytes)) same
  simpa only [pieces_encodeChars, characters?_map_char, Option.some.injEq] using cut

theorem encodeChars_eq_nil_iff {text : List Char} : encodeChars text = [] ↔ text = [] := by
  constructor
  · intro bare
    exact encodeChars_injective (bare.trans encodeChars_nil.symm)
  · rintro rfl
    exact encodeChars_nil

/-- A text starts with a token exactly if its bytes start with those of the token. -/
theorem encodeChars_prefix_iff (token text : List Char) :
    encodeChars token <+: encodeChars text ↔ token <+: text := by
  constructor
  · rintro ⟨rest, same⟩
    induction token generalizing text with
    | nil => exact List.nil_prefix
    | cons c token ih =>
        rw [encodeChars_cons, List.append_assoc] at same
        have cut := congrArg pieces same
        rw [pieces_utf8EncodeChar, pieces_encodeChars] at cut
        cases text with
        | nil => cases cut
        | cons d text =>
            injection cut with here _
            injection here with here
            subst here
            rw [encodeChars_cons] at same
            exact List.cons_prefix_cons.mpr ⟨rfl, ih text (List.append_cancel_left same)⟩
  · rintro ⟨rest, rfl⟩
    exact ⟨encodeChars rest, (encodeChars_append token rest).symm⟩

/-- The bytes of a character: one that starts it, and others that continue it. -/
theorem utf8EncodeChar_lead (c : Char) :
    ∃ lead tails, String.utf8EncodeChar c = lead :: tails ∧ isTail lead = false ∧
      ∀ b ∈ tails, isTail b = true := by
  have low {n : Nat} (small : n < 128) : isTail (UInt8.ofNat n) = false := by
    have value : (UInt8.ofNat n).toNat = n := toNat_ofNat_small (by omega)
    simp only [isTail, Bool.and_eq_false_iff, decide_eq_false_iff_not, UInt8.le_iff_toNat_le,
      UInt8.reduceToNat, value]
    omega
  have high {n : Nat} (least : 192 ≤ n) (small : n < 256) : isTail (UInt8.ofNat n) = false := by
    have value : (UInt8.ofNat n).toNat = n := toNat_ofNat_small small
    simp only [isTail, Bool.and_eq_false_iff, decide_eq_false_iff_not, UInt8.le_iff_toNat_le,
      UInt8.reduceToNat, value]
    omega
  have valid : c.val.toNat < 0x110000 := by
    have := c.valid
    simp only [UInt32.isValidChar, Nat.isValidChar] at this
    omega
  unfold String.utf8EncodeChar
  generalize c.val.toNat = v at valid
  dsimp only
  split
  · exact ⟨_, [], rfl, low (by omega), by simp⟩
  split
  · refine ⟨_, [_], rfl, high (by omega) (by omega), ?_⟩
    simp only [List.forall_mem_cons, isTail_ofNat, List.not_mem_nil, false_implies, implies_true,
      and_self]
  split
  · refine ⟨_, [_, _], rfl, high (by omega) (by omega), ?_⟩
    simp only [List.forall_mem_cons, isTail_ofNat, List.not_mem_nil, false_implies, implies_true,
      and_self]
  · refine ⟨_, [_, _, _], rfl, high (by omega) (by omega), ?_⟩
    simp only [List.forall_mem_cons, isTail_ofNat, List.not_mem_nil, false_implies, implies_true,
      and_self]

theorem isTail_head?_encodeChars {text : List Char} {b : UInt8}
    (first : (encodeChars text).head? = some b) : isTail b = false := by
  cases text with
  | nil => cases first
  | cons c rest =>
      obtain ⟨lead, tails, spelled, starts, _⟩ := utf8EncodeChar_lead c
      rw [encodeChars_cons, spelled] at first
      cases first
      exact starts

/-- Bytes that do not start inside of a character are those of a whole end of the text. -/
theorem exists_of_encodeChars_append {text : List Char} {before rest : List UInt8}
    (same : encodeChars text = before ++ rest)
    (starts : ∀ b, rest.head? = some b → isTail b = false) :
    ∃ left right, text = left ++ right ∧ before = encodeChars left ∧ rest = encodeChars right := by
  induction text generalizing before with
  | nil =>
      obtain ⟨rfl, rfl⟩ := List.append_eq_nil_iff.mp same.symm
      exact ⟨[], [], rfl, rfl, rfl⟩
  | cons c text ih =>
      cases before with
      | nil => exact ⟨[], c :: text, rfl, rfl, same.symm⟩
      | cons b before =>
          obtain ⟨lead, tails, spelled, _, continued⟩ := utf8EncodeChar_lead c
          have whole := same
          rw [encodeChars_cons, spelled, List.cons_append, List.cons_append] at whole
          obtain ⟨rfl, others⟩ := List.cons.inj whole
          rcases List.append_eq_append_iff.mp others with ⟨more, rfl, later⟩ | ⟨more, split, later⟩
          · obtain ⟨left, right, rfl, rfl, rfl⟩ := ih later
            refine ⟨c :: left, right, rfl, ?_, rfl⟩
            rw [encodeChars_cons, spelled, List.cons_append]
          · cases more with
            | nil =>
                have here : encodeChars text = [] ++ rest := by simpa using later.symm
                obtain ⟨left, right, rfl, none, rfl⟩ := ih here
                have empty : left = [] := encodeChars_injective (none.symm.trans encodeChars_nil.symm)
                subst empty
                refine ⟨[c], right, rfl, ?_, rfl⟩
                simp [spelled, split]
            | cons tail more =>
                -- The cut would be between two bytes of one character.
                have inside := continued tail (split ▸ by simp)
                rw [starts tail (later ▸ rfl)] at inside
                cases inside

/-- A text ends with a token exactly if its bytes end with those of the token. -/
theorem encodeChars_suffix_iff (token text : List Char) :
    encodeChars token <:+ encodeChars text ↔ token <:+ text := by
  constructor
  · rintro ⟨before, same⟩
    obtain ⟨left, right, rfl, _, spelled⟩ :=
      exists_of_encodeChars_append same.symm fun _ first => isTail_head?_encodeChars first
    exact ⟨left, by rw [encodeChars_injective spelled]⟩
  · rintro ⟨left, rfl⟩
    exact ⟨encodeChars left, (encodeChars_append left token).symm⟩

end Ends

section Ascii

theorem isTail_iff {b : UInt8} : isTail b = true ↔ 128 ≤ b.toNat ∧ b.toNat ≤ 191 := by
  simp only [isTail, Bool.and_eq_true, decide_eq_true_eq, UInt8.le_iff_toNat_le]
  rfl

/-- The second byte of a sequence continues it, in the shortest form and without surrogates. -/
theorem bounds_of_isSecond {a b : UInt8} (second : isSecond a b = true) :
    (128 ≤ b.toNat ∧ b.toNat ≤ 191) ∧ (a.toNat = 224 → 160 ≤ b.toNat) ∧
      (a.toNat = 237 → b.toNat ≤ 159) ∧ (a.toNat = 240 → 144 ≤ b.toNat) ∧
      (a.toNat = 244 → b.toNat ≤ 143) := by
  have lead (x : UInt8) : (a == x) = true ↔ a.toNat = x.toNat := by
    rw [beq_iff_eq, UInt8.toNat_inj]
  simp only [isSecond, Bool.and_eq_true, isTail_iff, lead, UInt8.reduceToNat] at second
  obtain ⟨tail, special⟩ := second
  refine ⟨tail, ?_⟩
  split at special
  · have least : 160 ≤ b.toNat := UInt8.le_iff_toNat_le.mp (of_decide_eq_true special)
    omega
  split at special
  · have most : b.toNat ≤ 159 := UInt8.le_iff_toNat_le.mp (of_decide_eq_true special)
    omega
  split at special
  · have least : 144 ≤ b.toNat := UInt8.le_iff_toNat_le.mp (of_decide_eq_true special)
    omega
  split at special
  · have most : b.toNat ≤ 143 := UInt8.le_iff_toNat_le.mp (of_decide_eq_true special)
    omega
  · omega

theorem toNat_ofNat_valid {n : Nat} (valid : n < 0xd800 ∨ 0xdfff < n ∧ n < 0x110000) :
    (Char.ofNat n).toNat = n := by
  have valid : n.isValidChar := valid
  rw [Char.ofNat, dif_pos valid]
  rfl

/-- What starts with a byte above 127 is shown as a character above 127. -/
theorem pieces_high {a : UInt8} (high : 128 ≤ a.toNat) (rest : List UInt8) :
    ∃ piece others, pieces (a :: rest) = piece :: others ∧ 128 ≤ piece.shown.toNat := by
  have wide : ¬ a < 0x80 := by
    rw [UInt8.lt_iff_toNat_lt]
    exact Nat.not_lt.mpr high
  have replaced : 128 ≤ (Piece.stray a).shown.toNat := by
    show 128 ≤ '\ufffd'.toNat
    decide
  have character {n : Nat} (valid : n < 0xd800 ∨ 0xdfff < n ∧ n < 0x110000) (large : 128 ≤ n) :
      128 ≤ (Piece.char (Char.ofNat n)).shown.toNat := by
    rw [Piece.shown, toNat_ofNat_valid valid]
    exact large
  -- Either the byte is stray, or the sequence is long enough for what its lead says.
  rw [pieces.eq_def]
  simp only [wide, if_false]
  split
  · exact ⟨_, _, rfl, replaced⟩
  split
  · next two =>
      simp only [Bool.and_eq_true, decide_eq_true_eq, UInt8.le_iff_toNat_le, UInt8.reduceToNat,
        isTail_iff] at two
      exact ⟨_, _, rfl, character (by rw [tailBits]; omega) (by rw [tailBits]; omega)⟩
  split
  · exact ⟨_, _, rfl, replaced⟩
  split
  · next three =>
      simp only [Bool.and_eq_true, decide_eq_true_eq, UInt8.le_iff_toNat_le, UInt8.reduceToNat,
        isTail_iff] at three
      have second := bounds_of_isSecond three.1.2
      exact ⟨_, _, rfl, character (by simp only [tailBits]; omega) (by simp only [tailBits]; omega)⟩
  split
  · exact ⟨_, _, rfl, replaced⟩
  split
  · next four =>
      simp only [Bool.and_eq_true, decide_eq_true_eq, UInt8.le_iff_toNat_le, UInt8.reduceToNat,
        isTail_iff] at four
      have second := bounds_of_isSecond four.1.1.2
      exact ⟨_, _, rfl, character (by simp only [tailBits]; omega) (by simp only [tailBits]; omega)⟩
  · exact ⟨_, _, rfl, replaced⟩

/-- Bytes that are shown as ASCII characters are these characters. -/
theorem encodeChars_shown {bytes : List UInt8}
    (ascii : ∀ c ∈ (pieces bytes).map Piece.shown, c.toNat < 128) :
    encodeChars ((pieces bytes).map Piece.shown) = bytes := by
  induction bytes with
  | nil =>
      rw [pieces]
      rfl
  | cons a rest ih =>
      by_cases high : 128 ≤ a.toNat
      · obtain ⟨piece, others, cut, large⟩ := pieces_high high rest
        rw [cut] at ascii
        exact absurd (ascii _ List.mem_cons_self) (Nat.not_lt.mpr large)
      · have low : a.toNat < 128 := Nat.not_le.mp high
        rw [pieces_one low, List.map_cons, List.forall_mem_cons] at ascii
        have code : (Char.ofNat a.toNat).toNat = a.toNat := toNat_ofNat_valid (by omega)
        rw [pieces_one low, List.map_cons, encodeChars_cons, ih ascii.2, Piece.shown,
          utf8EncodeChar_ascii _ (by omega), byte, code, UInt8.ofNat_toNat]
        rfl

theorem encode_decode {bytes : List UInt8} (ascii : ∀ c ∈ (decode bytes).toList, c.toNat < 128) :
    encode (decode bytes) = bytes := by
  rw [decode, String.toList_ofList] at ascii
  rw [decode, encode_ofList, encodeChars_shown ascii]

theorem decode_encode (text : String) : decode (encode text) = text := by
  have shown (chars : List Char) : (chars.map Piece.char).map Piece.shown = chars := by
    rw [List.map_map]
    exact List.map_id chars
  rw [decode, encode_eq, pieces_encodeChars, shown, String.ofList_toList]

end Ascii

end SqlMapper.Text
