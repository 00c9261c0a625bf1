import SqlMapper.Number.Reading

/-!
Digits of a number, read back. The digits of a number in a base up to sixteen are the last digit
behind those of the rest, in either case, and leading zeros do not count.
-/

namespace SqlMapper.Number

theorem unsignedFrom_append (base : Nat) (marks : Bool) (value : Nat) (first second : List Char) :
    unsignedFrom base marks value (first ++ second) =
      (unsignedFrom base marks value first).bind fun read => unsignedFrom base marks read second := by
  induction first generalizing value with
  | nil => rfl
  | cons c first ih =>
      simp only [List.cons_append, unsignedFrom]
      split
      · exact ih value
      · split
        · rfl
        · split
          · rfl
          · split
            · rfl
            · exact ih _

/-- A spelling of digits that is read as it was written. -/
def Spells (spelling : Char → Char) : Prop :=
  ∀ digit < 16, digitValue (spelling digit.digitChar) = some digit ∧ spelling digit.digitChar ≠ '_'

theorem spells_id : Spells id := by
  unfold Spells
  decide

theorem spells_toUpper : Spells Char.toUpper := by
  unfold Spells
  decide

variable {spelling : Char → Char} {base : Nat}

theorem unsignedFrom_digit (spells : Spells spelling) {digit : Nat} (inBase : digit < base)
    (small : base ≤ 16) (marks : Bool) (value : Nat) (fits : value * base + digit < UInt64.size) :
    unsignedFrom base marks value [spelling digit.digitChar] = .ok (value * base + digit) := by
  obtain ⟨read, plain⟩ := spells digit (Nat.lt_of_lt_of_le inBase small)
  have known : ¬ base ≤ digit := Nat.not_le.mpr inBase
  have room : ¬ UInt64.size ≤ value * base + digit := Nat.not_le.mpr fits
  simp only [unsignedFrom, beq_iff_eq, plain, Bool.and_eq_true, and_false, if_false, read, known, room]

/-- The digits of a number are read as the number. -/
theorem unsignedFrom_toDigits (spells : Spells spelling) (large : 1 < base) (small : base ≤ 16)
    (marks : Bool) {n : Nat} (fits : n < UInt64.size) :
    unsignedFrom base marks 0 ((Nat.toDigits base n).map spelling) = .ok n := by
  induction n using Nat.strongRecOn with
  | _ n ih =>
      by_cases one : n < base
      · have room : 0 * base + n < UInt64.size := by omega
        rw [Nat.toDigits_of_lt_base one, List.map_singleton,
          unsignedFrom_digit spells one small marks 0 room, Nat.zero_mul, Nat.zero_add]
      · have rest : n / base < n := Nat.div_lt_self (by omega) large
        have whole : n / base * base + n % base = n := Nat.div_add_mod' n base
        have last : n % base < base := Nat.mod_lt n (by omega)
        rw [Nat.toDigits_of_base_le large (Nat.le_of_not_lt one), List.map_append, List.map_singleton,
          unsignedFrom_append, ih (n / base) rest (Nat.lt_trans rest fits)]
        simp only [Except.bind]
        rw [unsignedFrom_digit spells last small marks (n / base) (by omega), whole]

theorem mem_toDigits (large : 1 < base) {n : Nat} {c : Char} (member : c ∈ Nat.toDigits base n) :
    ∃ digit < base, c = digit.digitChar := by
  induction n using Nat.strongRecOn with
  | _ n ih =>
      by_cases one : n < base
      · rw [Nat.toDigits_of_lt_base one, List.mem_singleton] at member
        exact ⟨n, one, member⟩
      · rw [Nat.toDigits_of_base_le large (Nat.le_of_not_lt one), List.mem_append,
          List.mem_singleton] at member
        rcases member with before | last
        · exact ih (n / base) (Nat.div_lt_self (by omega) large) before
        · exact ⟨n % base, Nat.mod_lt n (by omega), last⟩

theorem unsignedFrom_zeros (large : 1 < base) (marks : Bool) (count : Nat) (digits : List Char) :
    unsignedFrom base marks 0 (List.replicate count '0' ++ digits) =
      unsignedFrom base marks 0 digits := by
  have known : digitValue '0' = some 0 := rfl
  have some : ¬ base ≤ 0 := by omega
  induction count with
  | zero => rfl
  | succ count ih =>
      rw [List.replicate_succ, List.cons_append, unsignedFrom]
      simp [known, some, UInt64.size, ih]

/-- The first digit of a number that is not zero. -/
theorem head?_toDigits {n : Nat} (positive : 0 < n) : ∃ c rest, Nat.toDigits 10 n = c :: rest ∧
    c ≠ '0' ∧ c.isDigit = true := by
  induction n using Nat.strongRecOn with
  | _ n ih =>
      by_cases one : n < 10
      · refine ⟨n.digitChar, [], Nat.toDigits_of_lt_base one, ?_⟩
        have all : ∀ digit < 10, 0 < digit →
            digit.digitChar ≠ '0' ∧ digit.digitChar.isDigit = true := by decide
        exact all n one positive
      · obtain ⟨c, rest, spelled, first⟩ := ih (n / 10) (by omega) (by omega)
        refine ⟨c, rest ++ [(n % 10).digitChar], ?_, first⟩
        rw [Nat.toDigits_of_base_le (by decide) (Nat.le_of_not_lt one), spelled, List.cons_append]

/-- A number in decimal digits is read as itself, with or without a mark for its base. -/
theorem readMarkedInteger_toString {n : Nat} (positive : 0 < n) (fits : n < Binary64.signWeight) :
    readMarkedInteger (toString n) = .ok (Int64.ofInt n) := by
  have digits : (toString n).toList = Nat.toDigits 10 n := Nat.toList_repr
  obtain ⟨c, rest, spelled, filled, digit⟩ := head?_toDigits positive
  have all : ∀ d ∈ Nat.toDigits 10 n, d.isDigit = true := fun d member =>
    Nat.isDigit_of_mem_toDigits (by decide) (by decide) member
  have unmarked : (Nat.toDigits 10 n).contains '_' = false := by
    rw [List.contains_eq_mem, decide_eq_false_iff_not]
    intro member
    exact absurd (all _ member) (by decide)
  have unsignedText : signed (Nat.toDigits 10 n) = (false, Nat.toDigits 10 n) := by
    rw [spelled]
    unfold signed
    split
    · next same => cases same; exact absurd digit (by decide)
    · next same => cases same; exact absurd digit (by decide)
    · rfl
  -- No sign, no mark of a base and no underscore: the digits are read in base ten.
  have weight : Binary64.signWeight = 9223372036854775808 := rfl
  have read : unsigned 10 true (Nat.toDigits 10 n) = .ok n := by
    have room : n < UInt64.size := by
      rw [weight] at fits
      exact Nat.lt_trans fits (by decide)
    have value : unsignedFrom 10 true 0 ((Nat.toDigits 10 n).map id) = .ok n :=
      unsignedFrom_toDigits spells_id (by decide) (by decide) true room
    rw [List.map_id] at value
    rw [spelled] at value ⊢
    exact value
  have magnitude : marked (Nat.toDigits 10 n) (Nat.toDigits 10 n) = .ok n := by
    unfold marked
    rw [unmarked]
    rw [spelled] at read ⊢
    split
    · next same => cases same; exact absurd rfl filled
    · next same => cases same; exact absurd rfl filled
    · rw [read]
      rfl
  simp [readMarkedInteger, unsignedText, magnitude, Except.bind, fitted, fits, asReadError]

end SqlMapper.Number
