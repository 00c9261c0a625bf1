import SqlMapper.Proofs.Records.Typing
import SqlMapper.Proofs.Placeholder.Scan

/-!
What a record binds to the placeholders of a text. The type under which a value is sent is told by the
declared kind of its field, and what a reader is shown is told by the value itself. Since a record of
its shape is typed after any calls, the two agree: a value is sent as null exactly if it is shown as
null, and else under the type of its own kind. No number and no quoted text is shown as null.
-/

namespace SqlMapper

namespace Sql

section Display

def isNumeral (c : Char) : Bool :=
  c.isDigit || c == '-' || c == '+' || c == '.' || c == 'e'

theorem ne_null_of_numeral {text : String} (plain : ∀ c ∈ text.toList, isNumeral c = true) :
    text ≠ "NULL" := by
  rintro rfl
  exact absurd (plain 'N' (by decide)) (by decide)

theorem isNumeral_of_isDigit {c : Char} (digit : c.isDigit = true) : isNumeral c = true := by
  simp [isNumeral, digit]

theorem isNumeral_of_mem_toDigits {n : Nat} {c : Char} (member : c ∈ Nat.toDigits 10 n) :
    isNumeral c = true :=
  isNumeral_of_isDigit (Nat.isDigit_of_mem_toDigits (by decide : 0 < 10) (by decide) member)

theorem isNumeral_of_mem_int {n : Int} {c : Char} (member : c ∈ (toString n).toList) :
    isNumeral c = true := by
  have natural {m : Nat} (inside : c ∈ (toString m).toList) : isNumeral c = true := by
    have spelled : (toString m).toList = Nat.toDigits 10 m := Nat.toList_repr
    exact isNumeral_of_mem_toDigits (spelled ▸ inside)
  cases n with
  | ofNat n => exact natural member
  | negSucc n =>
      have spelled : toString (Int.negSucc n) = "-" ++ toString (n + 1) := rfl
      rw [spelled, String.toList_append, List.mem_append] at member
      rcases member with sign | digit
      · rw [List.mem_singleton.mp sign]
        rfl
      · exact natural digit

theorem isNumeral_of_mem_exponentText {exponent : Int} {c : Char}
    (member : c ∈ Shortest.exponentText exponent) : isNumeral c = true := by
  unfold Shortest.exponentText at member
  rcases List.mem_cons.mp member with rfl | digit
  · split <;> rfl
  · split at digit
    · rcases List.mem_cons.mp digit with rfl | digit
      · rfl
      · exact isNumeral_of_mem_toDigits digit
    · exact isNumeral_of_mem_toDigits digit

variable {d : Shortest.Digits} (numerals : ∀ c ∈ d.digits, isNumeral c = true)

include numerals

theorem isNumeral_of_mem_positional {c : Char} (member : c ∈ Shortest.positional d) :
    isNumeral c = true := by
  have zero {n : Nat} (inside : c ∈ List.replicate n '0') : isNumeral c = true :=
    List.eq_of_mem_replicate inside ▸ rfl
  unfold Shortest.positional at member
  simp only at member
  split at member
  · simp only [List.cons_append, List.mem_cons, List.mem_append] at member
    rcases member with rfl | rfl | padding | digit
    · rfl
    · rfl
    · exact zero padding
    · exact numerals c digit
  · split at member
    · rcases List.mem_append.mp member with digit | padding
      · exact numerals c digit
      · exact zero padding
    · simp only [List.mem_append, List.mem_cons] at member
      rcases member with whole | rfl | rest
      · exact numerals c (List.mem_of_mem_take whole)
      · rfl
      · exact numerals c (List.mem_of_mem_drop rest)

theorem isNumeral_of_mem_scientific {c : Char} (member : c ∈ Shortest.scientific d) :
    isNumeral c = true := by
  unfold Shortest.scientific at member
  simp only [List.mem_append, List.mem_cons] at member
  rcases member with mantissa | rfl | exponent
  · cases digits : d.digits with
    | nil =>
        simp only [digits, List.mem_singleton] at mantissa
        exact mantissa ▸ rfl
    | cons first rest =>
        cases rest with
        | nil =>
            simp only [digits] at mantissa numerals
            exact numerals c mantissa
        | cons second rest =>
            simp only [digits, List.mem_cons] at mantissa numerals
            rcases mantissa with rfl | rfl | later
            · exact numerals c (.inl rfl)
            · rfl
            · exact numerals c (.inr later)
  · rfl
  · exact isNumeral_of_mem_exponentText exponent

omit numerals

/-- A number is never shown as null. -/
theorem render_ne_null (layout : Shortest.Layout) (x : Binary64) :
    Shortest.render layout x ≠ "NULL" := by
  have digits : ∀ c ∈ (Shortest.digits x).digits, isNumeral c = true := by
    intro c member
    unfold Shortest.digits at member
    exact isNumeral_of_mem_toDigits
      (List.mem_reverse.mp ((List.dropWhile_subset _) (List.mem_reverse.mp member)))
  have signed {body : List Char} (plain : ∀ c ∈ body, isNumeral c = true) :
      String.ofList ((if x.negative then ['-'] else []) ++ body) ≠ "NULL" := by
    apply ne_null_of_numeral
    intro c member
    rw [String.toList_ofList, List.mem_append] at member
    rcases member with sign | inside
    · split at sign
      · rw [List.mem_singleton.mp sign]
        rfl
      · cases sign
    · exact plain c inside
  unfold Shortest.render
  split
  · decide
  · split
    · split <;> decide
    · simp only
      split
      · exact signed (by simp [isNumeral])
      · refine signed fun c member => ?_
        split at member
        · exact isNumeral_of_mem_scientific digits member
        · exact isNumeral_of_mem_positional digits member

theorem quoted_ne_null (text : String) : Text.quoted text ≠ "NULL" := by
  intro same
  have first := congrArg (fun shown => shown.toList.head?) same
  simp [Text.quoted] at first

end Display

namespace Binding

/-- The type under which a value is sent agrees with what a reader is shown. -/
structure Agrees (b : Binding) : Prop where
  null : b.mysqlType = "MYSQL_TYPE_NULL" ↔ b.display = "NULL"
  integer : b.display ≠ "NULL" → (b.mysqlType = "MYSQL_TYPE_LONGLONG" ↔ ∃ n, b.value = .int n)
  float : b.display ≠ "NULL" → (b.mysqlType = "MYSQL_TYPE_DOUBLE" ↔ ∃ x, b.value = .float x)
  text : b.display ≠ "NULL" → (b.mysqlType = "MYSQL_TYPE_STRING" ↔ ∃ content, b.value = .text content)

variable {b : Binding}

theorem display_eq_null_iff : b.display = "NULL" ↔ b.isNull = true := by
  unfold display
  split
  · next null => simp [null]
  · next present =>
      simp only [present, Bool.false_eq_true, iff_false]
      split
      · exact ne_null_of_numeral fun c member => isNumeral_of_mem_int member
      · exact render_ne_null _ _
      · exact quoted_ne_null _

theorem mysqlType_eq_null_iff : b.mysqlType = "MYSQL_TYPE_NULL" ↔ b.isNull = true := by
  unfold mysqlType
  split
  · next null => simp [null]
  · next present =>
      simp only [present, Bool.false_eq_true, iff_false]
      split <;> decide

theorem agrees_of_holds (held : Record.Holds b.field.kind b.value) : b.Agrees := by
  have null : b.mysqlType = "MYSQL_TYPE_NULL" ↔ b.display = "NULL" :=
    mysqlType_eq_null_iff.trans display_eq_null_iff.symm
  have present (shown : b.display ≠ "NULL") : b.isNull = false :=
    Bool.eq_false_iff.mpr (mt display_eq_null_iff.mpr shown)
  cases kind : b.field.kind with
  | integer =>
      rw [kind] at held
      obtain ⟨n, same⟩ := held
      refine ⟨null, fun shown => ?_, fun shown => ?_, fun shown => ?_⟩ <;>
        simp [mysqlType, present shown, kind, same]
  | floatingPoint =>
      rw [kind] at held
      obtain ⟨x, same⟩ := held
      refine ⟨null, fun shown => ?_, fun shown => ?_, fun shown => ?_⟩ <;>
        simp [mysqlType, present shown, kind, same]
  | text =>
      rw [kind] at held
      obtain ⟨content, same⟩ := held
      refine ⟨null, fun shown => ?_, fun shown => ?_, fun shown => ?_⟩ <;>
        simp [mysqlType, present shown, kind, same]
  | unknown =>
      -- A field of an unknown kind holds nothing but the missing text, so its binding is always null.
      rw [kind] at held
      have shown : b.display = "NULL" := by
        rw [display_eq_null_iff, isNull, held]
        rfl
      exact ⟨null, absurd shown, absurd shown, absurd shown⟩

end Binding

/-- A binding is made for a field of the shape, with the value that the record has for it. -/
theorem bound_of_prepareScan {shape : ResultMap} {record : Record} {position : Nat}
    {pending : Option (List Char)} {text : List Char} {done : Prepared}
    (success : prepareScan shape record position pending text = .ok done) :
    ∀ b ∈ done.bindings, b.field ∈ shape.fields ∧ b.value = boundValue record b.field := by
  fun_induction prepareScan shape record position pending text generalizing done with
  | case1 => cases success; simp
  | case2 => cases success; simp
  | case3 position rest ih => exact ih success
  | case4 position c rest other ih =>
      obtain ⟨more, inner, same⟩ := (Outcome.map_eq_ok_iff _ _ _).mp success
      cases same
      have later := ih inner
      exact later
  | case5 => cases success
  | case6 position name c rest stop property f found =>
      rename_i ih
      obtain ⟨more, inner, same⟩ := (Outcome.map_eq_ok_iff _ _ _).mp success
      cases same
      have later := ih inner
      rw [List.forall_mem_cons]
      exact ⟨⟨List.mem_of_find?_eq_some found, rfl⟩, later⟩
  | case7 position name c rest stop ih => exact ih success

theorem agrees_of_typed {shape : ResultMap} {record : Record} (typed : record.Typed shape)
    {sql prepared : String} {bindings : List Binding}
    (success : prepare shape record sql = .ok (prepared, bindings)) : ∀ b ∈ bindings, b.Agrees := by
  obtain ⟨done, scanned, same⟩ := (Outcome.map_eq_ok_iff _ _ _).mp success
  cases same
  intro b member
  obtain ⟨listed, bound⟩ := bound_of_prepareScan scanned b member
  obtain ⟨value, found, held⟩ := typed.holds b.field listed
  apply Binding.agrees_of_holds
  rw [bound, boundValue, found]
  exact held

/-- A new record of a shape stays typed through any calls: it has the properties of the shape, with
values of the kinds of their fields, each call settles as it should, and whatever text is prepared with
the record, its bindings are sent as they are shown. -/
theorem record_stays_typed (shape : ResultMap) (distinct : (shape.fields.map (·.property)).Nodup)
    (calls : List (String × String)) :
    (Record.afterCalls shape calls).keys = shape.fields.map (·.property) ∧
      (∀ f ∈ shape.fields, ∃ value,
        (Record.afterCalls shape calls).get? f.property = some value ∧ Record.Holds f.kind value) ∧
      (∀ property raw, Record.Settles shape (Record.afterCalls shape calls) property raw) ∧
      ∀ sql prepared bindings,
        prepare shape (Record.afterCalls shape calls) sql = .ok (prepared, bindings) →
          ∀ b ∈ bindings, b.Agrees := by
  have typed := Record.typed_afterCalls distinct calls
  refine ⟨typed.keys, typed.holds, Record.settles shape _, ?_⟩
  intro sql prepared bindings success
  exact agrees_of_typed typed success

section Mixed

/-- A field of every kind, an unknown one among them. -/
def mixed : ResultMap :=
  ⟨"R", "rec", [.make "id" "id" "int64_t", .make "score" "score" "double",
    .make "name" "name" "yb_string_t", .make "mark" "mark" "char"]⟩

/-- Calls on the fields: the second, the third and the fifth fail. -/
def mixedCalls : List (String × String) :=
  [("id", "7"), ("id", "seven"), ("ghost", "1"), ("score", "null"), ("mark", "x"), ("name", "Ann")]

def mixedBindings : List Binding :=
  [⟨0, .make "name" "name" "yb_string_t", .text (some "Ann")⟩,
    ⟨1, .make "mark" "mark" "char", .text none⟩, ⟨2, .make "id" "id" "int64_t", .int 7⟩,
    ⟨3, .make "score" "score" "double", .float Value.nullFloat⟩]

theorem mixed_stays_typed :
    (mixed.fields.map (·.property)).Nodup ∧
      (Record.afterCalls mixed mixedCalls).keys = ["id", "score", "name", "mark"] ∧
      Record.Refused mixed "mark" "x" (.unsupported "mark") ∧
      prepare mixed (Record.afterCalls mixed mixedCalls)
          "#\x7bname\x7d #\x7bmark\x7d #\x7bid\x7d #\x7bscore\x7d" =
        .ok ("? ? ? ?", mixedBindings) ∧
      mixedBindings.map Binding.mysqlType = ["MYSQL_TYPE_STRING", "MYSQL_TYPE_NULL",
        "MYSQL_TYPE_LONGLONG", "MYSQL_TYPE_NULL"] ∧
      ∀ b ∈ mixedBindings, b.Agrees := by
  have distinct : (mixed.fields.map (·.property)).Nodup := by decide
  have prepared : prepare mixed (Record.afterCalls mixed mixedCalls)
      "#\x7bname\x7d #\x7bmark\x7d #\x7bid\x7d #\x7bscore\x7d" =
        .ok ("? ? ? ?", mixedBindings) := by rfl
  obtain ⟨keys, _, settles, agrees⟩ := record_stays_typed mixed distinct mixedCalls
  refine ⟨distinct, keys, ?_, prepared, by decide, agrees _ _ _ prepared⟩
  exact ((settles "mark" "x").failed _).mp (by decide)

end Mixed

end Sql
end SqlMapper
