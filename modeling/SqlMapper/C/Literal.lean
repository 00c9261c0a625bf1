/-!
String literals of C. Quotes and backslashes are escaped, line ends and tabs have short escapes,
other control characters are written with three octal digits, and everything else stands for
itself.
-/
namespace SqlMapper.C

def octalDigit (n : Nat) : Char :=
  Char.ofNat ('0'.toNat + n % 8)

/-- Three octal digits of a code below 512. -/
def octal (code : Nat) : List Char :=
  [octalDigit (code / 64), octalDigit (code / 8), octalDigit code]

def literalChar (c : Char) : List Char :=
  if c == '\\' then ['\\', '\\']
  else if c == '"' then ['\\', '"']
  else if c == '\n' then ['\\', 'n']
  else if c == '\r' then ['\\', 'r']
  else if c == '\t' then ['\\', 't']
  else if c.toNat < 0x20 || c.toNat == 0x7f then '\\' :: octal c.toNat
  else [c]

def literalChars (text : List Char) : List Char :=
  '"' :: text.flatMap literalChar ++ ['"']

/-- The literal whose value is `text`. -/
def literal (text : String) : String :=
  String.ofList (literalChars text.toList)

def isIdentifierStart (c : Char) : Bool :=
  c.isAlpha || c == '_'

def isIdentifierTail (c : Char) : Bool :=
  isIdentifierStart c || c.isDigit

theorem printable_of_isIdentifierTail {c : Char} (tail : isIdentifierTail c = true) :
    0x20 ≤ c.toNat ∧ c.toNat < 0x80 := by
  have widen {low high : UInt32} (above : 0x20 ≤ low.toNat) (below : high.toNat < 0x80)
      (inside : low ≤ c.val ∧ c.val ≤ high) : 0x20 ≤ c.toNat ∧ c.toNat < 0x80 :=
    ⟨Nat.le_trans above inside.1, Nat.lt_of_le_of_lt inside.2 below⟩
  rcases (Bool.or_eq_true _ _).mp tail with start | digit
  · rcases (Bool.or_eq_true _ _).mp start with letter | underscore
    · rcases (Bool.or_eq_true _ _).mp letter with upper | lower
      · exact widen (by decide) (by decide) (of_decide_eq_true upper)
      · obtain ⟨first, last⟩ := (Bool.and_eq_true _ _).mp lower
        exact widen (by decide) (by decide) ⟨of_decide_eq_true first, of_decide_eq_true last⟩
    · rw [eq_of_beq underscore]
      decide
  · obtain ⟨first, last⟩ := (Bool.and_eq_true _ _).mp digit
    exact widen (by decide) (by decide) ⟨of_decide_eq_true first, of_decide_eq_true last⟩

def isIdentifier (text : String) : Bool :=
  match text.toList with
  | [] => false
  | first :: rest => isIdentifierStart first && rest.all isIdentifierTail

theorem isIdentifierTail_of_mem {text : String} (formed : isIdentifier text = true) :
    ∀ c ∈ text.toList, isIdentifierTail c = true := by
  intro c member
  rw [isIdentifier] at formed
  cases spelled : text.toList with
  | nil =>
      rw [spelled] at member
      cases member
  | cons first rest =>
      rw [spelled] at formed member
      simp only [Bool.and_eq_true, List.all_eq_true] at formed
      rcases List.mem_cons.mp member with rfl | later
      · simp [isIdentifierTail, formed.1]
      · exact formed.2 c later

end SqlMapper.C
