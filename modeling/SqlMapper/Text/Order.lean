/-!
Texts in increasing order of their code points, which is the order of their UTF-8 bytes.
-/
namespace SqlMapper.Text

/-- Inserts a text into a sorted list, unless it is there. -/
def insertSorted (text : String) : List String → List String
  | [] => [text]
  | first :: rest =>
      if text == first then first :: rest
      else if text < first then text :: first :: rest
      else first :: insertSorted text rest

def sortedDistinct : List String → List String
  | [] => []
  | text :: rest => insertSorted text (sortedDistinct rest)

/-- Inserts a text into a sorted list, before those that equal it. -/
def insertBefore (text : String) : List String → List String
  | [] => [text]
  | first :: rest =>
      if first < text then first :: insertBefore text rest else text :: first :: rest

def sorted : List String → List String
  | [] => []
  | text :: rest => insertBefore text (sorted rest)

theorem mem_insertBefore (text other : String) (texts : List String) :
    other ∈ insertBefore text texts ↔ other = text ∨ other ∈ texts := by
  induction texts with
  | nil => simp [insertBefore]
  | cons first rest ih =>
      by_cases less : first < text
      · simp [insertBefore, less, ih, or_left_comm]
      · simp [insertBefore, less]

theorem pairwise_insertBefore (text : String) {texts : List String}
    (increasing : texts.Pairwise (· ≤ ·)) : (insertBefore text texts).Pairwise (· ≤ ·) := by
  induction texts with
  | nil => simp [insertBefore]
  | cons first rest ih =>
      obtain ⟨least, others⟩ := List.pairwise_cons.mp increasing
      by_cases less : first < text
      · simp only [insertBefore, less, ↓reduceIte, List.pairwise_cons, mem_insertBefore]
        refine ⟨?_, ih others⟩
        rintro other (rfl | member)
        · exact String.not_lt.mp (String.lt_asymm less)
        · exact least other member
      · simp only [insertBefore, less, ↓reduceIte, List.pairwise_cons]
        refine ⟨?_, least, others⟩
        have before : text ≤ first := String.not_lt.mp less
        intro other member
        rcases List.mem_cons.mp member with rfl | later
        · exact before
        · exact String.le_trans before (least other later)

theorem pairwise_sorted (texts : List String) : (sorted texts).Pairwise (· ≤ ·) := by
  induction texts with
  | nil => exact .nil
  | cons text rest ih => exact pairwise_insertBefore text ih

end SqlMapper.Text
