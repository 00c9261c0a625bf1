import SqlMapper.Proofs.Search
import SqlMapper.Schema.Database

/-!
Statements that create an object and tolerate that it is there. The clause is put behind the first
`CREATE` of the object, unless the statement has a `CREATE` with the clause anywhere: then it is kept,
also where that one is not the first.
-/

namespace SqlMapper.Schema

def creation (object : String) : List Char :=
  ("CREATE " ++ object).toList

def toleration : List Char :=
  " IF NOT EXISTS".toList

variable {object ddl : String} {before after : List Char}

theorem guarded_eq (object ddl : String) :
    guarded object ddl =
      if Text.occurs (creation object ++ toleration) ddl.toList then ddl
      else String.ofList
        (Text.replaceFirst (creation object) (creation object ++ toleration) ddl.toList) := by
  have clause : creation object ++ toleration = ("CREATE " ++ object ++ " IF NOT EXISTS").toList :=
    String.toList_append.symm
  rw [clause]
  rfl

theorem guarded_of_tolerant (tolerant : creation object ++ toleration <:+: ddl.toList) :
    guarded object ddl = ddl := by
  rw [guarded_eq, if_pos (Text.occurs_eq_true_iff.mpr tolerant)]

theorem guarded_of_strict (strict : ¬ creation object ++ toleration <:+: ddl.toList)
    (first : Text.FirstAt (creation object) ddl.toList before after) :
    (guarded object ddl).toList = before ++ creation object ++ (toleration ++ after) := by
  rw [← Text.occurs_eq_true_iff] at strict
  rw [guarded_eq, if_neg strict, Text.replaceFirst, Text.cut_eq_some_iff.mpr first,
    String.toList_ofList]
  simp only [List.append_assoc]

theorem guarded_of_other (other : ¬ creation object <:+: ddl.toList) : guarded object ddl = ddl := by
  have strict : ¬ creation object ++ toleration <:+: ddl.toList :=
    fun tolerant => other ((List.prefix_append _ _).isInfix.trans tolerant)
  rw [← Text.occurs_eq_true_iff] at other strict
  have uncut : Text.cut (creation object) ddl.toList = none := by
    simpa [Text.occurs] using other
  rw [guarded_eq, if_neg strict, Text.replaceFirst, uncut, String.ofList_toList]

/-- What becomes of a statement: it is kept if a `CREATE` in it has the clause or if it has no `CREATE`,
and gets the clause behind the first one otherwise. -/
inductive Tolerates (object ddl : String) : String → Prop where
  | tolerant (has : creation object ++ toleration <:+: ddl.toList) : Tolerates object ddl ddl
  | other (lacks : ¬ creation object <:+: ddl.toList) : Tolerates object ddl ddl
  | strict {create : String} {before after : List Char}
      (lacks : ¬ creation object ++ toleration <:+: ddl.toList)
      (first : Text.FirstAt (creation object) ddl.toList before after)
      (spelled : create.toList = before ++ creation object ++ (toleration ++ after)) :
      Tolerates object ddl create

theorem tolerates_guarded (object ddl : String) : Tolerates object ddl (guarded object ddl) := by
  by_cases has : creation object ++ toleration <:+: ddl.toList
  · rw [guarded_of_tolerant has]
    exact .tolerant has
  by_cases created : creation object <:+: ddl.toList
  · obtain ⟨before, after, first⟩ := Text.exists_firstAt created
    exact .strict has first (guarded_of_strict has first)
  · rw [guarded_of_other created]
    exact .other created

-- A statement that was changed has the clause, so that it is kept the next time.
theorem guarded_guarded (object ddl : String) :
    guarded object (guarded object ddl) = guarded object ddl := by
  by_cases tolerant : creation object ++ toleration <:+: ddl.toList
  · rw [guarded_of_tolerant tolerant, guarded_of_tolerant tolerant]
  by_cases created : creation object <:+: ddl.toList
  · obtain ⟨before, after, first⟩ := Text.exists_firstAt created
    apply guarded_of_tolerant
    rw [guarded_of_strict tolerant first]
    exact ⟨before, after, by simp⟩
  · rw [guarded_of_other created, guarded_of_other created]

/-- A statement keeps the place of its first `CREATE`. Either nothing is changed there, or the clause
is put behind it; the latter exactly if no `CREATE` of the statement has the clause. So the first one
has it in the end, unless only a later one had it before. A second time nothing changes. -/
theorem guarded_first (object ddl : String) (created : creation object <:+: ddl.toList) :
    ∃ before after rest, Text.FirstAt (creation object) ddl.toList before after ∧
      Text.FirstAt (creation object) (guarded object ddl).toList before rest ∧
      (rest = after ∧ creation object ++ toleration <:+: ddl.toList ∨
        rest = toleration ++ after ∧ ¬ creation object ++ toleration <:+: ddl.toList) ∧
      (toleration <+: rest ↔
        toleration <+: after ∨ ¬ creation object ++ toleration <:+: ddl.toList) ∧
      guarded object (guarded object ddl) = guarded object ddl := by
  obtain ⟨before, after, first⟩ := Text.exists_firstAt created
  by_cases tolerant : creation object ++ toleration <:+: ddl.toList
  · refine ⟨before, after, after, first, ?_, .inl ⟨rfl, tolerant⟩, ?_, guarded_guarded object ddl⟩
    · rw [guarded_of_tolerant tolerant]
      exact first
    · simp [tolerant]
  · refine ⟨before, after, toleration ++ after, first, ?_, .inr ⟨rfl, tolerant⟩, ?_,
      guarded_guarded object ddl⟩
    · rw [guarded_of_strict tolerant first]
      exact first.behind _
    · simp [tolerant]

/-- A statement whose comment speaks of creating a table. -/
def repeating : String :=
  "CREATE TABLE `a` (`b` int) COMMENT='CREATE TABLE'"

theorem repeating_guarded :
    creation "TABLE" <:+: repeating.toList ∧
      ¬ creation "TABLE" ++ toleration <:+: repeating.toList ∧
      ∃ before rest, Text.FirstAt (creation "TABLE") (guarded "TABLE" repeating).toList before rest ∧
        toleration <+: rest := by
  have created : creation "TABLE" <:+: repeating.toList := Text.occurs_eq_true_iff.mp (by decide +kernel)
  have strict : ¬ creation "TABLE" ++ toleration <:+: repeating.toList := by
    rw [← Text.occurs_eq_true_iff]
    decide +kernel
  obtain ⟨before, after, rest, _, first, _, clause, _⟩ := guarded_first "TABLE" repeating created
  exact ⟨created, strict, before, rest, first, clause.mpr (.inr strict)⟩

/-- A statement whose comment tolerates a table. -/
def misleading : String :=
  "CREATE TABLE `a` (`b` int) COMMENT='CREATE TABLE IF NOT EXISTS'"

theorem misleading_unguarded :
    creation "TABLE" <:+: misleading.toList ∧
      ∀ before rest, Text.FirstAt (creation "TABLE") (guarded "TABLE" misleading).toList before rest →
        ¬ toleration <+: rest := by
  have cut : Text.cut (creation "TABLE") (guarded "TABLE" misleading).toList =
      some ([], " `a` (`b` int) COMMENT='CREATE TABLE IF NOT EXISTS'".toList) := by
    decide +kernel
  constructor
  · exact Text.occurs_eq_true_iff.mp (by decide +kernel)
  · intro before rest first clause
    obtain ⟨_, rfl⟩ := (Text.cut_eq_some_iff.mp cut).unique first
    revert clause
    decide +kernel

end SqlMapper.Schema
