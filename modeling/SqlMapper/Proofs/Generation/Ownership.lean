import Mathlib.Data.List.Nodup
import SqlMapper.Proofs.Compilation
import SqlMapper.Proofs.Files.Frame
import SqlMapper.Proofs.Generation.Schedules

/-!
Who owns the files of a generation. The names of the files and the macros that guard the headers are
derived from the namespaces, and the support files have names and a macro of their own. The
namespaces are compared with one another only: the files are distinct unless one of the namespaces is
that of the support files, and the guards are distinct unless two namespaces differ by case alone.
-/

namespace SqlMapper.Generation

open Code

section Names

def namesOf (space : String) : List String :=
  [headerFile space, sourceFile space]

/-- How a file of a namespace is spelled. -/
theorem toList_of_mem_namesOf {space name : String} (member : name ∈ namesOf space) :
    ∃ ending, ending ≠ '/' ∧ name.toList = 'y' :: 'b' :: '_' :: (space.toList ++ ['.', ending]) := by
  simp only [namesOf, List.mem_cons, List.not_mem_nil, or_false] at member
  rcases member with rfl | rfl
  · exact ⟨'h', by decide, by simp [headerFile]⟩
  · exact ⟨'c', by decide, by simp [sourceFile]⟩

theorem fileName_of_mem_namesOf {space name : String} (formed : C.isIdentifier space = true)
    (member : name ∈ namesOf space) : Path.FileName name := by
  obtain ⟨ending, other, spelled⟩ := toList_of_mem_namesOf member
  have apart (text : String) (differs : text.toList.head? ≠ some 'y') : name ≠ text := by
    rintro rfl
    rw [spelled] at differs
    exact differs rfl
  refine ⟨⟨apart "" (by decide), ?_⟩, apart "." (by decide), apart ".." (by decide)⟩
  rw [spelled]
  intro separated
  have inside : '/' ∈ space.toList := by simpa [Path.separator, other.symm] using separated
  have tail := C.isIdentifierTail_of_mem formed '/' inside
  revert tail
  decide

theorem namesOf_nodup (space : String) : (namesOf space).Nodup := by
  have differ : headerFile space ≠ sourceFile space := by
    intro same
    have spelled := congrArg String.toList same
    simp [headerFile, sourceFile] at spelled
  simpa [namesOf] using differ

theorem space_eq_of_mem_namesOf {space other name : String} (first : name ∈ namesOf space)
    (second : name ∈ namesOf other) : space = other := by
  obtain ⟨ending, _, spelled⟩ := toList_of_mem_namesOf first
  obtain ⟨last, _, again⟩ := toList_of_mem_namesOf second
  rw [spelled] at again
  simp only [List.cons.injEq, true_and] at again
  exact String.toList_injective (List.append_inj_left' again rfl)

theorem nodup_names_iff (spaces : List String) : (spaces.flatMap namesOf).Nodup ↔ spaces.Nodup := by
  rw [List.nodup_flatMap]
  constructor
  · rintro ⟨_, apart⟩
    refine apart.imp ?_
    rintro space other disjoint rfl
    exact disjoint List.mem_cons_self List.mem_cons_self
  · intro distinct
    refine ⟨fun space _ => namesOf_nodup space, distinct.imp ?_⟩
    intro space other differs name first second
    exact differs (space_eq_of_mem_namesOf first second)

/-- The files of all namespaces; the support files are those of a namespace of their own. -/
theorem names_generatedFiles (outputs : List Compiled) :
    (outputs.flatMap outputFiles ++ Support.files).map (·.1)
      = (outputs.map (·.space) ++ ["common"]).flatMap namesOf := by
  have support : Support.files.map (·.1) = namesOf "common" := rfl
  rw [List.map_append, List.flatMap_append, support, List.flatMap_singleton, List.map_flatMap,
    List.flatMap_map]
  rfl

end Names

section Guards

/-- The macro that the first line of a header asks for. -/
def guardOf (text : String) : Option String :=
  ("#ifndef ".toList.isPrefixOf? (text.toList.takeWhile (· != '\n'))).map String.ofList

theorem guardOf_lines {name : String} (single : '\n' ∉ name.toList) (rest : List String) :
    guardOf (String.join ((("#ifndef " ++ name) :: rest).map (· ++ "\n"))) = some name := by
  have line : ∀ c ∈ "#ifndef ".toList ++ name.toList, (c != '\n') = true := by
    intro c member
    rcases List.mem_append.mp member with fixed | inside
    · have apart : "#ifndef ".toList.all (· != '\n') = true := by decide
      exact List.all_eq_true.mp apart c fixed
    · exact bne_iff_ne.mpr fun same => single (same ▸ inside)
  have spelled : (String.join ((("#ifndef " ++ name) :: rest).map (· ++ "\n"))).toList =
      ("#ifndef ".toList ++ name.toList) ++
        '\n' :: (String.join (rest.map (· ++ "\n"))).toList := by
    simp [String.toList_join]
  rw [guardOf, spelled, List.takeWhile_append_of_pos line]
  simp [List.isPrefixOf?]

theorem newline_not_mem_guard {space : String} (formed : C.isIdentifier space = true) :
    '\n' ∉ (Code.guard space).toList := by
  intro inside
  have tail := isIdentifierTail_of_mem_guard formed '\n' inside
  revert tail
  decide

theorem guard_inj_iff (space other : String) :
    Code.guard space = Code.guard other ↔ Text.upper space = Text.upper other := by
  constructor
  · intro same
    have spelled := congrArg String.toList same
    simp only [Code.guard, String.toList_append, List.append_cancel_right_eq,
      List.append_cancel_left_eq] at spelled
    exact String.toList_injective spelled
  · intro same
    rw [Code.guard, Code.guard, same]

/-- The header of a compiled mapper is guarded by the macro of its namespace. -/
theorem guardOf_compiled {m : Mapper} {c : Compiled} (success : (compile m).outcome = .ok c) :
    C.isIdentifier c.space = true ∧ guardOf c.headerText = some (Code.guard c.space) := by
  obtain ⟨formed, _, functions, _, space, header, _⟩ := compile_eq_ok m c success
  rw [← space] at formed header
  refine ⟨formed, ?_⟩
  rw [Compiled.headerText, header]
  exact guardOf_lines (newline_not_mem_guard formed) _

theorem nodup_guards_iff (spaces : List String) :
    (spaces.map fun space => some (Code.guard space)).Nodup ↔ (spaces.map Text.upper).Nodup := by
  simp only [List.Nodup, List.pairwise_map, ne_eq, Option.some.injEq, guard_inj_iff]

theorem guardOf_support : guardOf Support.headerText = some (Code.guard "common") := by
  have macroName : Code.guard "common" = "YB_COMMON_H__" := by decide
  have first : "#ifndef " ++ "YB_COMMON_H__" = "#ifndef YB_COMMON_H__" := by decide
  have lines : Support.headerLines
      = ("#ifndef " ++ "YB_COMMON_H__") :: Support.headerLines.tail := by
    rw [first]
    rfl
  rw [Support.headerText, Support.ofLines, lines, macroName]
  exact guardOf_lines (by decide) _

end Guards

section Writing

variable {v next : Volume} {directory : String}

/-- Each of the files below a directory holds its text, unless a later one has the same name. -/
def Holds (v : Volume) (directory : String) (files : List (String × String)) : Prop :=
  ∀ before name text after, files = before ++ (name, text) :: after → name ∉ after.map (·.1) →
    v.Stores (Path.join directory name) (Text.encode text)

theorem holds_writeEach {files : List (String × String)}
    (named : ∀ file ∈ files, Path.FileName file.1)
    (success : v.writeEach (files.map fun file => (Path.join directory file.1, file.2))
      = (.ok (), next)) :
    v.Extends next (files.map fun file => Path.join directory file.1) ∧
      (∀ name bytes, Path.FileName name → name ∉ files.map (·.1) →
        v.Stores (Path.join directory name) bytes → next.Stores (Path.join directory name) bytes) ∧
      Holds next directory files := by
  -- The middle part carries the induction: what was written first is kept by the rest of the files,
  -- unless one of them has its name.
  induction files generalizing v with
  | nil =>
      cases success
      refine ⟨.refl _ _, fun _ _ _ _ stores => stores, ?_⟩
      intro before name text after split
      cases before <;> cases split
  | cons file rest ih =>
      rw [List.forall_mem_cons] at named
      obtain ⟨first, others⟩ := named
      rw [List.map_cons, Volume.writeEach] at success
      split at success
      · cases success
      · next middle wrote =>
          obtain ⟨extended, stored⟩ := Volume.stores_of_write first wrote
          obtain ⟨grown, kept, held⟩ := ih others success
          refine ⟨extended.trans grown, ?_, ?_⟩
          · intro name bytes fileName apart stores
            rw [List.map_cons, List.mem_cons, not_or] at apart
            exact kept name bytes fileName apart.2 (stores.write fileName first apart.1 wrote)
          · intro before name text after split last
            cases before with
            | nil =>
                cases split
                exact kept name _ first last stored
            | cons _ before =>
                cases split
                exact held before name text after rfl last

/-- On a disk the files that are not written stay as they are. -/
theorem keepsFiles_writeEach {files : List (String × String)} (disk : v.medium = .disk)
    (named : ∀ file ∈ files, Path.FileName file.1)
    (success : v.writeEach (files.map fun file => (Path.join directory file.1, file.2))
      = (.ok (), next)) :
    v.KeepsFiles next (files.map fun file => Path.join directory file.1) := by
  induction files generalizing v with
  | nil =>
      cases success
      exact fun _ _ found _ _ => found
  | cons file rest ih =>
      rw [List.forall_mem_cons] at named
      rw [List.map_cons, Volume.writeEach] at success
      split at success
      · cases success
      · next middle wrote =>
          obtain ⟨extended, _⟩ := Volume.stores_of_write named.1 wrote
          exact (Volume.keepsFiles_write disk named.1 wrote).trans
            (ih (extended.medium.trans disk) named.2 success)

/-- In memory nothing stands in the way of a file. -/
theorem writeEach_of_memory (memory : v.medium = .memory) (free : v.refusals = {})
    (files : List (String × String)) : ∃ next, v.writeEach files = (.ok (), next) := by
  induction files generalizing v with
  | nil => exact ⟨v, rfl⟩
  | cons file rest ih =>
      have wrote : v.write file.1 (Text.encode file.2)
          = .ok (v.putFile (v.keyOf file.1) (Text.encode file.2)) := by
        simp [Volume.write, free, Volume.locate, memory, Except.bind]
      have extended := v.extends_putFile (v.keyOf file.1) (Text.encode file.2)
      rw [Volume.writeEach, wrote]
      exact ih (extended.medium.trans memory) (extended.refusals.trans free)

theorem writeInto_of_memory (memory : v.medium = .memory) (free : v.refusals = {})
    (directory : String) (files : List (String × String)) :
    ∃ next, v.writeInto directory files = (.ok (), next) := by
  cases made : v.makeDirectory directory with
  | error cause =>
      simp only [Volume.makeDirectory, free, memory, List.contains_nil, Bool.false_eq_true,
        ↓reduceIte] at made
      split at made <;> cases made
  | ok middle =>
      have extended := Volume.extends_makeDirectory made
      rw [Volume.writeInto, made]
      exact writeEach_of_memory (extended.medium.trans memory) (extended.refusals.trans free) files

end Writing

section Outcome

variable {v : Volume} {request : GenerationRequest} {outputs : List Compiled}

/-- How a generation succeeds: the documents are ready, the directory is made, and every file is
written. -/
theorem generate_eq_ok {result : Generated}
    (success : (generate v request).1.outcome = .ok result) :
    ∃ outputs middle, Ready v request outputs ∧ v.makeDirectory request.output = .ok middle ∧
      middle.writeEach (generatedFiles request.output outputs) = (.ok (), (generate v request).2) ∧
      result = ⟨outputs, (generatedFiles request.output outputs).map (·.1)⟩ := by
  cases compiled : (compileAll v request).outcome with
  | error error =>
      rw [(generate_of_rejected compiled).1] at success
      cases success
  | ok outputs =>
      obtain ⟨outcome, volume⟩ := generate_of_compiled compiled
      rw [outcome] at success
      rw [volume]
      obtain ⟨_, done, rfl⟩ := (Outcome.map_eq_ok_iff _ _ _).mp success
      cases made : v.makeDirectory request.output with
      | error cause =>
          rw [Volume.writeInto, made] at done
          cases done
      | ok middle =>
          simp only [Volume.writeInto, made] at done ⊢
          exact ⟨outputs, middle, ready_of_compileAll compiled, rfl, Prod.ext done rfl, rfl⟩

theorem guardOf_of_ready (ready : Ready v request outputs) : ∀ c ∈ outputs,
    C.isIdentifier c.space = true ∧ guardOf c.headerText = some (Code.guard c.space) := by
  intro c member
  obtain ⟨paths, found, compiled, checked⟩ := ready
  clear found checked
  induction compiled with
  | nil => cases member
  | cons first _ ih =>
      rcases List.mem_cons.mp member with rfl | later
      · obtain ⟨m, _, success⟩ := compiles_iff.mp first
        exact guardOf_compiled success
      · exact ih later

/-- The files of a generation have names of namespaces. -/
theorem exists_space_of_mem (ready : Ready v request outputs) {name : String}
    (member : name ∈ (outputs.flatMap outputFiles ++ Support.files).map (·.1)) :
    ∃ space ∈ outputs.map (·.space) ++ ["common"],
      C.isIdentifier space = true ∧ name ∈ namesOf space := by
  rw [names_generatedFiles, List.mem_flatMap] at member
  obtain ⟨space, listed, owned⟩ := member
  refine ⟨space, listed, ?_, owned⟩
  rcases List.mem_append.mp listed with compiled | support
  · obtain ⟨c, inside, rfl⟩ := List.mem_map.mp compiled
    exact (guardOf_of_ready ready c inside).1
  · rw [List.mem_singleton.mp support]
    decide

theorem fileName_of_ready (ready : Ready v request outputs) {name : String}
    (member : name ∈ (outputs.flatMap outputFiles ++ Support.files).map (·.1)) :
    Path.FileName name := by
  obtain ⟨space, _, formed, owned⟩ := exists_space_of_mem ready member
  exact fileName_of_mem_namesOf formed owned

theorem nodup_spaces (ready : Ready v request outputs) : (outputs.map (·.space)).Nodup := by
  obtain ⟨_, _, _, checked⟩ := ready
  exact (checkSpaces_eq_ok_iff outputs).mp checked

theorem nodup_files_iff (ready : Ready v request outputs) :
    ((outputs.flatMap outputFiles ++ Support.files).map fun file =>
        Path.join request.output file.1).Nodup ↔ "common" ∉ outputs.map (·.space) := by
  have distinct := nodup_spaces ready
  have injective : ∀ name ∈ (outputs.flatMap outputFiles ++ Support.files).map (·.1),
      ∀ other ∈ (outputs.flatMap outputFiles ++ Support.files).map (·.1),
        Path.join request.output name = Path.join request.output other → name = other := by
    intro name first other second same
    exact Path.name_eq_of_join_eq (fileName_of_ready ready first) _
      (fileName_of_ready ready second) same
  calc ((outputs.flatMap outputFiles ++ Support.files).map fun file =>
          Path.join request.output file.1).Nodup
      ↔ (((outputs.flatMap outputFiles ++ Support.files).map (·.1)).map
          (Path.join request.output)).Nodup := by rw [List.map_map]; rfl
    _ ↔ ((outputs.flatMap outputFiles ++ Support.files).map (·.1)).Nodup :=
        ⟨List.Nodup.of_map _, List.Nodup.map_on injective⟩
    _ ↔ (outputs.map (·.space) ++ ["common"]).Nodup := by
        rw [names_generatedFiles, nodup_names_iff]
    _ ↔ "common" ∉ outputs.map (·.space) := by simp [List.nodup_append', distinct]

/-- No file that comes after those of a namespace has one of its names. -/
theorem not_mem_later {space name : String} {rest : List Compiled} (owned : name ∈ namesOf space)
    (apart : space ∉ rest.map (·.space)) (own : space ≠ "common") :
    name ∉ (rest.flatMap outputFiles ++ Support.files).map (·.1) := by
  rw [names_generatedFiles, List.mem_flatMap]
  rintro ⟨other, listed, again⟩
  rw [← space_eq_of_mem_namesOf owned again, List.mem_append, List.mem_singleton] at listed
  exact listed.elim apart own

theorem Holds.support {next : Volume} {directory : String}
    (held : Holds next directory (outputs.flatMap outputFiles ++ Support.files)) :
    ∀ file ∈ Support.files, next.Stores (Path.join directory file.1) (Text.encode file.2) := by
  intro file member
  simp only [Support.files, List.mem_cons, List.not_mem_nil, or_false] at member
  rcases member with rfl | rfl
  · refine held (outputs.flatMap outputFiles) _ _ [(supportSource, Support.sourceText)] ?_ ?_
    · rw [Support.files]
    · simp [supportHeader, supportSource]
  · refine held (outputs.flatMap outputFiles ++ [(supportHeader, Support.headerText)]) _ _ [] ?_ ?_
    · rw [Support.files, List.append_assoc, List.singleton_append]
    · simp

theorem Holds.owned {next : Volume} {directory : String}
    (held : Holds next directory (outputs.flatMap outputFiles ++ Support.files))
    (distinct : (outputs.map (·.space)).Nodup) {c : Compiled} (member : c ∈ outputs)
    (own : c.space ≠ "common") :
    ∀ file ∈ outputFiles c, next.Stores (Path.join directory file.1) (Text.encode file.2) := by
  intro file listed
  obtain ⟨before, rest, rfl⟩ := List.append_of_mem member
  have apart : c.space ∉ rest.map (·.space) := by
    rw [List.map_append, List.map_cons, List.nodup_append'] at distinct
    exact (List.nodup_cons.mp distinct.2.1).1
  simp only [outputFiles, List.mem_cons, List.not_mem_nil, or_false] at listed
  rcases listed with rfl | rfl
  · refine held (before.flatMap outputFiles) _ _ ((c.sourceName, c.sourceText) ::
      (rest.flatMap outputFiles ++ Support.files)) (by simp [outputFiles]) ?_
    rw [List.map_cons, List.mem_cons, not_or]
    exact ⟨(List.nodup_cons.mp (namesOf_nodup c.space)).1 ∘ List.mem_singleton.mpr,
      not_mem_later List.mem_cons_self apart own⟩
  · refine held (before.flatMap outputFiles ++ [(c.headerName, c.headerText)]) _ _
      (rest.flatMap outputFiles ++ Support.files) (by simp [outputFiles]) ?_
    exact not_mem_later (List.mem_cons_of_mem _ List.mem_cons_self) apart own

/-- What a generation that succeeds leaves behind. -/
structure Owned (v : Volume) (output : String) (result : Generated) (after : Volume) : Prop where
  files_eq : result.files = (result.outputs.flatMap outputFiles ++ Support.files).map fun file =>
    Path.join output file.1
  /-- The files are distinct exactly if no namespace is that of the support files. -/
  distinct_iff : result.files.Nodup ↔ "common" ∉ result.outputs.map (·.space)
  support : ∀ file ∈ Support.files, after.Stores (Path.join output file.1) (Text.encode file.2)
  /-- The files of every other namespace hold what was compiled. -/
  owned : ∀ c ∈ result.outputs, c.space ≠ "common" → ∀ file ∈ outputFiles c,
    after.Stores (Path.join output file.1) (Text.encode file.2)
  /-- Nothing else is written. -/
  frame : v.Extends after result.files
  /-- On a disk no other file is touched. -/
  untouched : v.medium = .disk → v.Rooted → v.KeepsFiles after result.files
  guards : (result.outputs.map (·.headerText) ++ [Support.headerText]).map guardOf
    = (result.outputs.map (·.space) ++ ["common"]).map fun space => some (Code.guard space)
  /-- The guards are distinct exactly if no two namespaces differ by case alone, that of the support
  files among them. -/
  guards_distinct_iff :
    ((result.outputs.map (·.headerText) ++ [Support.headerText]).map guardOf).Nodup ↔
      ((result.outputs.map (·.space) ++ ["common"]).map Text.upper).Nodup

theorem guards_of_ready (ready : Ready v request outputs) :
    (outputs.map (·.headerText) ++ [Support.headerText]).map guardOf
      = (outputs.map (·.space) ++ ["common"]).map fun space => some (Code.guard space) := by
  rw [List.map_append, List.map_append, List.map_map, List.map_map, List.map_singleton,
    List.map_singleton, guardOf_support]
  congr 1
  apply List.map_congr_left
  intro c member
  exact (guardOf_of_ready ready c member).2

theorem generate_owned (v : Volume) (request : GenerationRequest) (result : Generated)
    (success : (generate v request).1.outcome = .ok result) :
    Owned v request.output result (generate v request).2 := by
  obtain ⟨outputs, middle, ready, made, written, rfl⟩ := generate_eq_ok success
  have files : ((generatedFiles request.output outputs).map (·.1)) =
      (outputs.flatMap outputFiles ++ Support.files).map fun file =>
        Path.join request.output file.1 := by
    rw [generatedFiles, List.map_map]
    rfl
  have named : ∀ file ∈ outputs.flatMap outputFiles ++ Support.files, Path.FileName file.1 :=
    fun file member => fileName_of_ready ready (List.mem_map_of_mem member)
  obtain ⟨extended, _, held⟩ := holds_writeEach named written
  have begun := Volume.extends_makeDirectory made
  refine ⟨files, ?_, held.support, ?_, ?_, ?_, guards_of_ready ready, ?_⟩
  · rw [files]
    exact nodup_files_iff ready
  · intro c member own
    exact held.owned (nodup_spaces ready) member own
  · rw [files]
    exact begun.trans extended
  · intro disk root
    rw [files]
    exact (Volume.keepsFiles_makeDirectory disk root made).trans
      (keepsFiles_writeEach (begun.medium.trans disk) named written)
  · rw [guards_of_ready ready]
    exact nodup_guards_iff _

/-- In memory a generation succeeds as soon as its documents are compiled. -/
theorem generate_of_memory (memory : v.medium = .memory) (free : v.refusals = {})
    {spaces : List String}
    (compiled : (compileAll v request).outcome.toOption.map (·.map (·.space)) = some spaces) :
    ∃ outputs, Ready v request outputs ∧ outputs.map (·.space) = spaces ∧
      (generate v request).1.outcome
        = .ok ⟨outputs, (generatedFiles request.output outputs).map (·.1)⟩ := by
  cases passed : (compileAll v request).outcome with
  | error error =>
      rw [passed] at compiled
      cases compiled
  | ok outputs =>
      rw [passed] at compiled
      obtain ⟨next, written⟩ := writeInto_of_memory memory free request.output
        (generatedFiles request.output outputs)
      refine ⟨outputs, ready_of_compileAll passed, Option.some.inj compiled, ?_⟩
      rw [(generate_of_compiled passed).1, written]
      rfl

theorem apart_owned :
    ∃ result, (generate apart pairRequest).1.outcome = .ok result ∧
      result.outputs.map (·.space) = ["a", "b"] ∧
      Owned apart "out" result (generate apart pairRequest).2 := by
  have compiled : (compileAll apart pairRequest).outcome.toOption.map (·.map (·.space))
      = some ["a", "b"] := by decide +kernel
  obtain ⟨outputs, _, spaces, success⟩ :=
    generate_of_memory (by decide +kernel) (by decide +kernel) compiled
  exact ⟨_, success, spaces, generate_owned apart pairRequest _ success⟩

/-- A document in the namespace of the support files. -/
def supporting : Volume :=
  (Volume.empty .memory).putFile "in/c-mapper.xml" (Text.encode "<mapper namespace=\"common\"/>")

/-- Two documents whose namespaces differ by case alone. -/
def alike : Volume :=
  pair "<mapper namespace=\"user\"/>" "<mapper namespace=\"User\"/>"

theorem supporting_shares_files :
    (∃ result, (generate supporting pairRequest).1.outcome = .ok result ∧ ¬ result.files.Nodup) ∧
      ∃ result, (generate alike pairRequest).1.outcome = .ok result ∧
        ¬ ((result.outputs.map (·.headerText) ++ [Support.headerText]).map guardOf).Nodup := by
  constructor
  · have compiled : (compileAll supporting pairRequest).outcome.toOption.map (·.map (·.space))
        = some ["common"] := by decide +kernel
    obtain ⟨outputs, ready, spaces, success⟩ :=
      generate_of_memory (by decide +kernel) (by decide +kernel) compiled
    refine ⟨_, success, ?_⟩
    have shared := nodup_files_iff ready
    rw [spaces] at shared
    intro distinct
    rw [generatedFiles, List.map_map] at distinct
    exact shared.mp distinct (by decide)
  · have compiled : (compileAll alike pairRequest).outcome.toOption.map (·.map (·.space))
        = some ["user", "User"] := by decide +kernel
    obtain ⟨outputs, ready, spaces, success⟩ :=
      generate_of_memory (by decide +kernel) (by decide +kernel) compiled
    refine ⟨_, success, ?_⟩
    rw [guards_of_ready ready, nodup_guards_iff, spaces]
    decide

end Outcome

end SqlMapper.Generation
