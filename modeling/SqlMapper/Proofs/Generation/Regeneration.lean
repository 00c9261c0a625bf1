import SqlMapper.Proofs.Files.Rediscovery
import SqlMapper.Proofs.Files.Rewriting
import SqlMapper.Proofs.Generation.Ownership

/-!
Generating again. What a generation writes is never selected as a document, and no document is written,
so a second generation finds the same documents with the same contents, makes the same files of them,
and leaves the volume as it is.
-/

namespace SqlMapper.Generation

open Code

variable {v next : Volume} {request : GenerationRequest} {output : String}
  {written : List String} {outputs : List Compiled}

section Names

/-- The files of a generation do not end like documents. -/
theorem getLast?_of_mem_namesOf {space name : String} (member : name ∈ namesOf space) :
    name.toList.getLast? ≠ some 'l' := by
  simp only [namesOf, List.mem_cons, List.not_mem_nil, or_false] at member
  have ends (before : List Char) (ending : String) (c : Char) (last : ending.toList.getLast? = some c)
      (other : c ≠ 'l') : (before ++ ending.toList).getLast? ≠ some 'l' := by
    rw [List.getLast?_append, last]
    simpa using other
  rcases member with rfl | rfl
  · rw [headerFile, String.toList_append]
    exact ends _ ".h" 'h' rfl (by decide)
  · rw [sourceFile, String.toList_append]
    exact ends _ ".c" 'c' rfl (by decide)

end Names

section Growing

variable {files : List (String × String)} {middle : Volume}

theorem grows_writeEach (orderly : v.Orderly) (begins : v.Begins output)
    (frame : v.Extends middle written) (grows : v.Grows middle output)
    (named : ∀ file ∈ files, Path.FileName file.1)
    (success : middle.writeEach (files.map fun file => (Path.join output file.1, file.2))
      = (.ok (), next)) : v.Grows next output := by
  induction files generalizing middle written with
  | nil =>
      cases success
      exact grows
  | cons file rest ih =>
      rw [List.forall_mem_cons] at named
      rw [List.map_cons, Volume.writeEach] at success
      split at success
      · cases success
      · next wrote =>
          obtain ⟨extended, _⟩ := Volume.stores_of_write named.1 wrote
          exact ih (frame.trans extended) (grows.write orderly begins frame named.1 wrote) named.2
            success

end Growing

section Rewriting

variable {files : List (String × String)}

theorem granted_of_writeEach (success : v.writeEach files = (.ok (), next)) :
    ∀ file ∈ files, v.refusals.writes.contains file.1 = false := by
  induction files generalizing v with
  | nil => exact fun file member => absurd member List.not_mem_nil
  | cons file rest ih =>
      rw [Volume.writeEach] at success
      split at success
      · cases success
      · next middle wrote =>
          obtain ⟨key, _, rfl, _⟩ := Volume.write_eq_ok wrote
          have same := (v.extends_putFile key (Text.encode file.2)).refusals
          rw [List.forall_mem_cons]
          exact ⟨Volume.granted_of_write wrote, same ▸ ih success⟩

/-- Files that are stored already are put in their places. -/
theorem writeEach_of_stores (granted : ∀ file ∈ files, v.refusals.writes.contains file.1 = false)
    (stored : ∀ file ∈ files, ∃ bytes, v.Stores file.1 bytes) :
    v.writeEach files =
      (.ok (), v.putFiles (files.map fun file => (file.1, Text.encode file.2))) := by
  induction files generalizing v with
  | nil => rfl
  | cons file rest ih =>
      rw [List.forall_mem_cons] at granted stored
      obtain ⟨bytes, stores⟩ := stored.1
      have there : (v.get? file.1).isSome = true := by
        obtain ⟨_, entry, found, _⟩ := stores
        rw [found]
        rfl
      have same := (v.extends_putFile file.1 (Text.encode file.2)).refusals
      rw [Volume.writeEach, Volume.write_of_stores stores granted.1]
      refine ih (same.symm ▸ granted.2) fun other member => ?_
      obtain ⟨bytes, stores⟩ := stored.2 other member
      exact stores.putFile there _

theorem Holds.tail {directory : String} {file : String × String}
    (held : Holds v directory (file :: files)) : Holds v directory files := by
  intro before name text after split
  exact held (file :: before) name text after (by rw [split]; rfl)

/-- Every file that is held is stored, by itself or by a later one of its name. -/
theorem Holds.stored {directory : String} (held : Holds v directory files) :
    ∀ file ∈ files, ∃ bytes, v.Stores (Path.join directory file.1) bytes := by
  induction files with
  | nil => exact fun file member => absurd member List.not_mem_nil
  | cons first rest ih =>
      have others := ih held.tail
      rw [List.forall_mem_cons]
      refine ⟨?_, others⟩
      by_cases later : first.1 ∈ rest.map (·.1)
      · obtain ⟨file, member, same⟩ := List.mem_map.mp later
        exact same ▸ others file member
      · exact ⟨_, held [] first.1 first.2 rest rfl later⟩

/-- Files that are held are written again without changing anything. -/
theorem Holds.writeEach {directory : String} (held : Holds v directory files)
    (granted : ∀ file ∈ files, v.refusals.writes.contains (Path.join directory file.1) = false) :
    v.writeEach (files.map fun file => (Path.join directory file.1, file.2)) = (.ok (), v) := by
  have writable : ∀ file ∈ files.map fun file => (Path.join directory file.1, file.2),
      v.refusals.writes.contains file.1 = false ∧ ∃ bytes, v.Stores file.1 bytes := by
    intro file member
    obtain ⟨inner, inside, rfl⟩ := List.mem_map.mp member
    exact ⟨granted inner inside, held.stored inner inside⟩
  rw [writeEach_of_stores (fun file member => (writable file member).1)
    fun file member => (writable file member).2, Volume.putFiles_self]
  · intro before key contents after split last
    rw [List.map_map] at split
    obtain ⟨earlier, rest, rfl, _, same⟩ := List.map_eq_append_iff.mp split
    obtain ⟨file, later, rfl, here, rfl⟩ := List.map_eq_cons_iff.mp same
    obtain ⟨rfl, rfl⟩ := Prod.mk.inj here
    obtain ⟨_, entry, found, contents, _⟩ := held earlier file.1 file.2 later rfl (by
      intro again
      obtain ⟨other, inside, name⟩ := List.mem_map.mp again
      rw [List.map_map] at last
      exact last (List.mem_map.mpr ⟨other, inside, by simp [name]⟩))
    exact ⟨entry, found, contents⟩
  · intro file member
    obtain ⟨inner, inside, rfl⟩ := List.mem_map.mp member
    obtain ⟨bytes, _, entry, found, _⟩ := (writable inner inside).2
    exact Option.isSome_iff_exists.mpr ⟨entry, found⟩

end Rewriting

section Compiling

theorem mapList_congr {ε α β : Type} {f g : α → Logged ε β} {items : List α}
    (same : ∀ item ∈ items, f item = g item) : Logged.mapList f items = Logged.mapList g items := by
  induction items with
  | nil => rfl
  | cons first rest ih =>
      rw [List.forall_mem_cons] at same
      rw [Logged.mapList, Logged.mapList, same.1, ih same.2]

/-- The same documents with the same contents are compiled in the same way, down to the log. -/
theorem compileAll_congr {paths : List String}
    (found : discover v request.input request.pattern = .ok paths)
    (again : discover next request.input request.pattern = .ok paths)
    (same : ∀ path ∈ paths, next.read path = v.read path) :
    compileAll next request = compileAll v request := by
  have jobs : ∀ path ∈ paths,
      documentJob next request.canceled path = documentJob v request.canceled path := by
    intro path member
    simp only [documentJob, compileDocument, Volume.loadMapper, same path member]
  simp only [compileAll, found, again, Except.mapError, Logged.ofExcept, bind, Logged.bind,
    mapList_congr jobs]

/-- Documents that were compiled were read. -/
theorem read_of_compiles {paths : List String} (compiled : List.Forall₂ (Compiles v) paths outputs) :
    ∀ path ∈ paths, ∃ contents, v.read path = .ok contents := by
  induction compiled with
  | nil => exact fun path member => absurd member List.not_mem_nil
  | cons first _ ih =>
      rw [List.forall_mem_cons]
      refine ⟨?_, ih⟩
      obtain ⟨m, loaded, _⟩ := compiles_iff.mp first
      rw [Volume.loadMapper] at loaded
      split at loaded
      · cases loaded
      · next contents done => exact ⟨contents, done⟩

end Compiling

section Turning

variable {files : List (String × String)} {middle : Volume}

/-- On a disk no file becomes a directory, and in memory only one above the output directory. -/
theorem turns_of_writeEach (orderly : v.Orderly) (made : v.makeDirectory output = .ok middle)
    (named : ∀ file ∈ files, Path.FileName file.1)
    (success : middle.writeEach (files.map fun file => (Path.join output file.1, file.2))
      = (.ok (), next)) (grows : v.Grows next output) : v.Turns next output := by
  intro path entry now aligned there later file isDirectory
  have begun := Volume.extends_makeDirectory made
  obtain ⟨extended, _, held⟩ := holds_writeEach named success
  cases medium : v.medium with
  | memory =>
      obtain ⟨news, _, fresh, stays⟩ := grows.kept there later
      cases news with
      | nil =>
          rw [stays rfl, file] at isDirectory
          cases isDirectory
      | cons member rest =>
          obtain ⟨_, _, part, done, _, passes, _, parent⟩ := fresh member List.mem_cons_self
          rw [aligned done passes parent]
          exact List.mem_map_of_mem ((List.mem_tails _ _).mpr (passes.straight medium))
  | disk =>
      have kept := (Volume.keepsFiles_makeDirectory medium orderly.rooted made).trans
        (keepsFiles_writeEach (begun.medium.trans medium) named success)
      rw [List.nil_append] at kept
      by_cases inside : v.keyOf path ∈ files.map fun file => Path.join output file.1
      · obtain ⟨own, member, same⟩ := List.mem_map.mp inside
        obtain ⟨bytes, _, stored, found, _, kind⟩ := held.stored own member
        rw [same, later, Option.some.injEq] at found
        subst found
        rw [kind ((begun.trans extended).medium.trans medium)] at isDirectory
        cases isDirectory
      · -- What was not written is kept as it was.
        have same := kept _ entry there file inside
        rw [later, Option.some.injEq] at same
        rw [same, file] at isDirectory
        cases isDirectory

end Turning

/-- What a volume is like on which a generation can be repeated. -/
structure Repeatable (v : Volume) (request : GenerationRequest) : Prop where
  orderly : v.Orderly
  /-- The directories in which the path of the output directory begins are there. -/
  begins : v.Begins request.output
  /-- If the input directory is one of them it is spelled alike: in memory a relative and an absolute
  path may lead to the same root, where members are listed as they are spelled. -/
  alike : ∀ start ∈ Path.starts request.output, v.keyOf request.input = v.keyOf start →
    Path.clean request.input = start
  readable : v.Readable request.output
  /-- The output directory is no document, and lies below none. -/
  apart : ∀ document ∈ v.selected request.input request.pattern,
    Path.clean document ∉ Path.upwards request.output

section Repeating

theorem exists_written {result : Generated} (success : (generate v request).1.outcome = .ok result) :
    ∃ outputs middle next, (compileAll v request).outcome = .ok outputs ∧
      v.makeDirectory request.output = .ok middle ∧
      middle.writeEach (generatedFiles request.output outputs) = (.ok (), next) := by
  cases compiled : (compileAll v request).outcome with
  | error error =>
      rw [(generate_of_rejected compiled).1] at success
      cases success
  | ok outputs =>
      rw [(generate_of_compiled compiled).1] at success
      obtain ⟨_, done, _⟩ := (Outcome.map_eq_ok_iff _ _ _).mp success
      cases made : v.makeDirectory request.output with
      | error cause =>
          rw [Volume.writeInto, made] at done
          cases done
      | ok middle =>
          simp only [Volume.writeInto, made] at done
          exact ⟨outputs, middle, _, rfl, rfl, Prod.ext done rfl⟩

theorem generate_of_written (compiled : (compileAll v request).outcome = .ok outputs)
    {middle : Volume} (made : v.makeDirectory request.output = .ok middle)
    (written : middle.writeEach (generatedFiles request.output outputs) = (.ok (), next)) :
    generate v request =
      (⟨(compileAll v request).log ++ [finishedEntry outputs (generatedFiles request.output outputs)],
        .ok ⟨outputs, (generatedFiles request.output outputs).map (·.1)⟩⟩, next) := by
  simp only [generate, compiled, Volume.writeInto, made, written]

/-- The files of a generation are spelled cleanly, and not like documents. -/
theorem unlike_of_ready (ready : Ready v request outputs) (directory : String) :
    ∀ path ∈ (outputs.flatMap outputFiles ++ Support.files).map fun file =>
        Path.join directory file.1,
      Path.clean path = path ∧ path.toList.getLast? ≠ some 'l' := by
  intro path member
  obtain ⟨file, inside, rfl⟩ := List.mem_map.mp member
  have listed := List.mem_map_of_mem (f := (·.1)) inside
  have named := fileName_of_ready ready listed
  obtain ⟨space, _, _, owned⟩ := exists_space_of_mem ready listed
  refine ⟨Path.clean_join named directory, ?_⟩
  rw [Path.join_name named, List.reverse_cons,
    Path.getLast?_ofParts _ List.getLast?_concat named.1]
  exact getLast?_of_mem_namesOf owned

/-- What a generation changes. -/
theorem grown_of_written (orderly : v.Orderly) (begins : v.Begins request.output)
    (ready : Ready v request outputs) {middle : Volume}
    (made : v.makeDirectory request.output = .ok middle)
    (written : middle.writeEach (generatedFiles request.output outputs) = (.ok (), next)) :
    v.Extends next ((outputs.flatMap outputFiles ++ Support.files).map fun file =>
        Path.join request.output file.1) ∧
      v.Grows next request.output ∧ v.Turns next request.output := by
  have named : ∀ file ∈ outputs.flatMap outputFiles ++ Support.files, Path.FileName file.1 :=
    fun file member => fileName_of_ready ready (List.mem_map_of_mem member)
  have begun := Volume.extends_makeDirectory made
  obtain ⟨extended, _⟩ := holds_writeEach named written
  have grows : v.Grows next request.output :=
    grows_writeEach orderly begins begun ((Volume.Grows.refl orderly request.output).makeDirectory
      orderly begins (Volume.Extends.refl v []) made) named written
  exact ⟨begun.trans extended, grows, turns_of_writeEach orderly made named written grows⟩

theorem orderly_generate (orderly : v.Orderly) (begins : v.Begins request.output) {result : Generated}
    (success : (generate v request).1.outcome = .ok result) : (generate v request).2.Orderly := by
  obtain ⟨outputs, middle, next, compiled, made, written⟩ := exists_written success
  have ready := ready_of_compileAll compiled
  obtain ⟨frame, grows, _⟩ := grown_of_written orderly begins ready made written
  rw [generate_of_written compiled made written]
  refine grows.orderly orderly frame ?_
  intro rooted member
  obtain ⟨file, inside, same⟩ := List.mem_map.mp member
  exact Path.join_ne_start (fileName_of_ready ready (List.mem_map_of_mem inside)) _ rooted same

/-- A generation that is repeated comes to the same outputs, files and log, and leaves the volume as it
is. -/
theorem generate_again (v : Volume) (request : GenerationRequest) (result : Generated)
    (standard : effectivePattern request.pattern = defaultPattern)
    (repeatable : Repeatable v request) (success : (generate v request).1.outcome = .ok result) :
    generate (generate v request).2 request = generate v request := by
  obtain ⟨outputs, middle, next, compiled, made, written⟩ := exists_written success
  have ready := ready_of_compileAll compiled
  obtain ⟨orderly, begins, alike, readable, apart⟩ := repeatable
  obtain ⟨frame, grows, turns⟩ := grown_of_written orderly begins ready made written
  have unlike := unlike_of_ready ready request.output
  have named : ∀ file ∈ outputs.flatMap outputFiles ++ Support.files, Path.FileName file.1 :=
    fun file member => fileName_of_ready ready (List.mem_map_of_mem member)
  have aligned := Volume.aligned_of_starts alike
  -- The second run finds and reads the same documents.
  obtain ⟨paths, found, each, _⟩ := ready
  have again := Volume.discover_grown standard orderly frame turns aligned
    (fun path member => (unlike path member).2) apart grows readable
    (fun path member => (unlike path member).1) found
  have same : ∀ path ∈ paths, next.read path = v.read path := by
    intro path member
    obtain ⟨contents, read⟩ := read_of_compiles each path member
    obtain ⟨_, _, _, rfl⟩ := Volume.discover_eq_ok_iff.mp found
    rw [read]
    exact frame.read (Volume.get?_selected standard orderly frame turns aligned
      (fun path member => (unlike path member).2) apart member) read
  have recompiled : compileAll next request = compileAll v request := compileAll_congr found again same
  -- It makes no directory, and writes what is there.
  obtain ⟨extended, _, held⟩ := holds_writeEach named written
  have remade := Volume.makeDirectory_again made extended
  have rewritten : next.writeEach (generatedFiles request.output outputs) = (.ok (), next) := by
    refine held.writeEach fun file member => ?_
    rw [extended.refusals]
    exact granted_of_writeEach written _ (List.mem_map_of_mem member)
  rw [generate_of_written compiled made written,
    generate_of_written (recompiled ▸ compiled) remade rewritten, recompiled]

/-- The output directory lies in the input directory. -/
def inwardRequest : GenerationRequest :=
  { input := "in", output := "in/gen", pattern := "" }

theorem pair_orderly (first second : String) : (pair first second).Orderly := by
  have a : "in/a-mapper.xml" = Path.join "in" "a-mapper.xml" := by decide
  have b : "in/b-mapper.xml" = Path.join "in" "b-mapper.xml" := by decide
  have named : Path.FileName "a-mapper.xml" ∧ Path.FileName "b-mapper.xml" :=
    ⟨⟨⟨by decide, by decide⟩, by decide, by decide⟩, ⟨by decide, by decide⟩, by decide, by decide⟩
  have begins : (Volume.empty .memory).Begins "in" := by decide
  rw [pair, a, b]
  exact ((Volume.orderly_empty .memory).putFile begins named.1 _).putFile
    ((Volume.extends_putFile _ _ _).begins begins) named.2 _

theorem apart_repeatable : Repeatable apart inwardRequest where
  orderly := pair_orderly _ _
  begins := by decide +kernel
  alike := by decide +kernel
  readable := by
    have free : apart.refusals.openings = [] := by decide +kernel
    intro stack passes path member
    rw [free] at member
    cases member
  apart := by
    have documents : apart.selected "in" "" = ["in/a-mapper.xml", "in/b-mapper.xml"] := by
      decide +kernel
    intro document member
    rw [inwardRequest, documents] at member
    revert document
    decide

theorem apart_again :
    ∃ result, (generate apart inwardRequest).1.outcome = .ok result ∧
      result.outputs.map (·.space) = ["a", "b"] ∧
      generate (generate apart inwardRequest).2 inwardRequest = generate apart inwardRequest := by
  have compiled : (compileAll apart inwardRequest).outcome.toOption.map (·.map (·.space))
      = some ["a", "b"] := by decide +kernel
  obtain ⟨outputs, _, spaces, success⟩ :=
    generate_of_memory (by decide +kernel) (by decide +kernel) compiled
  exact ⟨_, success, spaces, generate_again apart inwardRequest _ (by decide) apart_repeatable success⟩

/-- A document in the root. -/
def single : Volume :=
  (Volume.empty .memory).putFile "a-mapper.xml" (Text.encode "<mapper namespace=\"a\"/>")

/-- The root is spelled in two ways. -/
def crossingRequest : GenerationRequest :=
  { input := ".", output := "/out", pattern := "" }

/-- A generation that finds its documents no more fails. -/
theorem generate_of_lost {error : DiscoveryError}
    (lost : discover v request.input request.pattern = .error error) :
    (generate v request).1.outcome = .error (.discovery error) := by
  have failed : (compileAll v request).outcome = .error (.discovery error) := by
    simp only [compileAll, lost, bind, Logged.bind, Logged.ofExcept, Except.mapError]
  exact (generate_of_rejected failed).1

/-- In memory the root lists the output directory as it is spelled, and a walk from the current directory
looks for it there. -/
theorem crossing_fails :
    (∃ result, (generate single crossingRequest).1.outcome = .ok result) ∧
      single.selected "." "" = ["a-mapper.xml"] ∧
      "a-mapper.xml" ∉ Path.upwards "/out" ∧
      (generate (generate single crossingRequest).2 crossingRequest).1.outcome =
        .error (.discovery (.unscanned (.unknown "open" "out"))) := by
  have compiled : (compileAll single crossingRequest).outcome.toOption.map (·.map (·.space))
      = some ["a"] := by decide +kernel
  obtain ⟨outputs, _, _, success⟩ :=
    generate_of_memory (by decide +kernel) (by decide +kernel) compiled
  exact ⟨⟨_, success⟩, by decide +kernel, by decide, generate_of_lost (by decide +kernel)⟩

/-- The output directory begins in one that is not there. -/
def unbegunRequest : GenerationRequest :=
  { input := ".", output := "../../out", pattern := "" }

/-- In memory the root comes to list a directory from which it is reached again. -/
theorem unbegun_fails :
    ¬ single.Begins "../../out" ∧
      (∃ result, (generate single unbegunRequest).1.outcome = .ok result) ∧
      (generate (generate single unbegunRequest).2 unbegunRequest).1.outcome =
        .error (.discovery (.unscanned (.unknown "open" "../a-mapper.xml"))) := by
  have compiled : (compileAll single unbegunRequest).outcome.toOption.map (·.map (·.space))
      = some ["a"] := by decide +kernel
  obtain ⟨outputs, _, _, success⟩ :=
    generate_of_memory (by decide +kernel) (by decide +kernel) compiled
  exact ⟨by decide +kernel, ⟨_, success⟩, generate_of_lost (by decide +kernel)⟩

/-- The output directory may not be opened, once it is there. -/
def guarded : Volume :=
  { single with refusals := { openings := ["gen"] } }

def guardedRequest : GenerationRequest :=
  { input := ".", output := "gen", pattern := "" }

theorem guarded_fails :
    (generate guarded guardedRequest).1.outcome.toOption.isSome = true ∧
      (generate (generate guarded guardedRequest).2 guardedRequest).1.outcome =
        .error (.discovery (.unscanned .refused)) :=
  ⟨by decide +kernel, generate_of_lost (by decide +kernel)⟩

end Repeating

end SqlMapper.Generation
