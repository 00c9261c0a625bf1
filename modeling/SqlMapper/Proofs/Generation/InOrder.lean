import SqlMapper.Proofs.Generation.Calls

/-!
The generation that works through its documents one after the other is one of the runs that the
workers may take: each worker is launched when the one before it has finished. After an error the
remaining workers are launched as well, and turned away.
-/

namespace SqlMapper.Generation

variable {v : Volume} {request : GenerationRequest} {jobs : Nat} {g : Group} {path : String}

section Compiling

variable {ε α β : Type}

/-- A list of steps fails at the first that does. -/
theorem exists_of_mapList_eq_error (f : α → Logged ε β) (items : List α) (error : ε)
    (failed : (Logged.mapList f items).outcome = .error error) :
    ∃ before item after results, items = before ++ item :: after ∧
      List.Forall₂ (fun item result => (f item).outcome = .ok result) before results ∧
      (f item).outcome = .error error := by
  induction items with
  | nil => cases failed
  | cons first rest ih =>
      cases here : (f first).outcome with
      | error cause =>
          rw [Logged.mapList, Logged.bind, here] at failed
          cases failed
          exact ⟨[], first, rest, [], rfl, .nil, here⟩
      | ok result =>
          simp only [Logged.mapList, Logged.bind, here] at failed
          cases later : (Logged.mapList f rest).outcome with
          | ok results =>
              rw [later] at failed
              cases failed
          | error cause =>
              rw [later] at failed
              cases failed
              obtain ⟨before, item, after, results, rfl, done, broken⟩ := ih later
              exact ⟨first :: before, item, after, result :: results, rfl, .cons here done, broken⟩

theorem compiles_of_job {canceled : Bool} {c : Code.Compiled}
    (done : (documentJob v canceled path).outcome = .ok c) : Compiles v path c := by
  cases canceled with
  | true => cases done
  | false => exact done

/-- What is compiled for a request is ready to be written. -/
theorem ready_of_compileAll {outputs : List Code.Compiled}
    (success : (compileAll v request).outcome = .ok outputs) : Ready v request outputs := by
  simp only [compileAll, bind, Logged.bind_outcome_eq_ok_iff, Logged.ofExcept,
    Outcome.mapError_eq_ok_iff, Outcome.mapList_eq_ok_iff] at success
  obtain ⟨paths, found, _, _, results, compiled, _, checked, same⟩ := success
  cases same
  exact ⟨paths, found, compiled.imp fun _ _ => compiles_of_job, checked⟩

theorem compileAll_of_ready (patient : request.canceled = false) {outputs : List Code.Compiled}
    (ready : Ready v request outputs) : (compileAll v request).outcome = .ok outputs := by
  obtain ⟨paths, found, compiled, checked⟩ := ready
  simp only [compileAll, bind, Logged.bind_outcome_eq_ok_iff, Logged.ofExcept,
    Outcome.mapError_eq_ok_iff, Outcome.mapList_eq_ok_iff, documentJob, patient]
  exact ⟨paths, found, (), rfl, outputs, compiled, (), checked, rfl⟩

end Compiling

section Alone

open Relation (ReflTransGen)

def Group.joinedBy (g : Group) (worker : Worker) : Group :=
  { g with workers := g.workers ++ [worker] }

theorem Group.joinedBy_here (g : Group) (worker : Worker) :
    (g.joinedBy worker).workers[g.workers.length]? = some worker := by
  simp [Group.joinedBy]

theorem Group.advance_joinedBy (g : Group) (worker next : Worker) :
    (g.joinedBy worker).advance g.workers.length next = g.joinedBy next := by
  simp [Group.joinedBy, Group.advance]

/-- The worker that was launched last takes a turn by itself. -/
theorem step_joinedBy {worker next : Worker} (document : g.paths[g.workers.length]? = some path)
    (moves : worker.next? v g.canceled path = some next) :
    Step v jobs (g.joinedBy worker) (g.joinedBy next) := by
  rw [← g.advance_joinedBy worker next]
  exact .turn (g.joinedBy_here worker) document moves

def Group.Idle (g : Group) : Prop :=
  ∀ worker ∈ g.workers, worker = .finished

theorem Group.Idle.joinedBy (idle : g.Idle) : (g.joinedBy .finished).Idle := by
  intro worker member
  rcases List.mem_append.mp member with before | last
  · exact idle worker before
  · exact List.mem_singleton.mp last

theorem Group.Idle.launch (idle : g.Idle) (room : 0 < jobs)
    (document : g.paths[g.workers.length]? = some path) :
    Step v jobs g (g.joinedBy .started) := by
  refine .launch ?_ (List.getElem?_eq_some_iff.mp document).1
  rw [Group.running_eq_zero idle]
  exact room

/-- A worker that is alone and has a result puts it into its slot. -/
theorem steps_of_job_ok {c : Code.Compiled} (idle : g.Idle) (room : 0 < jobs)
    (document : g.paths[g.workers.length]? = some path)
    (done : (documentJob v g.canceled path).outcome = .ok c) :
    ReflTransGen (Step v jobs) g
      { g.joinedBy .finished with outputs := g.outputs.set g.workers.length (some c) } := by
  cases canceled : g.canceled with
  | true =>
      rw [documentJob, canceled] at done
      cases done
  | false =>
      rw [documentJob, canceled] at done
      obtain ⟨m, loaded, compiled⟩ := compiles_iff.mp done
      have admitted : Step v jobs (g.joinedBy .started) (g.joinedBy .admitted) :=
        step_joinedBy document (by simp [Worker.next?, canceled])
      have read : Step v jobs (g.joinedBy .admitted) (g.joinedBy (.loaded m)) :=
        step_joinedBy document (by simp [Worker.next?, loaded])
      have built : Step v jobs (g.joinedBy (.loaded m)) (g.joinedBy (.compiled c)) :=
        step_joinedBy document (by simp [Worker.next?, compiled])
      have stored : Step v jobs (g.joinedBy (.compiled c)) { g.joinedBy .finished with
          outputs := g.outputs.set g.workers.length (some c) } := by
        rw [← g.advance_joinedBy (.compiled c) .finished]
        exact .store (g.joinedBy_here _)
      exact ((((ReflTransGen.single (idle.launch room document)).tail admitted).tail read).tail
        built).tail stored

/-- A worker that is alone and has no result comes to its error. -/
theorem steps_of_job_error {error : GenerationError} (idle : g.Idle) (room : 0 < jobs)
    (document : g.paths[g.workers.length]? = some path)
    (failed : (documentJob v g.canceled path).outcome = .error error) :
    ReflTransGen (Step v jobs) g (g.joinedBy (.failing error)) := by
  have launched : Step v jobs g (g.joinedBy .started) := idle.launch room document
  cases canceled : g.canceled with
  | true =>
      rw [documentJob, canceled] at failed
      cases failed
      exact (ReflTransGen.single launched).tail
        (step_joinedBy document (by simp [Worker.next?, canceled]))
  | false =>
      rw [documentJob, canceled] at failed
      have admitted : Step v jobs (g.joinedBy .started) (g.joinedBy .admitted) :=
        step_joinedBy document (by simp [Worker.next?, canceled])
      have before := (ReflTransGen.single launched).tail admitted
      cases fails_iff.mpr failed with
      | loading unread =>
          exact before.tail (step_joinedBy document (by simp [Worker.next?, unread]))
      | @compiling m cause loaded broken =>
          have read : Step v jobs (g.joinedBy .admitted) (g.joinedBy (.loaded m)) :=
            step_joinedBy document (by simp [Worker.next?, loaded])
          exact (before.tail read).tail (step_joinedBy document (by simp [Worker.next?, broken]))

/-- The first error is kept and cancels the group. -/
theorem steps_of_first_error (error : GenerationError) (first : g.kept = none) :
    ReflTransGen (Step v jobs) (g.joinedBy (.failing error))
      (Group.joinedBy { g with kept := some error, canceled := true } .finished) := by
  have keeps : Step v jobs (g.joinedBy (.failing error))
      (Group.joinedBy { g with kept := some error } .canceling) := by
    have step : Step v jobs (g.joinedBy (.failing error)) _ :=
      .keep (g.joinedBy_here _) first
    rwa [g.advance_joinedBy] at step
  have cancels : Step v jobs (Group.joinedBy { g with kept := some error } .canceling)
      (Group.joinedBy { g with kept := some error, canceled := true } .finished) := by
    have step : Step v jobs (Group.joinedBy { g with kept := some error } .canceling) _ :=
      .cancel (Group.joinedBy_here _ _)
    rwa [Group.advance_joinedBy] at step
  exact (ReflTransGen.single keeps).tail cancels

/-- After an error the remaining workers are launched and turned away. -/
theorem steps_after_error (idle : g.Idle) (room : 0 < jobs) (canceled : g.canceled = true)
    (kept : g.kept.isSome = true) (launched : g.workers.length ≤ g.paths.length) :
    ∃ last : Group, ReflTransGen (Step v jobs) g last ∧ last.Joined ∧ last.kept = g.kept := by
  -- The induction is on the documents without a worker. Each worker is refused and drops its error,
  -- since one is kept already, and leaves a group of the same kind.
  induction left : g.paths.length - g.workers.length generalizing g with
  | zero => exact ⟨g, .refl, ⟨by omega, idle⟩, rfl⟩
  | succ count ih =>
      have inside : g.workers.length < g.paths.length := by omega
      have document := List.getElem?_eq_getElem inside
      have turned : ReflTransGen (Step v jobs) g (g.joinedBy (.failing .canceled)) :=
        steps_of_job_error idle room document (by rw [documentJob, canceled]; rfl)
      have dropped : Step v jobs (g.joinedBy (.failing .canceled)) (g.joinedBy .finished) := by
        rw [← g.advance_joinedBy (.failing .canceled) .finished]
        exact .drop (g.joinedBy_here _) kept
      have grown : (g.joinedBy .finished).workers.length = g.workers.length + 1 := by
        simp [Group.joinedBy]
      obtain ⟨last, rest, joined, same⟩ := ih (g := g.joinedBy .finished) idle.joinedBy canceled kept
        (by rw [grown]; exact inside) (by rw [grown]; show g.paths.length - _ = _; omega)
      exact ⟨last, (turned.tail dropped).trans rest, joined, same⟩

/-- The group after the first documents have been compiled one after the other. -/
def Group.resting (paths : List String) (canceled : Bool) (outputs : List Code.Compiled) : Group :=
  { paths
    workers := List.replicate outputs.length .finished
    outputs := outputs.map some ++ List.replicate (paths.length - outputs.length) none
    kept := none
    canceled }

theorem Group.idle_resting (paths : List String) (canceled : Bool) (outputs : List Code.Compiled) :
    (Group.resting paths canceled outputs).Idle := by
  intro worker member
  exact List.eq_of_mem_replicate member

theorem Group.resting_concat {paths : List String} {outputs : List Code.Compiled}
    (inside : outputs.length < paths.length) (canceled : Bool) (c : Code.Compiled) :
    { (Group.resting paths canceled outputs).joinedBy .finished with
      outputs := (Group.resting paths canceled outputs).outputs.set
        (Group.resting paths canceled outputs).workers.length (some c) }
      = Group.resting paths canceled (outputs ++ [c]) := by
  have room : paths.length - outputs.length = paths.length - (outputs.length + 1) + 1 := by omega
  simp [Group.resting, Group.joinedBy, room, List.replicate_succ, ← List.replicate_succ']

/-- One document after the other is compiled; `before` are the results that are there already. -/
theorem steps_resting {paths earlier items later : List String} {canceled : Bool}
    {before results : List Code.Compiled} (room : 0 < jobs)
    (split : paths = earlier ++ items ++ later) (count : earlier.length = before.length)
    (done : List.Forall₂ (fun path c => (documentJob v canceled path).outcome = .ok c)
      items results) :
    ReflTransGen (Step v jobs) (.resting paths canceled before)
      (.resting paths canceled (before ++ results)) := by
  -- The worker on the first document leaves a resting group with one more result, so the documents
  -- before and their results grow together.
  induction done generalizing earlier before with
  | nil => rw [List.append_nil before]
  | @cons path c items results first _ ih =>
      have inside : before.length < paths.length := by simp [split, ← count]
      have document : (Group.resting paths canceled before).paths[
          (Group.resting paths canceled before).workers.length]? = some path := by
        simp [Group.resting, split, ← count]
      have one := steps_of_job_ok (Group.idle_resting paths canceled before) room document first
      rw [Group.resting_concat inside] at one
      have next : paths = (earlier ++ [path]) ++ items ++ later := by rw [split]; simp
      have grown : (earlier ++ [path]).length = (before ++ [c]).length := by simp [count]
      have others := ih next grown
      rw [List.append_assoc before] at others
      exact one.trans others

/-- All documents are compiled, and every slot is filled. -/
theorem steps_of_mapList_ok {paths : List String} {canceled : Bool} {results : List Code.Compiled}
    (room : 0 < jobs)
    (done : (Logged.mapList (documentJob v canceled) paths).outcome = .ok results) :
    ∃ last : Group, ReflTransGen (Step v jobs) (.start paths canceled) last ∧ last.Joined ∧
      last.kept = none ∧ last.outputs = results.map some := by
  rw [Outcome.mapList_eq_ok_iff] at done
  have count := done.length_eq
  have split : paths = [] ++ paths ++ [] := by simp
  have steps : ReflTransGen (Step v jobs) (.resting paths canceled [])
      (.resting paths canceled ([] ++ results)) := steps_resting room split rfl done
  refine ⟨_, steps, ⟨?_, Group.idle_resting _ _ _⟩, rfl, ?_⟩
  · simp [Group.resting, count]
  · simp [Group.resting, count]

/-- The documents before the first that fails are compiled, and those after it are turned away. -/
theorem steps_of_mapList_error {paths : List String} {canceled : Bool} {error : GenerationError}
    (room : 0 < jobs)
    (failed : (Logged.mapList (documentJob v canceled) paths).outcome = .error error) :
    ∃ last : Group, ReflTransGen (Step v jobs) (.start paths canceled) last ∧ last.Joined ∧
      last.kept = some error := by
  obtain ⟨before, path, after, results, split, done, broken⟩ :=
    exists_of_mapList_eq_error _ _ _ failed
  have count := done.length_eq
  have cut : paths = [] ++ before ++ path :: after := by simpa using split
  have compiled : ReflTransGen (Step v jobs) (.resting paths canceled [])
      (.resting paths canceled ([] ++ results)) := steps_resting room cut rfl done
  rw [List.nil_append] at compiled
  have idle := Group.idle_resting paths canceled results
  have document : (Group.resting paths canceled results).paths[
      (Group.resting paths canceled results).workers.length]? = some path := by
    simp [Group.resting, split, ← count]
  have fails := steps_of_job_error idle room document broken
  have keeps : ReflTransGen (Step v jobs) _ _ :=
    steps_of_first_error (g := .resting paths canceled results) error rfl
  obtain ⟨last, rest, joined, same⟩ := steps_after_error (v := v)
    (g := .joinedBy { Group.resting paths canceled results with
      kept := some error, canceled := true } .finished)
    (Group.Idle.joinedBy idle) room rfl rfl (by simp [Group.joinedBy, Group.resting, split, ← count])
  exact ⟨last, ((compiled.trans fails).trans keeps).trans rest, joined, same⟩

end Alone

section Whole

theorem moves_of_steps {last : Group} (refused abandoned : Bool)
    (steps : Relation.ReflTransGen (Step v jobs) g last) :
    ∃ n, Moves request jobs n ⟨v, .compiling g, refused, abandoned⟩
      ⟨v, .compiling last, refused, abandoned⟩ := by
  induction steps with
  | refl => exact ⟨0, .none _⟩
  | tail _ step ih =>
      obtain ⟨n, moves⟩ := ih
      exact ⟨n + 1, .more moves (.work step)⟩

/-- The files that are pending are written as far as the volume lets it happen. -/
theorem moves_writing (volume : Volume) (outputs : List Code.Compiled)
    (pending : List (String × String)) (abandoned : Bool) :
    ∃ n refused, Moves request jobs n ⟨volume, .writing outputs pending, false, abandoned⟩
      ⟨(volume.writeEach pending).2, .ended ((volume.writeEach pending).1.map fun _ =>
        ⟨outputs, (generatedFiles request.output outputs).map (·.1)⟩), refused, abandoned⟩ := by
  induction pending generalizing volume with
  | nil => exact ⟨1, false, .more (.none _) .finished⟩
  | cons file pending ih =>
      cases wrote : volume.write file.1 (Text.encode file.2) with
      | error cause =>
          refine ⟨1, true, .more (.none _) ?_⟩
          simp only [Volume.writeEach, wrote]
          exact .unwritten wrote
      | ok next =>
          obtain ⟨n, refused, rest⟩ := ih next
          have first : Moves request jobs 1
              ⟨volume, .writing outputs (file :: pending), false, abandoned⟩
              ⟨next, .writing outputs pending, false, abandoned⟩ := .more (.none _) (.written wrote)
          refine ⟨1 + n, refused, first.append ?_⟩
          simp only [Volume.writeEach, wrote]
          exact rest

/-- The directory is made and the files are written as far as the volume lets it happen. -/
theorem moves_opening (outputs : List Code.Compiled) (abandoned : Bool) :
    ∃ n refused, Moves request jobs n ⟨v, .opening outputs, false, abandoned⟩
      ⟨(v.writeInto request.output (generatedFiles request.output outputs)).2,
        .ended ((v.writeInto request.output (generatedFiles request.output outputs)).1.map fun _ =>
          ⟨outputs, (generatedFiles request.output outputs).map (·.1)⟩), refused, abandoned⟩ := by
  cases made : v.makeDirectory request.output with
  | error cause =>
      refine ⟨1, true, .more (.none _) ?_⟩
      simp only [Volume.writeInto, made]
      exact .unopened made
  | ok next =>
      obtain ⟨n, refused, written⟩ := moves_writing next outputs
        (generatedFiles request.output outputs) abandoned
      have opened : Moves request jobs 1 ⟨v, .opening outputs, false, abandoned⟩
          ⟨next, .writing outputs (generatedFiles request.output outputs), false, abandoned⟩ :=
        .more (.none _) (.opened made)
      refine ⟨1 + n, refused, opened.append ?_⟩
      simp only [Volume.writeInto, made]
      exact written

theorem compileAll_of_found {paths : List String}
    (found : discover v request.input request.pattern = .ok paths) :
    (compileAll v request).outcome =
      (Logged.mapList (documentJob v request.canceled) paths).outcome.bind fun outputs =>
        (checkSpaces outputs).map fun _ => outputs := by
  simp only [compileAll, bind, Logged.bind, Logged.ofExcept, found, Except.mapError, Logged.write]
  cases (Logged.mapList (documentJob v request.canceled) paths).outcome with
  | error cause => rfl
  | ok outputs =>
      simp only [Except.bind]
      cases checkSpaces outputs <;> rfl

theorem generate_of_rejected {error : GenerationError}
    (failed : (compileAll v request).outcome = .error error) :
    (generate v request).1.outcome = .error error ∧ (generate v request).2 = v := by
  simp only [generate, failed, and_self]

/-- A generation comes to what the writing comes to when its documents are compiled. -/
theorem generate_of_compiled {outputs : List Code.Compiled}
    (passed : (compileAll v request).outcome = .ok outputs) :
    (generate v request).1.outcome =
        ((v.writeInto request.output (generatedFiles request.output outputs)).1.map fun _ =>
          ⟨outputs, (generatedFiles request.output outputs).map (·.1)⟩) ∧
      (generate v request).2
        = (v.writeInto request.output (generatedFiles request.output outputs)).2 := by
  simp only [generate, passed]
  cases v.writeInto request.output (generatedFiles request.output outputs) with
  | mk done volume => cases done <;> exact ⟨rfl, rfl⟩

/-- The generation in order is one of the runs. -/
theorem generate_run (v : Volume) (request : GenerationRequest) (room : 0 < jobs) :
    ∃ n call, Moves request jobs n (.begin v request) call ∧
      call.stage = .ended (generate v request).1.outcome ∧
      call.volume = (generate v request).2 := by
  cases found : discover v request.input request.pattern with
  | error cause =>
      have failed : (compileAll v request).outcome = .error (.discovery cause) := by
        simp only [compileAll, bind, Logged.bind, Logged.ofExcept, found, Except.mapError]
      obtain ⟨outcome, volume⟩ := generate_of_rejected failed
      rw [outcome, volume]
      exact ⟨1, _, .more (.none _) (.undiscovered found), rfl, rfl⟩
  | ok paths =>
      have compiles := compileAll_of_found found
      have begun : Moves request jobs 1 (.begin v request)
          ⟨v, .compiling (.start paths request.canceled), false, request.canceled⟩ :=
        .more (.none _) (.discovered found)
      -- The workers take their turns in the order of the paths, and the first failure is kept.
      cases worked : (Logged.mapList (documentJob v request.canceled) paths).outcome with
      | error error =>
          obtain ⟨last, steps, joined, kept⟩ := steps_of_mapList_error room worked
          obtain ⟨n, moves⟩ := moves_of_steps false request.canceled steps
          rw [worked] at compiles
          obtain ⟨outcome, volume⟩ := generate_of_rejected compiles
          rw [outcome, volume]
          exact ⟨_, _, .more (begun.append moves) (.failed joined kept), rfl, rfl⟩
      | ok outputs =>
          obtain ⟨last, steps, joined, clear, filled⟩ := steps_of_mapList_ok room worked
          obtain ⟨n, moves⟩ := moves_of_steps false request.canceled steps
          simp only [worked, Except.bind] at compiles
          cases checked : checkSpaces outputs with
          | error error =>
              rw [checked] at compiles
              obtain ⟨outcome, volume⟩ := generate_of_rejected compiles
              rw [outcome, volume]
              exact ⟨_, _, .more (begun.append moves) (.clashing joined clear filled checked),
                rfl, rfl⟩
          | ok _ =>
              rw [checked] at compiles
              obtain ⟨outcome, volume⟩ := generate_of_compiled compiles
              obtain ⟨m, refused, written⟩ := moves_opening outputs request.canceled
              rw [outcome, volume]
              exact ⟨_, _, (Moves.more (begun.append moves)
                (.checked joined clear filled checked)).append written, rfl, rfl⟩

end Whole

end SqlMapper.Generation
