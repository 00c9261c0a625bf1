import SqlMapper.Proofs.Generation.InOrder

/-!
What a generation comes to does not depend on the order in which its workers take their turns, nor
on how many of them there may be: it succeeds when every document compiles and the namespaces are
distinct, the results are in the order of the paths, and the error is otherwise that of a document.
A generation that fails has written nothing.
-/

namespace SqlMapper.Generation

variable {v : Volume} {request : GenerationRequest} {jobs : Nat} {paths : List String} {call : Call}

section Spaces

theorem lookup_cons_eq_none_iff (name space document : String) (seen : List (String × String)) :
    List.lookup name ((space, document) :: seen) = none ↔ name ≠ space ∧ seen.lookup name = none := by
  by_cases same : name = space
  · simp [same]
  · have differs : (name == space) = false := beq_false_of_ne same
    simp only [List.lookup_cons, differs, ne_eq, same, not_false_eq_true, true_and]

theorem clashAmong_eq_none_iff (seen : List (String × String)) (outputs : List Code.Compiled) :
    clashAmong seen outputs = none ↔
      (outputs.map (·.space)).Nodup ∧ ∀ c ∈ outputs, seen.lookup c.space = none := by
  induction outputs generalizing seen with
  | nil => simp [clashAmong]
  | cons first rest ih =>
      cases taken : seen.lookup first.space with
      | some other =>
          constructor
          · intro free
            rw [clashAmong, taken] at free
            cases free
          · rintro ⟨_, clear⟩
            rw [clear first List.mem_cons_self] at taken
            cases taken
      | none =>
          -- The namespace of the first result joins those that are taken.
          simp only [clashAmong, taken, ih, lookup_cons_eq_none_iff, List.map_cons, List.nodup_cons,
            List.mem_map, List.forall_mem_cons, true_and]
          constructor
          · rintro ⟨distinct, apart⟩
            refine ⟨⟨?_, distinct⟩, fun c member => (apart c member).2⟩
            rintro ⟨c, member, same⟩
            exact (apart c member).1 same
          · rintro ⟨⟨fresh, distinct⟩, clear⟩
            refine ⟨distinct, fun c member => ⟨?_, clear c member⟩⟩
            intro same
            exact fresh ⟨c, member, same⟩

theorem checkSpaces_eq_ok_iff (outputs : List Code.Compiled) :
    checkSpaces outputs = .ok () ↔ (outputs.map (·.space)).Nodup := by
  unfold checkSpaces
  have free := clashAmong_eq_none_iff [] outputs
  cases clash : clashAmong [] outputs with
  | none => simpa [clash] using free
  | some error => simpa [clash] using free

end Spaces

theorem pairwise_of_discover (found : discover v request.input request.pattern = .ok paths) :
    paths.Pairwise (· ≤ ·) := by
  unfold discover at found
  split at found
  · cases found
  · split at found
    · cases found
    · split at found
      · cases found
      · split at found
        · cases found
        · cases found
          exact Text.pairwise_sorted _

/-- Documents compile to one list of results only. -/
theorem compiled_unique {outputs others : List Code.Compiled}
    (compiled : List.Forall₂ (Compiles v) paths outputs)
    (again : List.Forall₂ (Compiles v) paths others) : outputs = others := by
  induction compiled generalizing others with
  | nil =>
      cases again
      rfl
  | cons first _ ih =>
      cases again with
      | cons second rest =>
          have same : Except.ok _ = Except.ok _ := first.symm.trans second
          rw [Except.ok.inj same, ih rest]

theorem not_compiled_of_fails {path : String} {error : GenerationError} (member : path ∈ paths)
    (fails : Fails v path error) (outputs : List Code.Compiled) :
    ¬ List.Forall₂ (Compiles v) paths outputs := by
  intro compiled
  induction compiled with
  | nil => cases member
  | cons first _ ih =>
      rcases List.mem_cons.mp member with rfl | later
      · exact fails.not_compiles _ first
      · exact ih later

/-- What a call that has ended has come to, when the volume has refused nothing. -/
structure Settled (v : Volume) (request : GenerationRequest) (paths : List String) (call : Call)
    (outcome : Except GenerationError Generated) : Prop where
  /-- It succeeds exactly if every document compiles and no two share a namespace. -/
  succeeds_iff : (∃ result, outcome = .ok result) ↔
    ∃ outputs, List.Forall₂ (Compiles v) paths outputs ∧ (outputs.map (·.space)).Nodup
  /-- The results stand in the order of the paths, and are those of the generation in order, as are
  the files that are written. -/
  results : ∀ result, outcome = .ok result → List.Forall₂ (Compiles v) paths result.outputs ∧
    (generate v request).1.outcome = .ok result ∧ (generate v request).2 = call.volume
  /-- The error is that of a document when one fails; none fails because the group is canceled. -/
  failure : (∃ path ∈ paths, ∃ error, Fails v path error) →
    ∃ path ∈ paths, ∃ error, Fails v path error ∧ error ≠ .canceled ∧ outcome = .error error
  /-- Otherwise it is that of the first document whose namespace is taken. -/
  clash : ∀ outputs error, List.Forall₂ (Compiles v) paths outputs →
    checkSpaces outputs = .error error → outcome = .error error

theorem settled_of_done (found : discover v request.input request.pattern = .ok paths)
    (patient : request.canceled = false) {outputs : List Code.Compiled} {volume : Volume}
    (ready : Ready v request outputs)
    (written : v.writeInto request.output (generatedFiles request.output outputs)
      = (.ok (), volume)) (abandoned : Bool) :
    Settled v request paths
      ⟨volume, .ended (.ok ⟨outputs, (generatedFiles request.output outputs).map (·.1)⟩), false,
        abandoned⟩
      (.ok ⟨outputs, (generatedFiles request.output outputs).map (·.1)⟩) := by
  have passed := compileAll_of_ready patient ready
  obtain ⟨outcome, last⟩ := generate_of_compiled passed
  rw [written] at outcome last
  obtain ⟨others, again, compiled, distinct⟩ := ready
  rw [found] at again
  cases again
  -- The results are the only ones there can be, which leaves no room for an error or a clash.
  refine ⟨?_, ?_, ?_, ?_⟩
  · exact ⟨fun _ => ⟨outputs, compiled, (checkSpaces_eq_ok_iff outputs).mp distinct⟩,
      fun _ => ⟨_, rfl⟩⟩
  · intro result same
    cases same
    exact ⟨compiled, outcome, last⟩
  · rintro ⟨path, member, error, fails⟩
    exact absurd compiled (not_compiled_of_fails member fails outputs)
  · intro others error again clash
    rw [compiled_unique again compiled, distinct] at clash
    cases clash

theorem settled_of_rejected (found : discover v request.input request.pattern = .ok paths)
    {error : GenerationError} (reason : Rejected v request false error) (call : Call) :
    Settled v request paths call (.error error) := by
  cases reason with
  | undiscovered failed =>
      rw [found] at failed
      cases failed
  | abandoned given => cases given
  | document again member fails =>
      rw [found] at again
      cases again
      -- Where a document fails, no outputs are compiled, so there is nothing to clash either.
      have broken := not_compiled_of_fails member fails
      refine ⟨?_, ?_, ?_, ?_⟩
      · constructor
        · rintro ⟨result, same⟩
          cases same
        · rintro ⟨outputs, compiled, _⟩
          exact absurd compiled (broken outputs)
      · intro result same
        cases same
      · intro _
        exact ⟨_, member, error, fails, fails.ne_canceled, rfl⟩
      · intro outputs _ compiled
        exact absurd compiled (broken outputs)
  | @clash _ outputs _ again compiled clash =>
      rw [found] at again
      cases again
      refine ⟨?_, ?_, ?_, ?_⟩
      · constructor
        · rintro ⟨result, same⟩
          cases same
        · rintro ⟨others, again, distinct⟩
          rw [compiled_unique again compiled, ← checkSpaces_eq_ok_iff, clash] at distinct
          cases distinct
      · intro result same
        cases same
      · rintro ⟨path, member, error, fails⟩
        exact absurd compiled (not_compiled_of_fails member fails outputs)
      · intro others error again other
        rw [compiled_unique again compiled, clash] at other
        cases other
        rfl

theorem Call.Sound.settled (sound : call.Sound v request)
    (found : discover v request.input request.pattern = .ok paths)
    (patient : request.canceled = false) {outcome : Except GenerationError Generated}
    (ended : call.stage = .ended outcome) (granted : call.refused = false)
    (waiting : call.abandoned = false) : Settled v request paths call outcome := by
  cases sound with
  | starting => cases ended
  | compiling => cases ended
  | opening => cases ended
  | writing => cases ended
  | done ready written =>
      cases ended
      exact settled_of_done found patient ready written _
  | rejected reason =>
      cases ended
      cases waiting
      exact settled_of_rejected found reason _
  | refused => cases granted

/-- What can be said of a request for all runs together. -/
structure ScheduleIndependent (v : Volume) (request : GenerationRequest) (jobs : Nat)
    (paths : List String) : Prop where
  sorted : paths.Pairwise (· ≤ ·)
  width : ∀ n call g, Moves request jobs n (.begin v request) call → call.stage = .compiling g →
    g.running ≤ jobs
  /-- No run goes on for ever, and each can be brought to its end. -/
  ends : ∀ n call, Moves request jobs n (.begin v request) call → n ≤ 8 * paths.length + 6 ∧
    ∃ m last outcome, Moves request jobs m call last ∧ last.stage = .ended outcome
  settled : ∀ n call outcome, Moves request jobs n (.begin v request) call →
    call.stage = .ended outcome → call.refused = false → Settled v request paths call outcome
  /-- The generation in order is among the runs. -/
  inOrder : ∃ n call, Moves request jobs n (.begin v request) call ∧
    call.stage = .ended (generate v request).1.outcome ∧ call.volume = (generate v request).2

theorem schedule_independent (v : Volume) (request : GenerationRequest) (jobs : Nat)
    (paths : List String) (found : discover v request.input request.pattern = .ok paths)
    (patient : request.canceled = false) (room : 0 < jobs) :
    ScheduleIndependent v request jobs paths where
  sorted := pairwise_of_discover found
  width := fun _ _ _ run working => run.running_le working
  ends := by
    intro n call run
    have bound := run.weight_le found
    exact ⟨by omega, run.sound.ends found room⟩
  settled := by
    intro n call outcome run ended granted
    have waiting : call.abandoned = false := run.abandoned_eq.trans patient
    exact run.sound.settled found patient ended granted waiting
  inOrder := generate_run v request room

/-- Two documents next to each other. -/
def pair (first second : String) : Volume :=
  ((Volume.empty .memory).putFile "in/a-mapper.xml" (Text.encode first)).putFile "in/b-mapper.xml"
    (Text.encode second)

def pairRequest : GenerationRequest :=
  { input := "in", output := "out", pattern := "" }

/-- Two documents with namespaces of their own, and two workers. -/
def apart : Volume :=
  pair "<mapper namespace=\"a\"/>" "<mapper namespace=\"b\"/>"

theorem apart_schedule_independent :
    discover apart "in" "" = .ok ["in/a-mapper.xml", "in/b-mapper.xml"] ∧
      ScheduleIndependent apart pairRequest 2 ["in/a-mapper.xml", "in/b-mapper.xml"] := by
  have found : discover apart "in" "" = .ok ["in/a-mapper.xml", "in/b-mapper.xml"] := by
    decide +kernel
  exact ⟨found, schedule_independent apart pairRequest 2 _ found rfl (by decide)⟩

/-- Nothing is refused to a call whose documents are not even ready. -/
theorem Call.Sound.granted (sound : call.Sound v request) (patient : request.canceled = false)
    {error : GenerationError} (failed : (compileAll v request).outcome = .error error) :
    call.refused = false := by
  cases sound with
  | refused ready _ =>
      rw [compileAll_of_ready patient ready] at failed
      cases failed
  | _ => rfl

/-- A generation that fails, though the volume has refused nothing, leaves the volume as it was,
whatever the workers had come to and whenever the caller gave up. -/
theorem volume_eq_of_error (v : Volume) (request : GenerationRequest) (jobs : Nat) (call : Call)
    (error : GenerationError)
    (run : Relation.ReflTransGen (Event request jobs) (.begin v request) call)
    (ended : call.stage = .ended (.error error)) (granted : call.refused = false) :
    call.volume = v := by
  cases sound_of_events run with
  | starting => rfl
  | compiling => rfl
  | opening => rfl
  | writing => cases ended
  | done => cases ended
  | rejected => rfl
  | refused => cases granted

/-- A document that compiles and one that has no element. -/
def halfBroken : Volume :=
  pair "<mapper namespace=\"a\"/>" ""

theorem halfBroken_volume_eq :
    ∃ call error, Relation.ReflTransGen (Event pairRequest 2) (.begin halfBroken pairRequest) call ∧
      call.stage = .ended (.error error) ∧ call.refused = false ∧ call.volume = halfBroken := by
  have broken : (compileAll halfBroken pairRequest).outcome.toOption.isSome = false := by
    decide +kernel
  cases failed : (compileAll halfBroken pairRequest).outcome with
  | ok outputs =>
      rw [failed] at broken
      cases broken
  | error error =>
      obtain ⟨n, call, run, ended, _⟩ :=
        generate_run halfBroken pairRequest (show 0 < 2 by decide)
      rw [(generate_of_rejected failed).1] at ended
      have granted := run.sound.granted rfl failed
      exact ⟨call, error, run.events, ended, granted,
        volume_eq_of_error halfBroken pairRequest 2 call error run.events ended granted⟩

end SqlMapper.Generation
