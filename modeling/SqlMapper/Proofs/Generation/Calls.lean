import Mathlib.Logic.Relation
import SqlMapper.Proofs.Generation.Workers

/-!
A call of the generator from its beginning to its end: discovery, the group of workers, the check of
the namespaces, and the writing of one file after the other. The order in which workers are launched
and take their turns is left open, and the caller may give up at any time.

What is known of a call at each stage is one predicate, `Call.Sound`, which every move preserves. The
volume is the same as in the beginning up to the first thing that is written, and nothing is written
before the last check has passed.
-/

namespace SqlMapper.Generation

inductive Stage where
  | starting
  | compiling (g : Group)
  | opening (outputs : List Code.Compiled)
  | writing (outputs : List Code.Compiled) (pending : List (String × String))
  | ended (outcome : Except GenerationError Generated)

structure Call where
  volume : Volume
  stage : Stage
  /-- Whether the volume has refused to make a directory or to write a file. -/
  refused : Bool
  abandoned : Bool

def Call.begin (v : Volume) (request : GenerationRequest) : Call :=
  ⟨v, .starting, false, request.canceled⟩

inductive Move (request : GenerationRequest) (jobs : Nat) : Call → Call → Prop where
  | discovered {v refused abandoned} {paths : List String}
      (found : discover v request.input request.pattern = .ok paths) :
      Move request jobs ⟨v, .starting, refused, abandoned⟩
        ⟨v, .compiling (.start paths abandoned), refused, abandoned⟩
  | undiscovered {v refused abandoned} {cause : DiscoveryError}
      (failed : discover v request.input request.pattern = .error cause) :
      Move request jobs ⟨v, .starting, refused, abandoned⟩
        ⟨v, .ended (.error (.discovery cause)), refused, abandoned⟩
  | work {v refused abandoned} {g next : Group} (step : Step v jobs g next) :
      Move request jobs ⟨v, .compiling g, refused, abandoned⟩
        ⟨v, .compiling next, refused, abandoned⟩
  | failed {v refused abandoned} {g : Group} {error : GenerationError} (joined : g.Joined)
      (kept : g.kept = some error) :
      Move request jobs ⟨v, .compiling g, refused, abandoned⟩
        ⟨v, .ended (.error error), refused, abandoned⟩
  | clashing {v refused abandoned} {g : Group} {outputs : List Code.Compiled}
      {error : GenerationError} (joined : g.Joined) (clear : g.kept = none)
      (filled : g.outputs = outputs.map some) (clash : checkSpaces outputs = .error error) :
      Move request jobs ⟨v, .compiling g, refused, abandoned⟩
        ⟨v, .ended (.error error), refused, abandoned⟩
  | checked {v refused abandoned} {g : Group} {outputs : List Code.Compiled} (joined : g.Joined)
      (clear : g.kept = none) (filled : g.outputs = outputs.map some)
      (distinct : checkSpaces outputs = .ok ()) :
      Move request jobs ⟨v, .compiling g, refused, abandoned⟩
        ⟨v, .opening outputs, refused, abandoned⟩
  | unopened {v refused abandoned} {outputs : List Code.Compiled} {cause : FileError}
      (refusal : v.makeDirectory request.output = .error cause) :
      Move request jobs ⟨v, .opening outputs, refused, abandoned⟩
        ⟨v, .ended (.error (.directory cause)), true, abandoned⟩
  | opened {v next refused abandoned} {outputs : List Code.Compiled}
      (made : v.makeDirectory request.output = .ok next) :
      Move request jobs ⟨v, .opening outputs, refused, abandoned⟩
        ⟨next, .writing outputs (generatedFiles request.output outputs), refused, abandoned⟩
  | unwritten {v refused abandoned} {outputs : List Code.Compiled} {path text : String}
      {pending : List (String × String)} {cause : FileError}
      (refusal : v.write path (Text.encode text) = .error cause) :
      Move request jobs ⟨v, .writing outputs ((path, text) :: pending), refused, abandoned⟩
        ⟨v, .ended (.error (.file path cause)), true, abandoned⟩
  | written {v next refused abandoned} {outputs : List Code.Compiled} {path text : String}
      {pending : List (String × String)} (done : v.write path (Text.encode text) = .ok next) :
      Move request jobs ⟨v, .writing outputs ((path, text) :: pending), refused, abandoned⟩
        ⟨next, .writing outputs pending, refused, abandoned⟩
  | finished {v refused abandoned} {outputs : List Code.Compiled} :
      Move request jobs ⟨v, .writing outputs [], refused, abandoned⟩
        ⟨v, .ended (.ok ⟨outputs, (generatedFiles request.output outputs).map (·.1)⟩), refused,
          abandoned⟩

/-- The call after its caller has given up, which only the workers take notice of. -/
def Call.abandon (call : Call) : Call :=
  { call with
    abandoned := true
    stage := match call.stage with
      | .compiling g => .compiling { g with canceled := true }
      | other => other }

inductive Event (request : GenerationRequest) (jobs : Nat) : Call → Call → Prop where
  | move {call next : Call} (move : Move request jobs call next) : Event request jobs call next
  | abandon (call : Call) : Event request jobs call call.abandon

inductive Moves (request : GenerationRequest) (jobs : Nat) : Nat → Call → Call → Prop where
  | none (call : Call) : Moves request jobs 0 call call
  | more {n : Nat} {first call next : Call} (before : Moves request jobs n first call)
      (move : Move request jobs call next) : Moves request jobs (n + 1) first next

variable {v : Volume} {request : GenerationRequest} {jobs : Nat} {call next : Call}

/-- The results are those of the documents in the order of their paths, and may be written. -/
def Ready (v : Volume) (request : GenerationRequest) (outputs : List Code.Compiled) : Prop :=
  ∃ paths, discover v request.input request.pattern = .ok paths ∧
    List.Forall₂ (Compiles v) paths outputs ∧ checkSpaces outputs = .ok ()

inductive Rejected (v : Volume) (request : GenerationRequest) (abandoned : Bool) :
    GenerationError → Prop where
  | undiscovered {cause : DiscoveryError}
      (failed : discover v request.input request.pattern = .error cause) :
      Rejected v request abandoned (.discovery cause)
  | document {paths : List String} {path : String} {error : GenerationError}
      (found : discover v request.input request.pattern = .ok paths) (member : path ∈ paths)
      (fails : Fails v path error) : Rejected v request abandoned error
  | clash {paths : List String} {outputs : List Code.Compiled} {error : GenerationError}
      (found : discover v request.input request.pattern = .ok paths)
      (compiled : List.Forall₂ (Compiles v) paths outputs)
      (clash : checkSpaces outputs = .error error) : Rejected v request abandoned error
  | abandoned (given : abandoned = true) : Rejected v request abandoned .canceled

/-- What is known of a call that began with the volume `v`. -/
inductive Call.Sound (v : Volume) (request : GenerationRequest) : Call → Prop where
  | starting {abandoned} : Call.Sound v request ⟨v, .starting, false, abandoned⟩
  | compiling {abandoned} {g : Group}
      (found : discover v request.input request.pattern = .ok g.paths)
      (sound : Generation.Sound v abandoned g) :
      Call.Sound v request ⟨v, .compiling g, false, abandoned⟩
  | opening {abandoned outputs} (ready : Ready v request outputs) :
      Call.Sound v request ⟨v, .opening outputs, false, abandoned⟩
  | writing {abandoned volume outputs pending} (ready : Ready v request outputs)
      (rest : v.writeInto request.output (generatedFiles request.output outputs)
        = volume.writeEach pending) :
      Call.Sound v request ⟨volume, .writing outputs pending, false, abandoned⟩
  | done {abandoned volume outputs} (ready : Ready v request outputs)
      (written : v.writeInto request.output (generatedFiles request.output outputs)
        = (.ok (), volume)) :
      Call.Sound v request ⟨volume,
        .ended (.ok ⟨outputs, (generatedFiles request.output outputs).map (·.1)⟩), false, abandoned⟩
  | rejected {abandoned error} (reason : Rejected v request abandoned error) :
      Call.Sound v request ⟨v, .ended (.error error), false, abandoned⟩
  | refused {abandoned volume outputs error} (ready : Ready v request outputs)
      (unwritten : v.writeInto request.output (generatedFiles request.output outputs)
        = (.error error, volume)) :
      Call.Sound v request ⟨volume, .ended (.error error), true, abandoned⟩

section Runs

theorem sound_begin (v : Volume) (request : GenerationRequest) :
    (Call.begin v request).Sound v request :=
  .starting

theorem Move.sound (move : Move request jobs call next) (sound : call.Sound v request) :
    next.Sound v request := by
  cases move with
  | discovered found =>
      cases sound
      exact .compiling found (sound_start _ v _)
  | undiscovered failed =>
      cases sound
      exact .rejected (.undiscovered failed)
  | work step =>
      obtain _ | ⟨found, sound⟩ := sound
      refine .compiling ?_ (step.sound sound)
      rw [step.paths_eq]
      exact found
  | failed joined kept =>
      obtain _ | ⟨found, sound⟩ := sound
      rcases sound.kept kept with ⟨rfl, given⟩ | ⟨path, member, fails⟩
      · exact .rejected (.abandoned given)
      · exact .rejected (.document found member fails)
  -- The slots of a group that has joined hold the results that are checked.
  | clashing joined clear filled clash =>
      obtain _ | ⟨found, sound⟩ := sound
      obtain ⟨outputs, same, compiled⟩ := sound.outputs_of_joined joined clear
      rw [filled, List.map_inj_right fun _ _ => Option.some.inj] at same
      subst same
      exact .rejected (.clash found compiled clash)
  | checked joined clear filled distinct =>
      obtain _ | ⟨found, sound⟩ := sound
      obtain ⟨outputs, same, compiled⟩ := sound.outputs_of_joined joined clear
      rw [filled, List.map_inj_right fun _ _ => Option.some.inj] at same
      subst same
      exact .opening ⟨_, found, compiled, distinct⟩
  | unopened refusal =>
      obtain _ | _ | ready := sound
      refine .refused ready ?_
      simp only [Volume.writeInto, refusal]
  | opened made =>
      obtain _ | _ | ready := sound
      refine .writing ready ?_
      simp only [Volume.writeInto, made]
  | unwritten refusal =>
      obtain _ | _ | _ | ⟨ready, rest⟩ := sound
      refine .refused ready ?_
      rw [rest]
      simp only [Volume.writeEach, refusal]
  | written done =>
      obtain _ | _ | _ | ⟨ready, rest⟩ := sound
      refine .writing ready ?_
      rw [rest]
      simp only [Volume.writeEach, done]
  | finished =>
      obtain _ | _ | _ | ⟨ready, rest⟩ := sound
      exact .done ready rest

theorem Rejected.abandon {abandoned : Bool} {error : GenerationError}
    (reason : Rejected v request abandoned error) : Rejected v request true error := by
  cases reason with
  | undiscovered failed => exact .undiscovered failed
  | document found member fails => exact .document found member fails
  | clash found compiled clash => exact .clash found compiled clash
  | abandoned given => exact .abandoned rfl

theorem Call.Sound.abandon (sound : call.Sound v request) : call.abandon.Sound v request := by
  cases sound with
  | starting => exact .starting
  | compiling found sound => exact .compiling found sound.abandon
  | opening ready => exact .opening ready
  | writing ready rest => exact .writing ready rest
  | done ready written => exact .done ready written
  | rejected reason => exact .rejected reason.abandon
  | refused ready unwritten => exact .refused ready unwritten

/-- What a call has come to, whatever has happened to it, is sound. -/
theorem sound_of_events (run : Relation.ReflTransGen (Event request jobs) (.begin v request) call) :
    call.Sound v request := by
  induction run with
  | refl => exact sound_begin v request
  | tail _ event ih =>
      cases event with
      | move move => exact move.sound ih
      | abandon => exact ih.abandon

theorem Moves.events {n : Nat} {first : Call} (run : Moves request jobs n first call) :
    Relation.ReflTransGen (Event request jobs) first call := by
  induction run with
  | none call => exact .refl
  | more _ move ih => exact ih.tail (.move move)

theorem Moves.sound {n : Nat} (run : Moves request jobs n (.begin v request) call) :
    call.Sound v request :=
  sound_of_events run.events

/-- The moves of a call leave it to the caller to give up. -/
theorem Moves.abandoned_eq {n : Nat} {first : Call} (run : Moves request jobs n first call) :
    call.abandoned = first.abandoned := by
  induction run with
  | none call => rfl
  | more _ move ih =>
      rw [← ih]
      cases move <;> rfl

theorem Moves.running_le {n : Nat} (run : Moves request jobs n (.begin v request) call) {g : Group}
    (working : call.stage = .compiling g) : g.running ≤ jobs := by
  generalize origin : Call.begin v request = first at run
  induction run generalizing g with
  | none =>
      subst origin
      cases working
  | more _ move ih =>
      cases move with
      | discovered =>
          cases working
          exact Nat.zero_le _
      | work step =>
          cases working
          exact step.running_le (ih rfl origin)
      | _ => cases working

theorem Moves.append {m n : Nat} {first : Call} (before : Moves request jobs m first call)
    (after : Moves request jobs n call next) : Moves request jobs (m + n) first next := by
  induction after with
  | none => exact before
  | more _ move ih => exact .more (ih before) move

end Runs

section Termination

/-- An upper bound for the moves that a call has left, when `count` documents are to be found. -/
def Call.weight (count : Nat) (call : Call) : Nat :=
  match call.stage with
  | .starting => 8 * count + 6
  | .compiling g => g.weight + 2 * g.paths.length + 5
  | .opening outputs => 2 * outputs.length + 4
  | .writing _ pending => pending.length + 1
  | .ended _ => 0

theorem length_generatedFiles (output : String) (outputs : List Code.Compiled) :
    (generatedFiles output outputs).length = 2 * outputs.length + 2 := by
  have pairs : (outputs.flatMap outputFiles).length = 2 * outputs.length := by
    induction outputs with
    | nil => rfl
    | cons first rest ih =>
        simp only [List.flatMap_cons, List.length_append, ih, outputFiles, List.length_cons,
          List.length_nil]
        omega
  rw [generatedFiles, List.length_map, List.length_append, pairs]
  rfl

theorem Move.weight_lt {paths : List String}
    (found : discover v request.input request.pattern = .ok paths)
    (move : Move request jobs call next) (sound : call.Sound v request) :
    next.weight paths.length < call.weight paths.length := by
  cases move with
  | discovered other =>
      cases sound
      rw [found] at other
      cases other
      simp only [Call.weight, Group.weight, Group.start, Number.totalBy, List.length_nil]
      omega
  | undiscovered failed => simp [Call.weight]
  | work step =>
      have less := step.weight_lt
      simp only [Call.weight, step.paths_eq]
      omega
  | failed joined kept => simp [Call.weight]
  | clashing joined clear filled clash => simp [Call.weight]
  | checked joined clear filled distinct =>
      obtain _ | ⟨_, sound⟩ := sound
      have count := sound.slots
      rw [filled, List.length_map] at count
      simp only [Call.weight, count]
      omega
  | unopened refusal => simp [Call.weight]
  | opened made =>
      simp only [Call.weight, length_generatedFiles]
      omega
  | unwritten refusal => simp [Call.weight]
  | written done => simp [Call.weight]
  | finished => simp [Call.weight]

theorem Moves.weight_le {paths : List String} {n : Nat}
    (found : discover v request.input request.pattern = .ok paths)
    (run : Moves request jobs n (.begin v request) call) :
    n + call.weight paths.length ≤ 8 * paths.length + 6 := by
  generalize origin : Call.begin v request = first at run
  induction run with
  | none => subst origin; simp [Call.weight, Call.begin]
  | more before move ih =>
      subst origin
      have less := move.weight_lt found before.sound
      have bound := ih rfl
      omega

/-- A call that has not ended can go on. -/
theorem Call.Sound.ended_or_move (sound : call.Sound v request) (room : 0 < jobs) :
    (∃ outcome, call.stage = .ended outcome) ∨ ∃ next, Move request jobs call next := by
  cases sound with
  | starting =>
      cases found : discover v request.input request.pattern with
      | ok paths => exact .inr ⟨_, .discovered found⟩
      | error cause => exact .inr ⟨_, .undiscovered found⟩
  | @compiling abandoned g found sound =>
      by_cases joined : g.Joined
      · cases kept : g.kept with
        | some error => exact .inr ⟨_, .failed joined kept⟩
        | none =>
            obtain ⟨outputs, filled, _⟩ := sound.outputs_of_joined joined kept
            cases checked : checkSpaces outputs with
            | ok _ => exact .inr ⟨_, .checked joined kept filled checked⟩
            | error error => exact .inr ⟨_, .clashing joined kept filled checked⟩
      · obtain ⟨next, step⟩ := sound.step_of_not_joined room joined
        exact .inr ⟨_, .work step⟩
  | opening ready =>
      cases made : v.makeDirectory request.output with
      | ok next => exact .inr ⟨_, .opened made⟩
      | error cause => exact .inr ⟨_, .unopened made⟩
  | @writing _ volume outputs pending ready rest =>
      cases pending with
      | nil => exact .inr ⟨_, .finished⟩
      | cons file pending =>
          cases wrote : volume.write file.1 (Text.encode file.2) with
          | ok next => exact .inr ⟨_, .written wrote⟩
          | error cause => exact .inr ⟨_, .unwritten wrote⟩
  | done ready written => exact .inl ⟨_, rfl⟩
  | rejected reason => exact .inl ⟨_, rfl⟩
  | refused ready unwritten => exact .inl ⟨_, rfl⟩

/-- Every call can be brought to its end, since its weight runs out. -/
theorem Call.Sound.ends {paths : List String}
    (found : discover v request.input request.pattern = .ok paths) (sound : call.Sound v request)
    (room : 0 < jobs) :
    ∃ n last outcome, Moves request jobs n call last ∧ last.stage = .ended outcome := by
  induction left : call.weight paths.length using Nat.strongRecOn generalizing call with
  | _ left ih =>
      subst left
      rcases sound.ended_or_move room with ⟨outcome, ended⟩ | ⟨next, move⟩
      · exact ⟨0, call, outcome, .none call, ended⟩
      · obtain ⟨n, last, outcome, run, ended⟩ :=
          ih _ (move.weight_lt found sound) (move.sound sound) rfl
        exact ⟨0 + 1 + n, last, outcome, (Moves.more (.none call) move).append run, ended⟩

end Termination

end SqlMapper.Generation
