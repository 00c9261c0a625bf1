import Mathlib.Data.List.Forall2
import SqlMapper.Number.Total
import SqlMapper.Project.Generation
import SqlMapper.Proofs.Outcome

/-!
The group of workers that compiles the documents of a generation side by side. Workers are launched
in the order of the paths while there is room. Each looks whether the group is canceled, loads its
document, compiles it, and puts the result into the slot of the document or reports an error; the
first error that is reported is kept, and cancels the group.

Whatever the order in which the workers take their turns, a filled slot holds what its document
compiles to, and the error that is kept is that of a document unless the caller has given up. A turn
is possible while a worker is left, and there is an end to the turns.
-/

namespace SqlMapper.Generation

variable {v : Volume} {path : String}

section Documents

def Compiles (v : Volume) (path : String) (c : Code.Compiled) : Prop :=
  (compileDocument v path).outcome = .ok c

inductive Fails (v : Volume) (path : String) : GenerationError → Prop where
  | loading {cause : LoadError} (failed : (v.loadMapper path).outcome = .error cause) :
      Fails v path (.load cause)
  | compiling {m : Mapper} {cause : DocumentError} (loaded : (v.loadMapper path).outcome = .ok m)
      (failed : (Code.compile m).outcome = .error cause) : Fails v path (.document cause)

theorem compiles_iff {c : Code.Compiled} :
    Compiles v path c ↔
      ∃ m, (v.loadMapper path).outcome = .ok m ∧ (Code.compile m).outcome = .ok c := by
  unfold Compiles compileDocument
  rw [Logged.bind_outcome_eq_ok_iff]
  simp only [Logged.mapError, Outcome.mapError_eq_ok_iff]

theorem fails_iff {error : GenerationError} :
    Fails v path error ↔ (compileDocument v path).outcome = .error error := by
  unfold compileDocument Logged.bind Logged.mapError
  cases read : (v.loadMapper path).outcome with
  | error cause =>
      constructor
      · rintro (failed | ⟨loaded, _⟩)
        · rw [read] at failed
          cases failed
          rfl
        · rw [read] at loaded
          cases loaded
      · intro same
        cases same
        exact .loading read
  | ok m =>
      constructor
      · rintro (failed | ⟨loaded, failed⟩)
        · rw [read] at failed
          cases failed
        · rw [read] at loaded
          cases loaded
          simp only [Except.mapError]
          rw [failed]
      · intro same
        simp only [Except.mapError] at same
        cases compiled : (Code.compile m).outcome with
        | ok c =>
            rw [compiled] at same
            cases same
        | error cause =>
            rw [compiled] at same
            cases same
            exact .compiling read compiled

theorem Fails.not_compiles {error : GenerationError} (fails : Fails v path error)
    (c : Code.Compiled) : ¬ Compiles v path c := by
  intro compiles
  rw [fails_iff, compiles] at fails
  cases fails

/-- No document fails because the group is canceled. -/
theorem Fails.ne_canceled {error : GenerationError} (fails : Fails v path error) :
    error ≠ .canceled := by
  rintro rfl
  cases fails

end Documents

/-- How far a worker has come with its document. -/
inductive Worker where
  | started
  | admitted
  | loaded (m : Mapper)
  | compiled (c : Code.Compiled)
  | failing (error : GenerationError)
  | canceling
  | finished

namespace Worker

/-- What a worker does by itself, up to the point where it has something for the group. -/
def next? (v : Volume) (canceled : Bool) (path : String) : Worker → Option Worker
  | .started => some (if canceled then .failing .canceled else .admitted)
  | .admitted =>
      some (match (v.loadMapper path).outcome with
        | .ok m => .loaded m
        | .error cause => .failing (.load cause))
  | .loaded m =>
      some (match (Code.compile m).outcome with
        | .ok c => .compiled c
        | .error cause => .failing (.document cause))
  | _ => none

def isFinished : Worker → Bool
  | .finished => true
  | _ => false

/-- An upper bound for the turns that a worker has left. -/
def rank : Worker → Nat
  | .started => 5
  | .admitted => 4
  | .loaded _ => 3
  | .compiled _ => 2
  | .failing _ => 2
  | .canceling => 1
  | .finished => 0

theorem rank_next?_lt {canceled : Bool} {worker next : Worker}
    (moves : worker.next? v canceled path = some next) : next.rank < worker.rank := by
  cases worker with
  | started =>
      cases moves
      cases canceled <;> decide
  | admitted =>
      cases moves
      split <;> simp [rank]
  | loaded m =>
      cases moves
      split <;> simp [rank]
  | compiled c => cases moves
  | failing error => cases moves
  | canceling => cases moves
  | finished => cases moves

theorem busy_of_next? {canceled : Bool} {worker next : Worker}
    (moves : worker.next? v canceled path = some next) : worker.isFinished = false := by
  cases worker with
  | finished => cases moves
  | _ => rfl

end Worker

structure Group where
  paths : List String
  /-- The workers that are launched, in the order of the paths. -/
  workers : List Worker
  /-- A slot for every document. -/
  outputs : List (Option Code.Compiled)
  /-- The first error that was reported. -/
  kept : Option GenerationError
  canceled : Bool

namespace Group

def start (paths : List String) (canceled : Bool) : Group :=
  { paths, workers := [], outputs := List.replicate paths.length none, kept := none, canceled }

def running (g : Group) : Nat :=
  g.workers.countP fun worker => !worker.isFinished

def advance (g : Group) (i : Nat) (worker : Worker) : Group :=
  { g with workers := g.workers.set i worker }

def Joined (g : Group) : Prop :=
  g.workers.length = g.paths.length ∧ ∀ worker ∈ g.workers, worker = .finished

/-- An upper bound for the steps that the group has left. -/
def weight (g : Group) : Nat :=
  6 * (g.paths.length - g.workers.length) + Number.totalBy Worker.rank g.workers

end Group

/-- One step of the group: a worker is launched, or one of them takes a turn. To keep an error and
to cancel the group are two turns, between which others may come. -/
inductive Step (v : Volume) (jobs : Nat) : Group → Group → Prop where
  | launch {g : Group} (room : g.running < jobs) (left : g.workers.length < g.paths.length) :
      Step v jobs g { g with workers := g.workers ++ [.started] }
  | turn {g : Group} {i : Nat} {path : String} {worker next : Worker}
      (here : g.workers[i]? = some worker) (document : g.paths[i]? = some path)
      (moves : worker.next? v g.canceled path = some next) : Step v jobs g (g.advance i next)
  | store {g : Group} {i : Nat} {c : Code.Compiled} (here : g.workers[i]? = some (.compiled c)) :
      Step v jobs g { g.advance i .finished with outputs := g.outputs.set i (some c) }
  | keep {g : Group} {i : Nat} {error : GenerationError}
      (here : g.workers[i]? = some (.failing error)) (first : g.kept = none) :
      Step v jobs g { g.advance i .canceling with kept := some error }
  | drop {g : Group} {i : Nat} {error : GenerationError}
      (here : g.workers[i]? = some (.failing error)) (late : g.kept.isSome = true) :
      Step v jobs g (g.advance i .finished)
  | cancel {g : Group} {i : Nat} (here : g.workers[i]? = some .canceling) :
      Step v jobs g { g.advance i .finished with canceled := true }

section Soundness

/-- What is known of the worker on the document at an index. -/
def Group.Fits (v : Volume) (g : Group) (i : Nat) (path : String) : Worker → Prop
  | .started => True
  | .admitted => True
  | .loaded m => (v.loadMapper path).outcome = .ok m
  | .compiled c => Compiles v path c
  | .failing error => (error = .canceled ∧ g.canceled = true) ∨ Fails v path error
  | .canceling => g.kept.isSome = true
  | .finished => g.kept.isSome = true ∨ ∃ c, g.outputs[i]? = some (some c) ∧ Compiles v path c

/-- What holds of the group at all times; `abandoned` tells whether the caller has given up. -/
structure Sound (v : Volume) (abandoned : Bool) (g : Group) : Prop where
  launched : g.workers.length ≤ g.paths.length
  slots : g.outputs.length = g.paths.length
  fits : ∀ {i path worker}, g.workers[i]? = some worker → g.paths[i]? = some path →
    g.Fits v i path worker
  canceled : g.canceled = true → abandoned = true ∨ g.kept.isSome = true
  kept : ∀ {error}, g.kept = some error →
    (error = .canceled ∧ abandoned = true) ∨ ∃ path ∈ g.paths, Fails v path error

variable {abandoned : Bool} {g next : Group} {i : Nat} {worker : Worker} {jobs : Nat}

theorem sound_start (paths : List String) (v : Volume) (abandoned : Bool) :
    Sound v abandoned (Group.start paths abandoned) where
  launched := Nat.zero_le _
  slots := List.length_replicate
  fits := by
    intro i path worker here
    cases here
  canceled := .inl
  kept := by
    intro error none
    cases none

-- What is known of a worker does not depend on the slots of other documents, and an error that is
-- kept and a group that is canceled stay so.
theorem Group.Fits.mono {j : Nat} (fits : g.Fits v j path worker)
    (slot : next.outputs[j]? = g.outputs[j]?) (keeps : g.kept.isSome = true → next.kept.isSome = true)
    (stays : g.canceled = true → next.canceled = true) : next.Fits v j path worker := by
  cases worker with
  | started => trivial
  | admitted => trivial
  | loaded m => exact fits
  | compiled c => exact fits
  | failing error => exact fits.imp_left fun refused => ⟨refused.1, stays refused.2⟩
  | canceling => exact keeps fits
  | finished =>
      refine fits.imp keeps ?_
      rw [slot]
      exact id

/-- One worker takes a turn: it is enough to look at that worker, and at what is kept. -/
theorem Sound.advance (sound : Sound v abandoned g) (paths : next.paths = g.paths)
    (workers : next.workers = g.workers.set i worker) (slots : next.outputs.length = g.outputs.length)
    (others : ∀ j, j ≠ i → next.outputs[j]? = g.outputs[j]?)
    (keeps : g.kept.isSome = true → next.kept.isSome = true)
    (stays : g.canceled = true → next.canceled = true)
    (fits : ∀ path, g.paths[i]? = some path → next.Fits v i path worker)
    (canceled : next.canceled = true → abandoned = true ∨ next.kept.isSome = true)
    (kept : ∀ {error}, next.kept = some error →
      (error = .canceled ∧ abandoned = true) ∨ ∃ path ∈ g.paths, Fails v path error) :
    Sound v abandoned next where
  launched := by
    rw [workers, paths, List.length_set]
    exact sound.launched
  slots := by rw [slots, paths, sound.slots]
  fits := by
    intro j path other here document
    rw [paths] at document
    rw [workers, List.getElem?_set] at here
    by_cases same : i = j
    · -- The worker at this index was there before: a turn launches none.
      subst same
      have inside : i < g.workers.length := by
        by_contra outside
        simp [outside] at here
      simp only [↓reduceIte, inside, Option.some.injEq] at here
      subst here
      exact fits path document
    · rw [if_neg same] at here
      exact (sound.fits here document).mono (others j (Ne.symm same)) keeps stays
  canceled := canceled
  kept := by
    rw [paths]
    exact kept

/-- A turn that concerns no one but the worker. -/
theorem Sound.advance_alone (sound : Sound v abandoned g)
    (fits : ∀ path, g.paths[i]? = some path → g.Fits v i path worker) :
    Sound v abandoned (g.advance i worker) := by
  refine sound.advance rfl rfl rfl (fun _ _ => rfl) id id ?_ sound.canceled sound.kept
  intro path document
  exact (fits path document).mono rfl id id

theorem Sound.fits_next (sound : Sound v abandoned g) {next : Worker}
    (here : g.workers[i]? = some worker) (document : g.paths[i]? = some path)
    (moves : worker.next? v g.canceled path = some next) : g.Fits v i path next := by
  have known := sound.fits here document
  cases worker with
  | started =>
      cases moves
      cases canceled : g.canceled with
      | true => exact .inl ⟨rfl, canceled⟩
      | false => trivial
  | admitted =>
      cases moves
      cases read : (v.loadMapper path).outcome with
      | ok m => exact read
      | error cause => exact .inr (.loading read)
  | loaded m =>
      cases moves
      cases compiled : (Code.compile m).outcome with
      | ok c => exact compiles_iff.mpr ⟨m, known, compiled⟩
      | error cause => exact .inr (.compiling known compiled)
  | compiled c => cases moves
  | failing error => cases moves
  | canceling => cases moves
  | finished => cases moves

/-- An index at which a worker stands is that of a document. -/
theorem Sound.document (sound : Sound v abandoned g) (here : g.workers[i]? = some worker) :
    ∃ path, g.paths[i]? = some path := by
  obtain ⟨inside, _⟩ := List.getElem?_eq_some_iff.mp here
  have bound : i < g.paths.length := Nat.lt_of_lt_of_le inside sound.launched
  exact ⟨_, List.getElem?_eq_getElem bound⟩

/-- A worker with an error that is the first: it is that of its document, unless the caller has
given up. A group that is canceled otherwise has an error already. -/
theorem Sound.first_error (sound : Sound v abandoned g) {error : GenerationError}
    (here : g.workers[i]? = some (.failing error)) (first : g.kept = none) :
    (error = .canceled ∧ abandoned = true) ∨ ∃ path ∈ g.paths, Fails v path error := by
  obtain ⟨path, document⟩ := sound.document here
  rcases sound.fits here document with ⟨rfl, canceled⟩ | fails
  · rcases sound.canceled canceled with given | late
    · exact .inl ⟨rfl, given⟩
    · rw [first] at late
      cases late
  · exact .inr ⟨path, List.mem_of_getElem? document, fails⟩

theorem Step.sound (step : Step v jobs g next) (sound : Sound v abandoned g) :
    Sound v abandoned next := by
  cases step with
  | launch room left =>
      refine ⟨?_, sound.slots, ?_, sound.canceled, sound.kept⟩
      · rw [List.length_append, List.length_singleton]
        exact left
      · intro i path worker here document
        rw [List.getElem?_append] at here
        split at here
        · exact (sound.fits here document).mono rfl id id
        · obtain rfl := List.mem_singleton.mp (List.mem_of_getElem? here)
          trivial
  | turn here document moves =>
      apply sound.advance_alone
      intro other found
      rw [document, Option.some.injEq] at found
      subst found
      exact sound.fits_next here document moves
  | @store i c here =>
      refine sound.advance rfl rfl List.length_set ?_ id id ?_ sound.canceled sound.kept
      · intro j other
        exact List.getElem?_set_ne (Ne.symm other)
      · intro path document
        have inside : i < g.outputs.length := by
          rw [sound.slots]
          exact (List.getElem?_eq_some_iff.mp document).1
        exact .inr ⟨c, List.getElem?_set_self inside, sound.fits here document⟩
  | keep here first =>
      refine sound.advance rfl rfl rfl (fun _ _ => rfl) (fun _ => rfl) id ?_ ?_ ?_
      · intro path document
        exact rfl
      · intro _
        exact .inr rfl
      · intro error same
        cases same
        exact sound.first_error here first
  | drop here late => exact sound.advance_alone fun _ _ => .inl late
  | cancel here =>
      -- Only a worker whose error is kept comes to cancel the group.
      obtain ⟨path, document⟩ := sound.document here
      have late : g.kept.isSome = true := sound.fits here document
      exact sound.advance rfl rfl rfl (fun _ _ => rfl) id (fun _ => rfl) (fun _ _ => .inl late)
        (fun _ => .inr late) sound.kept

/-- The caller gives up. -/
theorem Sound.abandon (sound : Sound v abandoned g) : Sound v true { g with canceled := true } where
  launched := sound.launched
  slots := sound.slots
  fits := by
    intro i path worker here document
    exact (sound.fits here document).mono rfl id fun _ => rfl
  canceled := fun _ => .inl rfl
  kept := by
    intro error same
    exact (sound.kept same).imp_left fun given => ⟨given.1, rfl⟩

/-- Slots that are all filled are those of a list of results. -/
theorem results_of_filled {paths : List String} {slots : List (Option Code.Compiled)}
    (filled : List.Forall₂ (fun path slot => ∃ c, slot = some c ∧ Compiles v path c) paths slots) :
    ∃ outputs : List Code.Compiled, slots = outputs.map some ∧
      List.Forall₂ (Compiles v) paths outputs := by
  induction filled with
  | nil => exact ⟨[], rfl, .nil⟩
  | cons head _ ih =>
      obtain ⟨c, rfl, compiles⟩ := head
      obtain ⟨rest, rfl, others⟩ := ih
      exact ⟨c :: rest, rfl, .cons compiles others⟩

/-- A group that has joined without an error has filled every slot with what its document compiles
to. -/
theorem Sound.outputs_of_joined (sound : Sound v abandoned g) (joined : g.Joined)
    (clear : g.kept = none) :
    ∃ outputs : List Code.Compiled, g.outputs = outputs.map some ∧
      List.Forall₂ (Compiles v) g.paths outputs := by
  obtain ⟨all, finished⟩ := joined
  apply results_of_filled
  rw [List.forall₂_iff_get]
  refine ⟨sound.slots.symm, ?_⟩
  intro i document slot
  have launched : i < g.workers.length := by
    rw [all]
    exact document
  have here := List.getElem?_eq_getElem launched
  rw [finished _ (List.getElem_mem launched)] at here
  rcases sound.fits here (List.getElem?_eq_getElem document) with late | ⟨c, found, compiles⟩
  · rw [clear] at late
    cases late
  · rw [List.getElem?_eq_getElem slot, Option.some.injEq] at found
    exact ⟨c, found, compiles⟩

end Soundness

section Width

variable {g next : Group} {i : Nat} {worker : Worker} {jobs : Nat}

theorem Group.running_eq_zero (finished : ∀ worker ∈ g.workers, worker = .finished) :
    g.running = 0 := by
  rw [Group.running, List.countP_eq_zero]
  intro worker member
  rw [finished worker member]
  decide

theorem Group.running_advance_le (next : Worker) (here : g.workers[i]? = some worker)
    (busy : worker.isFinished = false) : (g.advance i next).running ≤ g.running := by
  obtain ⟨inside, same⟩ := List.getElem?_eq_some_iff.mp here
  have counted : 0 < g.running := by
    rw [Group.running, List.countP_pos_iff]
    exact ⟨worker, List.mem_of_getElem? here, by rw [busy]; rfl⟩
  simp only [Group.running, Group.advance] at counted ⊢
  rw [List.countP_set inside, same, busy]
  cases next.isFinished with
  | true => simp
  | false =>
      simp only [Bool.not_false, ↓reduceIte]
      omega

/-- There are never more workers at work than there may be. -/
theorem Step.running_le (step : Step v jobs g next) (width : g.running ≤ jobs) :
    next.running ≤ jobs := by
  cases step with
  | launch room left =>
      simp only [Group.running, List.countP_append] at room ⊢
      exact room
  | turn here document moves =>
      exact Nat.le_trans (g.running_advance_le _ here (Worker.busy_of_next? moves)) width
  | store here => exact Nat.le_trans (g.running_advance_le _ here rfl) width
  | keep here first => exact Nat.le_trans (g.running_advance_le _ here rfl) width
  | drop here late => exact Nat.le_trans (g.running_advance_le _ here rfl) width
  | cancel here => exact Nat.le_trans (g.running_advance_le _ here rfl) width

end Width

section Progress

variable {abandoned : Bool} {g next : Group} {i : Nat} {worker : Worker} {jobs : Nat}

theorem totalBy_set_lt {workers : List Worker} {next : Worker} (here : workers[i]? = some worker)
    (less : next.rank < worker.rank) :
    Number.totalBy Worker.rank (workers.set i next) < Number.totalBy Worker.rank workers := by
  induction workers generalizing i with
  | nil => cases here
  | cons first rest ih =>
      cases i with
      | zero =>
          rw [List.getElem?_cons_zero, Option.some.injEq] at here
          subst here
          simpa [Number.totalBy] using less
      | succ i =>
          rw [List.getElem?_cons_succ] at here
          simpa [Number.totalBy] using ih here

theorem Group.weight_advance_lt (next : Worker) (here : g.workers[i]? = some worker)
    (less : next.rank < worker.rank) : (g.advance i next).weight < g.weight := by
  have total := totalBy_set_lt here less
  simp only [Group.weight, Group.advance, List.length_set]
  omega

theorem totalBy_launch (workers : List Worker) :
    Number.totalBy Worker.rank (workers ++ [.started]) = Number.totalBy Worker.rank workers + 5 := by
  induction workers with
  | nil => rfl
  | cons first rest ih => simp only [List.cons_append, Number.totalBy, ih]; omega

theorem Step.weight_lt (step : Step v jobs g next) : next.weight < g.weight := by
  cases step with
  | launch room left =>
      simp only [Group.weight, totalBy_launch, List.length_append, List.length_singleton]
      omega
  | turn here document moves => exact g.weight_advance_lt _ here (Worker.rank_next?_lt moves)
  | store here => exact g.weight_advance_lt .finished here (by simp [Worker.rank])
  | keep here first => exact g.weight_advance_lt .canceling here (by simp [Worker.rank])
  | drop here late => exact g.weight_advance_lt .finished here (by simp [Worker.rank])
  | cancel here => exact g.weight_advance_lt .finished here (by simp [Worker.rank])

theorem Step.paths_eq (step : Step v jobs g next) : next.paths = g.paths := by
  cases step <;> rfl

/-- A worker that has not finished can take a turn. -/
theorem Sound.turn_of_unfinished (sound : Sound v abandoned g)
    (here : g.workers[i]? = some worker) (unfinished : worker ≠ .finished) :
    ∃ next, Step v jobs g next := by
  obtain ⟨path, document⟩ := sound.document here
  cases worker with
  | started => exact ⟨_, .turn here document rfl⟩
  | admitted => exact ⟨_, .turn here document rfl⟩
  | loaded m => exact ⟨_, .turn here document rfl⟩
  | compiled c => exact ⟨_, .store here⟩
  | failing error =>
      cases kept : g.kept with
      | none => exact ⟨_, .keep here kept⟩
      | some first => exact ⟨_, .drop here (by rw [kept]; rfl)⟩
  | canceling => exact ⟨_, .cancel here⟩
  | finished => exact absurd rfl unfinished

/-- A group that has not joined has a step to take. -/
theorem Sound.step_of_not_joined (sound : Sound v abandoned g) (room : 0 < jobs)
    (apart : ¬ g.Joined) : ∃ next, Step v jobs g next := by
  by_cases finished : ∀ worker ∈ g.workers, worker = .finished
  · have left : g.workers.length < g.paths.length :=
      Nat.lt_of_le_of_ne sound.launched fun all => apart ⟨all, finished⟩
    exact ⟨_, .launch (by rw [Group.running_eq_zero finished]; exact room) left⟩
  · push Not at finished
    obtain ⟨worker, member, unfinished⟩ := finished
    obtain ⟨i, here⟩ := List.mem_iff_getElem?.mp member
    exact sound.turn_of_unfinished here unfinished

end Progress

end SqlMapper.Generation
