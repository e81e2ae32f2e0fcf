import TransactionalCollection.Execution.Stateful
import TransactionalCollection.Native.Signature

namespace TransactionalCollection
namespace Execution

open Native

/-!
# Calls which end in a panic

A call which may panic reports either an error or a panic.  A program panics in
no state if its parts do not, and a translation of its errors does not hide a
panic, nor make one.
-/

variable {E E' S T A B : Type}

/-- The call ends in a panic. -/
def Panics (result : EStateM.Result (Failure E) S A) : Prop :=
  exists panic after, result = .error (.panic panic) after

theorem not_panics_ok {value : A} {state : S} :
    ¬ Panics (.ok value state : EStateM.Result (Failure E) S A) := by
  intro panics
  rcases panics with ⟨_, _, impossible⟩
  cases impossible

theorem not_panics_error {error : E} {state : S} :
    ¬ Panics (.error (.error error) state : EStateM.Result (Failure E) S A) := by
  intro panics
  rcases panics with ⟨_, _, impossible⟩
  cases impossible

theorem not_error_ok {X : Type} {value : A} {wrap : X -> E} :
    ¬ exists error, (.ok value : Except E A) = .error (wrap error) := by
  intro found
  rcases found with ⟨_, impossible⟩
  cases impossible

theorem panics_panic {panic : Panic} {state : S} :
    Panics (.error (.panic panic) state : EStateM.Result (Failure E) S A) := ⟨panic, state, rfl⟩

theorem panics_rewrap_iff {wrap : S -> T} {result : EStateM.Result (Failure E) S A} :
    Panics (rewrap wrap result) <-> Panics result := by
  rcases result with ⟨value, state⟩ | ⟨error | panic, state⟩
  · exact iff_of_false not_panics_ok not_panics_ok
  · exact iff_of_false not_panics_error not_panics_error
  · exact iff_of_true panics_panic panics_panic

/-- Errors become errors, and panics stay panics. -/
structure KeepsPanics (translate : Failure E -> Failure E') : Prop where
  error : forall error, exists other, translate (.error error) = .error other
  panic : forall panic, translate (.panic panic) = .panic panic

theorem panics_mapError_iff {translate : Failure E -> Failure E'} (keeps : KeepsPanics translate)
    {program : EStateM (Failure E) S A} {state : S} :
    Panics (mapError translate program state) <-> Panics (program state) := by
  unfold mapError
  rcases program state with ⟨value, after⟩ | ⟨error | panic, after⟩
  · exact iff_of_false not_panics_ok not_panics_ok
  · rcases keeps.error error with ⟨other, translated⟩
    dsimp only
    rw [translated]
    exact iff_of_false not_panics_error not_panics_error
  · dsimp only
    rw [keeps.panic panic]
    exact iff_of_true panics_panic panics_panic

theorem panics_map_iff {image : A -> B} {program : EStateM (Failure E) S A} {state : S} :
    Panics ((image <$> program) state) <-> Panics (program state) := by
  change Panics (EStateM.map image program state) <-> _
  unfold EStateM.map
  rcases program state with ⟨value, after⟩ | ⟨error | panic, after⟩
  · exact iff_of_false not_panics_ok not_panics_ok
  · exact iff_of_false not_panics_error not_panics_error
  · exact iff_of_true panics_panic panics_panic

theorem panics_focus_iff {get : T -> S} {put : S -> T -> T} {program : EStateM (Failure E) S A} {state : T} :
    Panics (focus get put program state) <-> Panics (program (get state)) := by
  unfold focus
  rcases program (get state) with ⟨value, after⟩ | ⟨error | panic, after⟩
  · exact iff_of_false not_panics_ok not_panics_ok
  · exact iff_of_false not_panics_error not_panics_error
  · exact iff_of_true panics_panic panics_panic

/-! ## Programs which never panic -/

/-- The program panics in no state. -/
def NeverPanics (program : EStateM (Failure E) S A) : Prop := forall state, ¬ Panics (program state)

namespace NeverPanics

/-- A program whose own errors are reported as errors. -/
theorem of_errors {translate : E -> Failure E'}
    (reports : forall error, exists other, translate error = .error other)
    (program : EStateM E S A) : NeverPanics (mapError translate program) := by
  intro state
  unfold mapError
  rcases program state with ⟨value, after⟩ | ⟨error, after⟩
  · exact not_panics_ok
  · rcases reports error with ⟨other, translated⟩
    dsimp only
    rw [translated]
    exact not_panics_error

/-- A sequence panics only where one of its parts does. -/
theorem bind {first : EStateM (Failure E) S A} {rest : A -> EStateM (Failure E) S B}
    (never : NeverPanics first)
    (later : forall value, NeverPanics (rest value)) : NeverPanics (first >>= rest) := by
  intro state
  have here := never state
  rcases outcome : first state with ⟨value, after⟩ | ⟨failure, after⟩
  · rw [bind_of_ok outcome]
    exact later value after
  · rw [bind_of_error outcome]
    intro panics
    rcases panics with ⟨panic, last, same⟩
    cases same
    exact here ⟨panic, after, outcome⟩

theorem focus {get : T -> S} {put : S -> T -> T} {program : EStateM (Failure E) S A}
    (never : NeverPanics program) :
    NeverPanics (Execution.focus get put program) := by
  intro state panics
  exact never (get state) (panics_focus_iff.mp panics)

end NeverPanics

/-! ## Reads -/

/-- A read which yields the state it leaves, as a program. -/
def reading (read : S -> Except E A × S) : EStateM E S A := fun state =>
  match read state with
  | (.ok value, after) => .ok value after
  | (.error error, after) => .error error after

theorem panics_reading_iff {read : S -> Except (Failure E) A × S} {state : S} :
    Panics (reading read state) <-> exists panic, (read state).1 = .error (.panic panic) := by
  unfold reading
  rcases read state with ⟨⟨error | panic⟩ | value, after⟩
  · apply iff_of_false not_panics_error
    intro found
    rcases found with ⟨_, impossible⟩
    cases impossible
  · exact iff_of_true panics_panic ⟨panic, rfl⟩
  · exact iff_of_false not_panics_ok not_error_ok

/-- A result of which the errors are all panics. -/
theorem panics_of_mapError_iff {A : Type} {result : Except Panic A} :
    (exists panic, (result.mapError Failure.panic : Except (Failure E) A) = .error (.panic panic)) <->
      exists panic, result = .error panic := by
  cases result with
  | error panic => exact iff_of_true ⟨panic, rfl⟩ ⟨panic, rfl⟩
  | ok value => exact iff_of_false not_error_ok not_error_ok

theorem error_of_map_iff {X : Type} {result : Except X A} {image : A -> B} :
    (exists error, result.map image = .error error) <-> exists error, result = .error error := by
  cases result with
  | error error => exact iff_of_true ⟨error, rfl⟩ ⟨error, rfl⟩
  | ok value => exact iff_of_false not_error_ok not_error_ok

end Execution
end TransactionalCollection
