import TransactionalCollection.Execution.Stateful

namespace TransactionalCollection
namespace Execution

/-!
# Scripts

A script makes its calls one at a time, and others may make theirs in between.  The
state consists of cells, and a script owns some of them: it leaves the others as they
are, and nobody else touches its own.  So what it relies on when it makes a call is
what it has seen to in its own cells, and the cells stay sound whatever the order of
all calls, and wherever a script ends.
-/

/-- What is still to be done: calls, and looks at the state and at what else is in view. -/
inductive Script (V E S : Type) where
  | done
  | fails (error : E)
  | call (step : EStateM E S PUnit) (next : Script V E S)
  | look (next : V -> S -> Script V E S)

section Scripts

variable {V E S A : Type}

namespace Script

/-- The next call, after which nothing is left to do if it fails. -/
def advance (view : V) : Script V E S -> S -> Option (Script V E S) × S
  | .done, state | .fails _, state => (none, state)
  | .call step next, state => (if succeeded (step state) then some next else none, finalState (step state))
  | .look next, state => (some (next view state), state)

/-- A script which is left to itself. -/
def run (view : V) : Script V E S -> EStateM E S PUnit
  | .done => pure ⟨⟩
  | .fails error => throw error
  | .call step next => do
      step
      run view next
  | .look next => fun state => run view (next view state) state

/-- A loop, and what follows it. -/
def forEach (items : List A) (body : A -> Script V E S -> Script V E S) (next : Script V E S) : Script V E S :=
  items.foldr body next

theorem run_call (view : V) (step : EStateM E S PUnit) (next : Script V E S) :
    (call step next).run view = (do
      step
      next.run view) := rfl

theorem run_look (view : V) (next : V -> S -> Script V E S) (state : S) :
    (look next).run view state = (next view state).run view state := rfl

/-- A loop is run round by round. -/
theorem run_forEach {view : V} {items : List A} {body : A -> Script V E S -> Script V E S}
    {round : A -> EStateM E S PUnit}
    (rounds : forall item next, (body item next).run view = (do
      round item
      next.run view)) (next : Script V E S) :
    (forEach items body next).run view = (do
      forM items round
      next.run view) := by
  induction items with
  | nil => rfl
  | cons item items inductionHypothesis =>
      rw [List.forM_cons, bind_assoc, ← inductionHypothesis]
      exact rounds item (forEach items body next)

theorem run_forEach_call (view : V) (items : List A) (step : A -> EStateM E S PUnit) (next : Script V E S) :
    (forEach items (fun item => call (step item)) next).run view = (do
      forM items step
      next.run view) :=
  run_forEach (fun item next => run_call view (step item) next) next

end Script

/-! ## Cells -/

section Cells

variable {K C : Type} (cell : S -> K -> C) (sound : C -> Prop)

/-- Two states which have the same in some cells. -/
def AgreesOn (owned : K -> Prop) (left right : S) : Prop := forall key, owned key -> cell left key = cell right key

variable {cell} in
theorem AgreesOn.trans {owned : K -> Prop} {first second third : S} (low : AgreesOn cell owned first second)
    (high : AgreesOn cell owned second third) : AgreesOn cell owned first third :=
  fun key own => (low key own).trans (high key own)

/-- A script which changes no cells but its own, and keeps these sound, whatever happens
elsewhere between its calls. -/
def Upholds (owned : K -> Prop) : Script V E S -> S -> Prop
  | .done, _ | .fails _, _ => True
  | .call step next, state => forall now, AgreesOn cell owned state now ->
      (forall key, owned key -> sound (cell now key)) ->
        AgreesOn cell (fun key => ¬ owned key) now (finalState (step now)) ∧
        (forall key, owned key -> sound (cell (finalState (step now)) key)) ∧
        (succeeded (step now) = true -> Upholds owned next (finalState (step now)))
  | .look next, state => forall view now, AgreesOn cell owned state now -> Upholds owned (next view now) now

/-- A call which, where it succeeds, changes one cell, and else none. -/
def Edits [DecidableEq K] (key : K) (change : C -> C) (step : EStateM E S PUnit) : Prop :=
  forall state other, cell (finalState (step state)) other =
    if succeeded (step state) = true ∧ key = other then change (cell state other) else cell state other

variable {cell} in
theorem Edits.mapError [DecidableEq K] {E' : Type} {key : K} {change : C -> C} {step : EStateM E S PUnit}
    (edits : Edits cell key change step) (translate : E -> E') :
    Edits cell key change (Execution.mapError translate step) := by
  intro state other
  rw [finalState_mapError, succeeded_mapError]
  exact edits state other

variable {cell} in
/-- A call on a part of the state, which sets a cell of that part. -/
theorem Edits.focus [DecidableEq K] {T B : Type} {whole : T -> K -> B} {get : T -> S} {put : S -> T -> T}
    {key : K} {value : C} {step : EStateM E S PUnit} (edits : Edits cell key (fun _ => value) step)
    (place : C -> B -> B)
    (reads : forall state other, place (cell (get state) other) (whole state other) = whole state other)
    (writes : forall part state other, whole (put part state) other = place (cell part other) (whole state other)) :
    Edits whole key (place value) (Execution.focus get put step) := by
  intro state other
  have part := edits (get state) other
  unfold Execution.focus
  cases outcome : step (get state) with
  | ok result after =>
      rw [outcome, finalState_ok] at part
      rw [finalState_ok, writes, part]
      split
      · rw [succeeded_ok, if_pos ‹_›]
      · rw [succeeded_ok, if_neg ‹_›, reads]
  | error error after =>
      rw [outcome, finalState_error, if_neg (by simp)] at part
      rw [finalState_error, writes, part, reads, if_neg (by simp)]

namespace Upholds

variable {cell sound} {owned : K -> Prop} {script next : Script V E S} {state now : S}

/-- What happens in other cells makes no difference. -/
theorem frame (upholds : Upholds cell sound owned script state) (agrees : AgreesOn cell owned state now) :
    Upholds cell sound owned script now := by
  cases script with
  | done => trivial
  | fails error => trivial
  | call step next =>
      intro later more
      exact upholds later (agrees.trans more)
  | look next =>
      intro view later more
      exact upholds view later (agrees.trans more)

/-- What one call does. -/
theorem advance (upholds : Upholds cell sound owned script state) (all : forall key, sound (cell state key))
    (view : V) : (forall key, sound (cell (script.advance view state).2 key)) ∧
      AgreesOn cell (fun key => ¬ owned key) state (script.advance view state).2 ∧
      forall rest, (script.advance view state).1 = some rest ->
        Upholds cell sound owned rest (script.advance view state).2 := by
  have same : AgreesOn cell owned state state := fun _ _ => rfl
  have elsewhere : AgreesOn cell (fun key => ¬ owned key) state state := fun _ _ => rfl
  cases script with
  | done => exact ⟨all, elsewhere, by simp [Script.advance]⟩
  | fails error => exact ⟨all, elsewhere, by simp [Script.advance]⟩
  | call step next =>
      rcases upholds state same (fun key _ => all key) with ⟨others, own, later⟩
      refine ⟨?_, others, ?_⟩
      · intro key
        by_cases owns : owned key
        · exact own key owns
        · change sound (cell (finalState (step state)) key)
          rw [← others key owns]
          exact all key
      · intro rest left
        change (if succeeded (step state) then some next else none) = some rest at left
        split at left
        · rename_i done
          cases left
          exact later done
        · cases left
  | look next =>
      refine ⟨all, elsewhere, ?_⟩
      intro rest left
      cases left
      exact upholds view state same

/-- A loop keeps sound what its body keeps sound, round by round from states which are good
enough for what follows. -/
theorem forEach {good : S -> Prop} {items : List A} {body : A -> Script V E S -> Script V E S}
    (rounds : forall item next, (forall state, good state -> Upholds cell sound owned next state) ->
      forall state, good state -> Upholds cell sound owned (body item next) state)
    (follows : forall state, good state -> Upholds cell sound owned next state) (starts : good state) :
    Upholds cell sound owned (Script.forEach items body next) state := by
  induction items generalizing state with
  | nil => exact follows state starts
  | cons item items inductionHypothesis =>
      exact rounds item _ (fun _ between => inductionHypothesis between) state starts

/-- A loop whose rounds need nothing of one another. -/
theorem loop {items : List A} {body : A -> Script V E S -> Script V E S}
    (rounds : forall item next, (forall state, Upholds cell sound owned next state) ->
      forall state, Upholds cell sound owned (body item next) state)
    (follows : forall state, Upholds cell sound owned next state) (state : S) :
    Upholds cell sound owned (Script.forEach items body next) state :=
  forEach (fun item next rest state _ => rounds item next (fun after => rest after trivial) state)
    (fun state (_ : True) => follows state) trivial

/-- A call which edits one cell of a script's own. -/
theorem edit [DecidableEq K] {key : K} {change : C -> C} {step : EStateM E S PUnit} (owns : owned key)
    (edits : Edits cell key change step) (stays : sound (change (cell state key)))
    (rest : forall after, cell after key = change (cell state key) -> Upholds cell sound owned next after) :
    Upholds cell sound owned (.call step next) state := by
  intro now agrees all
  refine ⟨?_, ?_, ?_⟩
  · intro other apart
    rw [edits, if_neg]
    rintro ⟨_, rfl⟩
    exact apart owns
  · intro other own
    rw [edits]
    split
    · rename_i here
      rcases here with ⟨_, rfl⟩
      rw [← agrees key owns]
      exact stays
    · exact all other own
  · intro done
    apply rest
    rw [edits, if_pos ⟨done, rfl⟩, ← agrees key owns]

/-! What a script may do which owns every cell. -/

/-- A call which leads from good cells to good cells. -/
theorem lead {good : (K -> C) -> Prop} {step : EStateM E S PUnit} (every : forall key, owned key)
    (starts : good (cell state)) (stays : forall cells, good cells -> forall key, sound (cells key))
    (leads : forall now, good (cell now) -> good (cell (finalState (step now))))
    (rest : forall after, good (cell after) -> Upholds cell sound owned next after) :
    Upholds cell sound owned (.call step next) state := by
  intro now agrees _
  have same : cell state = cell now := funext (fun key => agrees key (every key))
  have reached := leads now (same ▸ starts)
  exact ⟨fun key apart => absurd (every key) apart, fun key _ => stays _ reached key,
    fun _ => rest _ reached⟩

/-- A look at whatever is in view. -/
theorem look {good : (K -> C) -> Prop} {next : V -> S -> Script V E S} (every : forall key, owned key)
    (starts : good (cell state))
    (rest : forall view now, good (cell now) -> Upholds cell sound owned (next view now) now) :
    Upholds cell sound owned (.look next) state := by
  intro view now agrees
  have same : cell state = cell now := funext (fun key => agrees key (every key))
  exact rest view now (same ▸ starts)

end Upholds

end Cells

end Scripts

end Execution
end TransactionalCollection
