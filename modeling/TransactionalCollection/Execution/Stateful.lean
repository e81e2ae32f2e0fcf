import Mathlib.Data.List.Basic

namespace TransactionalCollection
namespace Execution

/-!
# Computations which keep their state when they fail

`EStateM` is the shape of an operation that mutates shared storage step by
step and may stop with an error in the middle: the state reached so far stays.
What such an operation does to the state is therefore a property of both of
its outcomes.  `Moves relation program` says that the program, however it
ends, moves the state along a reflexive and transitive relation, and the rules
below follow the structure of the program.
-/

variable {E E' S A B : Type}

/-- The state an outcome leaves behind. -/
def finalState : EStateM.Result E S A -> S
  | .ok _ state => state
  | .error _ state => state

@[simp] theorem finalState_ok (value : A) (state : S) :
    finalState (EStateM.Result.ok value state : EStateM.Result E S A) = state := rfl

@[simp] theorem finalState_error (error : E) (state : S) :
    finalState (EStateM.Result.error error state : EStateM.Result E S A) = state := rfl

/-- Whether an outcome is a success. -/
def succeeded : EStateM.Result E S A -> Bool
  | .ok _ _ => true
  | .error _ _ => false

@[simp] theorem succeeded_ok (value : A) (state : S) :
    succeeded (EStateM.Result.ok value state : EStateM.Result E S A) = true := rfl

@[simp] theorem succeeded_error (error : E) (state : S) :
    succeeded (EStateM.Result.error error state : EStateM.Result E S A) = false := rfl

/-- A success without a value is determined by its state. -/
theorem eq_ok_of_succeeded {result : EStateM.Result E S PUnit} (done : succeeded result = true) :
    result = .ok ⟨⟩ (finalState result) := by
  cases result with
  | ok value state => rfl
  | error error state => cases done

/-- A failure ends in the state it leaves. -/
theorem eq_error_of_not_succeeded {result : EStateM.Result E S A} (failed : succeeded result = false) :
    exists error, result = .error error (finalState result) := by
  cases result with
  | ok value state => cases failed
  | error error state => exact ⟨error, rfl⟩

/-- Run a computation on one component of the state. -/
def focus {T : Type} (get : T -> S) (put : S -> T -> T) (program : EStateM E S A) :
    EStateM E T A :=
  fun whole =>
    match program (get whole) with
    | .ok value part => .ok value (put part whole)
    | .error error part => .error error (put part whole)

/-- The same outcome, with its state wrapped up. -/
def rewrap {T : Type} (wrap : S -> T) : EStateM.Result E S A -> EStateM.Result E T A
  | .ok value state => .ok value (wrap state)
  | .error error state => .error error (wrap state)

@[simp] theorem rewrap_ok {T : Type} (wrap : S -> T) (value : A) (state : S) :
    rewrap wrap (EStateM.Result.ok value state : EStateM.Result E S A) = .ok value (wrap state) := rfl

@[simp] theorem rewrap_error {T : Type} (wrap : S -> T) (error : E) (state : S) :
    rewrap wrap (EStateM.Result.error error state : EStateM.Result E S A) =
      .error error (wrap state) := rfl

@[simp] theorem finalState_rewrap {T : Type} (wrap : S -> T) (result : EStateM.Result E S A) :
    finalState (rewrap wrap result) = wrap (finalState result) := by
  cases result <;> rfl

/-- Enter a computation with a result already known. -/
def fromExcept (result : Except E A) : EStateM E S A :=
  fun state =>
    match result with
    | .ok value => .ok value state
    | .error error => .error error state

/-- Change the error of a failed computation, never its state. -/
def mapError (translate : E -> E') (program : EStateM E S A) : EStateM E' S A :=
  fun state =>
    match program state with
    | .ok value after => .ok value after
    | .error error after => .error (translate error) after

theorem mapError_id (program : EStateM E S A) : mapError id program = program := by
  funext state
  unfold mapError
  cases program state <;> rfl

theorem finalState_mapError (translate : E -> E') (program : EStateM E S A) (state : S) :
    finalState (mapError translate program state) = finalState (program state) := by
  unfold mapError
  cases program state <;> rfl

theorem succeeded_mapError (translate : E -> E') (program : EStateM E S A) (state : S) :
    succeeded (mapError translate program state) = succeeded (program state) := by
  unfold mapError
  cases program state <;> rfl

theorem mapError_mapError {E'' : Type} (outer : E' -> E'') (inner : E -> E') (program : EStateM E S A) :
    mapError outer (mapError inner program) = mapError (fun error => outer (inner error)) program := by
  funext state
  cases outcome : program state <;> simp only [mapError, outcome]

/-! Both go through a sequence. -/

theorem mapError_bind (translate : E -> E') (first : EStateM E S A) (rest : A -> EStateM E S B) :
    mapError translate (first >>= rest) =
      mapError translate first >>= fun value => mapError translate (rest value) := by
  funext state
  change mapError translate (EStateM.bind first rest) state = EStateM.bind (mapError translate first) _ state
  cases outcome : first state <;> simp only [mapError, EStateM.bind, outcome]

theorem mapError_forM (translate : E -> E') (items : List A) (body : A -> EStateM E S PUnit) :
    mapError translate (forM items body) = forM items (fun item => mapError translate (body item)) := by
  induction items with
  | nil => rfl
  | cons item items inductionHypothesis =>
      rw [List.forM_cons, List.forM_cons, mapError_bind]
      simp only [inductionHypothesis]

theorem focus_bind {T : Type} {get : T -> S} {put : S -> T -> T}
    (reads : forall part whole, get (put part whole) = part)
    (replaces : forall first second whole, put second (put first whole) = put second whole)
    (first : EStateM E S A) (rest : A -> EStateM E S B) :
    focus get put (first >>= rest) = focus get put first >>= fun value => focus get put (rest value) := by
  funext whole
  change focus get put (EStateM.bind first rest) whole = EStateM.bind (focus get put first) _ whole
  cases outcome : first (get whole) with
  | error error part => simp only [focus, EStateM.bind, outcome]
  | ok value part => simp only [focus, EStateM.bind, outcome, reads, replaces]

theorem focus_forM {T : Type} {get : T -> S} {put : S -> T -> T}
    (reads : forall part whole, get (put part whole) = part)
    (replaces : forall first second whole, put second (put first whole) = put second whole)
    (keeps : forall whole, put (get whole) whole = whole) (items : List A) (body : A -> EStateM E S PUnit) :
    focus get put (forM items body) = forM items (fun item => focus get put (body item)) := by
  induction items with
  | nil =>
      funext whole
      change EStateM.Result.ok PUnit.unit (put (get whole) whole) = _
      rw [keeps]
      rfl
  | cons item items inductionHypothesis =>
      rw [List.forM_cons, List.forM_cons, focus_bind reads replaces]
      simp only [inductionHypothesis]

/-! ## Running a sequence -/

theorem bind_of_ok {first : EStateM E S A} {rest : A -> EStateM E S B} {start between : S} {middle : A}
    (done : first start = .ok middle between) : (first >>= rest) start = rest middle between := by
  change EStateM.bind first rest start = _
  rw [EStateM.bind, done]

theorem bind_of_error {first : EStateM E S A} {rest : A -> EStateM E S B} {start between : S}
    {error : E} (failed : first start = .error error between) :
    (first >>= rest) start = .error error between := by
  change EStateM.bind first rest start = _
  rw [EStateM.bind, failed]

theorem mapError_of_ok {translate : E -> E'} {program : EStateM E S A} {start finish : S} {value : A}
    (done : program start = .ok value finish) : mapError translate program start = .ok value finish := by
  rw [mapError, done]

theorem mapError_of_error {translate : E -> E'} {program : EStateM E S A} {start finish : S} {error : E}
    (failed : program start = .error error finish) :
    mapError translate program start = .error (translate error) finish := by
  rw [mapError, failed]

theorem focus_of_ok {T : Type} {get : T -> S} {put : S -> T -> T} {program : EStateM E S A}
    {start : T} {part : S} {value : A} (done : program (get start) = .ok value part) :
    focus get put program start = .ok value (put part start) := by
  rw [focus, done]

theorem focus_of_error {T : Type} {get : T -> S} {put : S -> T -> T} {program : EStateM E S A}
    {start : T} {part : S} {error : E} (failed : program (get start) = .error error part) :
    focus get put program start = .error error (put part start) := by
  rw [focus, failed]

/-! ## Reading an outcome off a sequence -/

theorem bind_eq_ok {first : EStateM E S A} {rest : A -> EStateM E S B} {start finish : S}
    {value : B} :
    (first >>= rest) start = .ok value finish <->
      exists middle between, first start = .ok middle between ∧
        rest middle between = .ok value finish := by
  change EStateM.bind first rest start = _ <-> _
  unfold EStateM.bind
  cases outcome : first start with
  | ok middle between =>
      constructor
      · intro done
        exact ⟨middle, between, rfl, done⟩
      · rintro ⟨middle', between', same, done⟩
        cases same
        exact done
  | error error between =>
      constructor
      · intro impossible
        cases impossible
      · rintro ⟨_, _, impossible, _⟩
        cases impossible

theorem except_mapError_eq_ok {translate : E -> E'} {result : Except E A} {value : A} :
    result.mapError translate = .ok value <-> result = .ok value := by
  cases result with
  | error error => simp [Except.mapError]
  | ok found => simp [Except.mapError]

/-- Without a state, the same. -/
theorem except_bind_eq_ok {first : Except E A} {rest : A -> Except E B} {value : B} :
    (first >>= rest) = .ok value <-> exists middle, first = .ok middle ∧ rest middle = .ok value := by
  cases first with
  | error error =>
      constructor
      · intro impossible
        cases impossible
      · intro found
        rcases found with ⟨_, impossible, _⟩
        cases impossible
  | ok middle =>
      constructor
      · intro done
        exact ⟨middle, rfl, done⟩
      · intro found
        rcases found with ⟨_, same, done⟩
        cases same
        exact done

theorem mapError_eq_ok {translate : E -> E'} {program : EStateM E S A} {start finish : S}
    {value : A} :
    mapError translate program start = .ok value finish <-> program start = .ok value finish := by
  unfold mapError
  cases program start <;> simp

theorem mapError_eq_error {translate : E -> E'} {program : EStateM E S A} {start finish : S}
    {failure : E'} :
    mapError translate program start = .error failure finish <->
      exists error, program start = .error error finish ∧ translate error = failure := by
  unfold mapError
  cases program start with
  | ok value after => simp
  | error error after =>
      constructor
      · intro same
        cases same
        exact ⟨error, rfl, rfl⟩
      · intro found
        rcases found with ⟨other, same, rfl⟩
        cases same
        rfl

theorem rewrap_eq_error {T : Type} {wrap : S -> T} {result : EStateM.Result E S A} {error : E}
    {finish : T} :
    rewrap wrap result = .error error finish <->
      exists after, result = .error error after ∧ wrap after = finish := by
  cases result with
  | ok value after => simp
  | error other after =>
      constructor
      · intro same
        cases same
        exact ⟨after, rfl, rfl⟩
      · intro found
        rcases found with ⟨after, same, rfl⟩
        cases same
        rfl

theorem focus_eq_ok {T : Type} {get : T -> S} {put : S -> T -> T} {program : EStateM E S A}
    {start finish : T} {value : A} :
    focus get put program start = .ok value finish <->
      exists part, program (get start) = .ok value part ∧ put part start = finish := by
  unfold focus
  cases program (get start) <;> simp

/-- A loop whose body always succeeds is a fold. -/
theorem forM_eq_foldl {items : List A} {body : A -> EStateM E S PUnit}
    (total : forall item, item ∈ items -> forall state, exists after, body item state = .ok ⟨⟩ after)
    (start : S) :
    (forM items body : EStateM E S PUnit) start =
      .ok ⟨⟩ (items.foldl (fun state item => finalState (body item state)) start) := by
  induction items generalizing start with
  | nil => rfl
  | cons item items inductionHypothesis =>
      rcases total item List.mem_cons_self start with ⟨after, done⟩
      rw [List.forM_cons]
      change EStateM.bind (body item) (fun _ => forM items body) start = _
      rw [EStateM.bind, done, List.foldl_cons, done]
      exact inductionHypothesis (fun later member => total later (List.mem_cons_of_mem _ member)) after

/-- A loop whose rounds do on a larger state what the rounds of another loop do
on a part of it. -/
theorem forM_embeds {T I : Type} {E' : Type} {embed : S -> T} {write : I -> A}
    {body : I -> EStateM E S PUnit} {outer : A -> EStateM E' T PUnit} {items : List I} {start finish : S}
    (embeds : forall item, item ∈ items -> forall before after, body item before = .ok ⟨⟩ after ->
      outer (write item) (embed before) = .ok ⟨⟩ (embed after))
    (done : (forM items body : EStateM E S PUnit) start = .ok ⟨⟩ finish) :
    (forM (items.map write) outer : EStateM E' T PUnit) (embed start) = .ok ⟨⟩ (embed finish) := by
  induction items generalizing start with
  | nil =>
      cases done
      rfl
  | cons item items inductionHypothesis =>
      rw [List.forM_cons, bind_eq_ok] at done
      rcases done with ⟨_, between, one, rest⟩
      rw [List.map_cons, List.forM_cons, bind_eq_ok]
      refine ⟨⟨⟩, embed between, embeds item List.mem_cons_self start between one, ?_⟩
      exact inductionHypothesis (fun later member => embeds later (List.mem_cons_of_mem _ member)) rest

/-! ## Moving along a relation -/

/-- Both outcomes of the program are reached along the relation. -/
def Moves (relation : S -> S -> Prop) (program : EStateM E S A) : Prop :=
  forall start, relation start (finalState (program start))

namespace Moves

variable {relation : S -> S -> Prop}

theorem ok_related {program : EStateM E S A} (moves : Moves relation program)
    {start finish : S} {value : A} (done : program start = .ok value finish) :
    relation start finish := by
  have reached := moves start
  rw [done] at reached
  exact reached

theorem pure (reflexive : forall state, relation state state) (value : A) :
    Moves relation (Pure.pure value : EStateM E S A) :=
  fun start => reflexive start

theorem fromExcept (reflexive : forall state, relation state state) (result : Except E A) :
    Moves relation (Execution.fromExcept result : EStateM E S A) := by
  intro start
  unfold Execution.fromExcept
  cases result <;> exact reflexive start

theorem mapError {program : EStateM E S A} (moves : Moves relation program)
    (translate : E -> E') : Moves relation (Execution.mapError translate program) := by
  intro start
  have reached := moves start
  unfold Execution.mapError
  cases outcome : program start with
  | ok value after => rw [outcome] at reached; exact reached
  | error error after => rw [outcome] at reached; exact reached

/-- The continuation has to move only from states the first part can leave. -/
theorem bind (transitive : forall a b c, relation a b -> relation b c -> relation a c)
    {first : EStateM E S A} {rest : A -> EStateM E S B} (firstMoves : Moves relation first)
    (restMoves : forall value start middle, first start = .ok value middle ->
      relation middle (finalState (rest value middle))) :
    Moves relation (first >>= rest) := by
  intro start
  have reached := firstMoves start
  change relation start (finalState (EStateM.bind first rest start))
  unfold EStateM.bind
  cases outcome : first start with
  | ok value middle =>
      rw [outcome] at reached
      exact transitive _ _ _ reached (restMoves value start middle outcome)
  | error error middle => rw [outcome] at reached; exact reached

theorem forM (reflexive : forall state, relation state state)
    (transitive : forall a b c, relation a b -> relation b c -> relation a c)
    {items : List A} {body : A -> EStateM E S PUnit}
    (bodyMoves : forall item, item ∈ items -> Moves relation (body item)) :
    Moves relation (ForM.forM items body) := by
  induction items with
  | nil => exact Moves.pure reflexive PUnit.unit
  | cons item items inductionHypothesis =>
      rw [List.forM_cons]
      refine Moves.bind transitive (bodyMoves item List.mem_cons_self) ?_
      intro _ _ middle _
      exact inductionHypothesis (fun later member =>
        bodyMoves later (List.mem_cons_of_mem _ member)) middle

/-- A component moves as its own program does. -/
theorem focus {T : Type} {whole : T -> T -> Prop} {get : T -> S} {put : S -> T -> T}
    {program : EStateM E S A} (moves : Moves relation program)
    (lifts : forall start part, relation (get start) part -> whole start (put part start)) :
    Moves whole (Execution.focus get put program) := by
  intro start
  have reached := moves (get start)
  unfold Execution.focus
  cases outcome : program (get start) with
  | ok value part => rw [outcome] at reached; exact lifts start part reached
  | error error part => rw [outcome] at reached; exact lifts start part reached

end Moves

end Execution
end TransactionalCollection
