import Mathlib.Data.List.Forall2
import TransactionalCollection.Execution.Stateful

namespace TransactionalCollection
namespace Execution

/-!
# Traversals which may fail

A traversal of a list succeeds if and only if each of its steps does, and then its
results stand where their items did.  A loop keeps what each of its rounds keeps, up
to the errors which these may end in.
-/

section Lists

variable {A B C : Type} {related : A -> B -> Prop}

theorem exists_forall₂_iff {items : List A} : (exists others, List.Forall₂ related items others) <->
    forall item, item ∈ items -> exists other, related item other := by
  induction items with
  | nil =>
      apply iff_of_true
      · exact ⟨[], .nil⟩
      · intro item impossible
        cases impossible
  | cons item items inductionHypothesis =>
      rw [List.forall_mem_cons, ← inductionHypothesis]
      constructor
      · intro listed
        rcases listed with ⟨_, listed⟩
        cases listed with
        | cons head tail => exact ⟨⟨_, head⟩, ⟨_, tail⟩⟩
      · intro parts
        rcases parts with ⟨⟨_, head⟩, ⟨_, tail⟩⟩
        exact ⟨_, .cons head tail⟩

/-- A traversal of items which are read as others are. -/
theorem mapM_eq_of_forall₂ {read : A -> Option C} {parse : B -> Option C} {items : List A} {others : List B}
    (listed : List.Forall₂ related items others)
    (reads : forall item other, related item other -> read item = parse other) :
    items.mapM read = others.mapM parse := by
  induction listed with
  | nil => rfl
  | cons head tail inductionHypothesis =>
      rw [List.mapM_cons, List.mapM_cons, reads _ _ head, inductionHypothesis]

theorem mapM_eq_some_iff {parse : A -> Option B} {items : List A} {results : List B} :
    items.mapM parse = some results <->
      List.Forall₂ (fun item result => parse item = some result) items results := by
  induction items generalizing results with
  | nil =>
      rw [List.mapM_nil, List.forall₂_nil_left_iff]
      exact ⟨fun same => (Option.some.inj same).symm, fun same => congrArg some same.symm⟩
  | cons item items inductionHypothesis =>
      rw [List.mapM_cons, List.forall₂_cons_left_iff]
      constructor
      · intro done
        rcases Option.bind_eq_some_iff.mp done with ⟨result, head, rest⟩
        rcases Option.bind_eq_some_iff.mp rest with ⟨later, tail, same⟩
        cases same
        exact ⟨result, later, head, inductionHypothesis.mp tail, rfl⟩
      · intro parts
        rcases parts with ⟨result, later, head, tail, rfl⟩
        rw [head, inductionHypothesis.mpr tail]
        rfl

theorem mapM_isOk_iff {step : A -> Except C B} {items : List A} :
    (exists results, items.mapM step = .ok results) <->
      forall item, item ∈ items -> exists result, step item = .ok result := by
  induction items with
  | nil =>
      apply iff_of_true
      · exact ⟨[], rfl⟩
      · intro item impossible
        cases impossible
  | cons item items inductionHypothesis =>
      rw [List.forall_mem_cons, ← inductionHypothesis, List.mapM_cons]
      constructor
      · intro done
        rcases done with ⟨_, done⟩
        rcases except_bind_eq_ok.mp done with ⟨result, head, rest⟩
        rcases except_bind_eq_ok.mp rest with ⟨later, tail, _⟩
        exact ⟨⟨result, head⟩, ⟨later, tail⟩⟩
      · intro parts
        rcases parts with ⟨⟨result, head⟩, ⟨later, tail⟩⟩
        refine ⟨result :: later, except_bind_eq_ok.mpr ⟨result, head, ?_⟩⟩
        exact except_bind_eq_ok.mpr ⟨later, tail, rfl⟩

/-- A traversal of which every step is known. -/
theorem mapM_eq_ok_map {step : A -> Except C B} {value : A -> B} {items : List A}
    (steps : forall item, item ∈ items -> step item = .ok (value item)) :
    items.mapM step = .ok (items.map value) := by
  induction items with
  | nil => rfl
  | cons item items inductionHypothesis =>
      rcases List.forall_mem_cons.mp steps with ⟨head, tail⟩
      rw [List.mapM_cons, head, inductionHypothesis tail]
      rfl

theorem mapM_congr {step other : A -> Except C B} {items : List A}
    (same : forall item, item ∈ items -> step item = other item) : items.mapM step = items.mapM other := by
  induction items with
  | nil => rfl
  | cons item items inductionHypothesis =>
      rcases List.forall_mem_cons.mp same with ⟨head, tail⟩
      rw [List.mapM_cons, List.mapM_cons, head, inductionHypothesis tail]

theorem except_ok_bind (value : A) (rest : A -> Except C B) : (Except.ok value >>= rest) = rest value := rfl

theorem exists_bind_ok {first : Except C A} {rest : A -> Except C B} (done : exists value, first = .ok value)
    (continues : forall value, exists result, rest value = .ok result) :
    exists result, (first >>= rest) = .ok result := by
  rcases done with ⟨value, rfl⟩
  exact continues value

theorem toOption_eq_some_iff {result : Except C A} {value : A} :
    result.toOption = some value <-> result = .ok value := by
  cases result with
  | error error => simp [Except.toOption]
  | ok found => simp [Except.toOption]

/-- The result of a traversal at each position. -/
theorem mapM_getElem? {step : A -> Except C B} {items : List A} {results : List B}
    (done : items.mapM step = .ok results) : results.length = items.length ∧
      forall (index : Nat) (item : A), items[index]? = some item ->
        exists result, step item = .ok result ∧ results[index]? = some result := by
  induction items generalizing results with
  | nil =>
      cases done
      exact ⟨rfl, by simp⟩
  | cons item items inductionHypothesis =>
      rw [List.mapM_cons] at done
      rcases except_bind_eq_ok.mp done with ⟨result, head, rest⟩
      rcases except_bind_eq_ok.mp rest with ⟨later, tail, same⟩
      cases same
      rcases inductionHypothesis tail with ⟨width, each⟩
      refine ⟨congrArg Nat.succ width, ?_⟩
      intro index other found
      cases index with
      | zero =>
          cases found
          exact ⟨result, head, rfl⟩
      | succ index => exact each index other found

/-! ## How a call ends -/

/-- A value which holds, or an error which is allowed. -/
def Ends (holds : A -> Prop) (allowed : C -> Prop) : Except C A -> Prop
  | .ok value => holds value
  | .error error => allowed error

/-- No error is allowed. -/
def never (_ : C) : Prop := False

namespace Ends

variable {holds middle : A -> Prop} {allowed : C -> Prop}

theorem exists_ok {result : Except C A} (ends : Ends holds never result) :
    exists value, result = .ok value ∧ holds value := by
  cases result with
  | error error => exact ends.elim
  | ok value => exact ⟨value, rfl, ends⟩

theorem of_ok {result : Except C A} {value : A} (done : result = .ok value) (here : holds value) :
    Ends holds allowed result := by
  rw [done]
  exact here

theorem bind {others : B -> Prop} {first : Except C A} {rest : A -> Except C B}
    (starts : Ends middle allowed first)
    (continues : forall value, middle value -> Ends others allowed (rest value)) :
    Ends others allowed (first >>= rest) := by
  cases first with
  | error error => exact starts
  | ok value => exact continues value starts

/-- What each step of a loop keeps, the loop keeps. -/
theorem foldlM {S : Type} (keeps : S -> Prop) {step : S -> A -> Except C S} {items : List A} {start : S}
    (starts : keeps start)
    (steps : forall state item, item ∈ items -> keeps state -> Ends keeps allowed (step state item)) :
    Ends keeps allowed (items.foldlM step start) := by
  induction items generalizing start with
  | nil => exact starts
  | cons item items inductionHypothesis =>
      rw [List.foldlM_cons]
      apply bind (steps start item List.mem_cons_self starts)
      intro next kept
      apply inductionHypothesis kept
      intro state other member
      exact steps state other (List.mem_cons_of_mem _ member)

/-- Where each step ends well, a traversal ends with as many results as there are items. -/
theorem mapM {step : A -> Except C B} {items : List A}
    (steps : forall item, item ∈ items -> Ends (fun _ => True) allowed (step item)) :
    Ends (fun results => results.length = items.length) allowed (items.mapM step) := by
  induction items with
  | nil => exact rfl
  | cons item items inductionHypothesis =>
      rcases List.forall_mem_cons.mp steps with ⟨head, tail⟩
      rw [List.mapM_cons]
      apply head.bind
      intro result _
      apply (inductionHypothesis tail).bind
      intro results width
      exact congrArg Nat.succ width

end Ends

end Lists

end Execution
end TransactionalCollection
