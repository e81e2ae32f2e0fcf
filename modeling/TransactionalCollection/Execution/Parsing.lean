import TransactionalCollection.Execution.Traversals

namespace TransactionalCollection
namespace Execution

/-!
# Calls which read their argument

A call reads what is described by a relation: it yields a value if and only if the value
is described, and ends in an error which is allowed where none is.  Calls in a row read
what they read one after another, and a traversal reads what its steps read.
-/

variable {A B C : Type}

/-- Exactly what is described is read, and each error is allowed. -/
structure Parses (reads : A -> Prop) (allowed : C -> Prop) (result : Except C A) : Prop where
  ok_iff : forall value, result = .ok value <-> reads value
  error : forall error, result = .error error -> allowed error

namespace Parses

variable {reads : A -> Prop} {allowed : C -> Prop} {result : Except C A}

theorem ok (value : A) : Parses (fun other => value = other) allowed (.ok value) where
  ok_iff other := by rw [Except.ok.injEq]
  error error impossible := by cases impossible

theorem failed {error : C} (here : allowed error) (missing : forall value, ¬ reads value) :
    Parses reads allowed (.error error) where
  ok_iff value := iff_of_false (fun impossible => by cases impossible) (missing value)
  error other same := by
    cases same
    exact here

/-- A call described by how it ends. -/
theorem of_call (here : forall error, result = .error error -> allowed error) :
    Parses (fun value => result = .ok value) allowed result := ⟨fun _ => Iff.rfl, here⟩

theorem congr {others : A -> Prop} (parses : Parses reads allowed result)
    (same : forall value, reads value <-> others value) : Parses others allowed result :=
  ⟨fun value => (parses.ok_iff value).trans (same value), parses.error⟩

theorem exists_ok (parses : Parses reads allowed result) {value : A} (here : reads value) :
    result = .ok value := (parses.ok_iff value).mpr here

theorem ends (parses : Parses reads allowed result) : Ends reads allowed result := by
  cases outcome : result with
  | error error => exact parses.error error outcome
  | ok value => exact (parses.ok_iff value).mp outcome

/-- Where nothing is described, the call ends in an error. -/
theorem refuses (parses : Parses reads allowed result) (missing : forall value, ¬ reads value) :
    exists error, result = .error error ∧ allowed error := by
  cases outcome : result with
  | error error => exact ⟨error, rfl, parses.error error outcome⟩
  | ok value => exact absurd ((parses.ok_iff value).mp outcome) (missing value)

theorem bind {rest : A -> Except C B} {later : A -> B -> Prop} (parses : Parses reads allowed result)
    (continues : forall value, reads value -> Parses (later value) allowed (rest value)) :
    Parses (fun last => exists value, reads value ∧ later value last) allowed (result >>= rest) where
  ok_iff last := by
    rw [except_bind_eq_ok]
    constructor
    · intro done
      rcases done with ⟨value, first, second⟩
      have here := (parses.ok_iff value).mp first
      exact ⟨value, here, ((continues value here).ok_iff last).mp second⟩
    · intro described
      rcases described with ⟨value, here, there⟩
      exact ⟨value, (parses.ok_iff value).mpr here, ((continues value here).ok_iff last).mpr there⟩
  error error ended := by
    cases outcome : result with
    | error first =>
        rw [outcome] at ended
        cases ended
        exact parses.error _ outcome
    | ok value =>
        rw [outcome] at ended
        exact (continues value ((parses.ok_iff value).mp outcome)).error error ended

theorem map (image : A -> B) (parses : Parses reads allowed result) :
    Parses (fun last => exists value, reads value ∧ image value = last) allowed (result.map image) where
  ok_iff last := by
    constructor
    · intro done
      cases outcome : result with
      | error error =>
          rw [outcome] at done
          cases done
      | ok value =>
          rw [outcome] at done
          exact ⟨value, (parses.ok_iff value).mp outcome, Except.ok.inj done⟩
    · intro described
      rcases described with ⟨value, here, rfl⟩
      rw [(parses.ok_iff value).mpr here]
      rfl
  error error ended := by
    cases outcome : result with
    | error first =>
        rw [outcome] at ended
        cases ended
        exact parses.error _ outcome
    | ok value =>
        rw [outcome] at ended
        cases ended

/-- A traversal reads each item. -/
theorem mapM {step : A -> Except C B} {reads : A -> B -> Prop} {items : List A}
    (steps : forall item, item ∈ items -> Parses (reads item) allowed (step item)) :
    Parses (List.Forall₂ reads items) allowed (items.mapM step) := by
  induction items with
  | nil =>
      apply (ok []).congr
      intro others
      rw [List.forall₂_nil_left_iff, eq_comm]
  | cons item items inductionHypothesis =>
      rcases List.forall_mem_cons.mp steps with ⟨head, tail⟩
      rw [List.mapM_cons]
      apply (bind head (fun first _ => bind (inductionHypothesis tail) (fun rest _ => ok (first :: rest)))).congr
      intro others
      constructor
      · intro described
        rcases described with ⟨first, here, rest, there, rfl⟩
        exact .cons here there
      · intro listed
        cases listed with
        | cons here there => exact ⟨_, here, _, there, rfl⟩

/-- Two traversals, one after the other. -/
theorem forall₂_exists_iff {first : A -> B -> Prop} {second : B -> C -> Prop} {items : List A} {results : List C} :
    List.Forall₂ (fun item result => exists middle, first item middle ∧ second middle result) items results <->
      exists middles, List.Forall₂ first items middles ∧ List.Forall₂ second middles results := by
  constructor
  · intro listed
    induction listed with
    | nil => exact ⟨[], .nil, .nil⟩
    | cons head tail inductionHypothesis =>
        rcases head with ⟨middle, here, there⟩
        rcases inductionHypothesis with ⟨middles, heres, theres⟩
        exact ⟨middle :: middles, .cons here heres, .cons there theres⟩
  · intro listed
    rcases listed with ⟨middles, heres, theres⟩
    induction heres generalizing results with
    | nil =>
        cases theres
        exact .nil
    | cons here heres inductionHypothesis =>
        cases theres with
        | cons there theres => exact .cons ⟨_, here, there⟩ (inductionHypothesis theres)

/-- A choice by a condition. -/
theorem ite {condition : Prop} [Decidable condition] {first second : Except C A}
    (yes : condition -> Parses reads allowed first) (no : ¬ condition -> Parses reads allowed second) :
    Parses reads allowed (if condition then first else second) := by
  by_cases holds : condition
  · rw [if_pos holds]
    exact yes holds
  · rw [if_neg holds]
    exact no holds

end Parses

end Execution
end TransactionalCollection
