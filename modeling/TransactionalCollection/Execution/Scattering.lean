import TransactionalCollection.Execution.Filling

namespace TransactionalCollection
namespace Execution

/-!
# Scattering items over cells

Each item of a list updates the one cell which its index names.  A cell ends with the
items of its own index folded into it, in the order of the list, whatever the other
items do in between.
-/

section Scattering

variable {A C S : Type}

/-- The items of one cell, in order. -/
def landing (index : A -> Nat) (items : List A) (cell : Nat) : List A :=
  items.filter (fun item => index item == cell)

theorem landing_cons_self {index : A -> Nat} {item : A} (items : List A) {cell : Nat} (here : index item = cell) :
    landing index (item :: items) cell = item :: landing index items cell := by
  apply List.filter_cons_of_pos
  rw [here]
  exact beq_self_eq_true cell

theorem landing_cons_ne {index : A -> Nat} {item : A} (items : List A) {cell : Nat} (elsewhere : index item ≠ cell) :
    landing index (item :: items) cell = landing index items cell := by
  apply List.filter_cons_of_neg
  simpa using elsewhere

/-- What a cell holds after all items have landed. -/
theorem foldlM_scatter (index : A -> Nat) (update : S -> A -> S) (other : S)
    {step : List S -> A -> Except C (List S)} {items : List A} {start : List S}
    (inside : forall item, item ∈ items -> index item < start.length)
    (steps : forall acc item, item ∈ items -> acc.length = start.length ->
      step acc item = .ok (acc.set (index item) (update (acc.getD (index item) other) item))) :
    exists out, items.foldlM step start = .ok out ∧ out.length = start.length ∧
      forall cell, cell < start.length -> out[cell]? =
        some ((landing index items cell).foldl update (start.getD cell other)) := by
  induction items generalizing start with
  | nil =>
      refine ⟨start, rfl, rfl, ?_⟩
      intro cell below
      rw [List.getD_eq_getElem?_getD, List.getElem?_eq_getElem below]
      rfl
  | cons item items inductionHypothesis =>
      rcases List.forall_mem_cons.mp inside with ⟨first, rest⟩
      have width : (start.set (index item) (update (start.getD (index item) other) item)).length =
          start.length := List.length_set
      have later : exists out, items.foldlM step
          (start.set (index item) (update (start.getD (index item) other) item)) = .ok out ∧
          out.length = (start.set (index item) (update (start.getD (index item) other) item)).length ∧
          forall cell, cell < (start.set (index item) (update (start.getD (index item) other) item)).length ->
            out[cell]? = some ((landing index items cell).foldl update
              ((start.set (index item) (update (start.getD (index item) other) item)).getD cell other)) := by
        apply inductionHypothesis
        · intro next member
          rw [width]
          exact rest next member
        · intro acc next member same
          exact steps acc next (List.mem_cons_of_mem _ member) (same.trans width)
      rcases later with ⟨out, done, length, cells⟩
      refine ⟨out, ?_, length.trans width, ?_⟩
      · rw [List.foldlM_cons, steps start item List.mem_cons_self rfl]
        exact done
      · intro cell below
        rw [cells cell (by rwa [width])]
        by_cases here : index item = cell
        · rw [landing_cons_self items here, List.foldl_cons, ← here, List.getD_eq_getElem?_getD,
            List.getElem?_set_self first]
          rfl
        · rw [landing_cons_ne items here, List.getD_eq_getElem?_getD, List.getElem?_set_ne here,
            ← List.getD_eq_getElem?_getD]

end Scattering

end Execution
end TransactionalCollection
