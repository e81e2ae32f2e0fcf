import TransactionalCollection.Execution.Traversals

namespace TransactionalCollection
namespace Execution

/-!
# Filling a buffer from its start

A loop which writes the cells of a buffer one after another, and each of them once,
leaves in each cell what was written to it.  Cells are counted across the lines of
nested loops: the cell of a column is its line's first, and as many as the columns
before it.
-/

section Filling

variable {A C S : Type}

namespace Ends

variable {allowed : C -> Prop}

/-- An invariant of a loop, by the number of its rounds. -/
theorem foldlM_range (keeps : Nat -> S -> Prop) {step : S -> Nat -> Except C S} {start : S} {count : Nat}
    (starts : keeps 0 start)
    (steps : forall index state, index < count -> keeps index state ->
      Ends (keeps (index + 1)) allowed (step state index)) :
    Ends (keeps count) allowed ((List.range count).foldlM step start) := by
  induction count with
  | zero => exact starts
  | succ count inductionHypothesis =>
      rw [List.range_succ, List.foldlM_append]
      apply bind (inductionHypothesis ?_)
      · intro state kept
        rw [List.foldlM_cons]
        apply bind (steps count state (Nat.lt_succ_self count) kept)
        intro next held
        exact held
      · intro index state inside
        exact steps index state (Nat.lt_succ_of_lt inside)

end Ends

/-- A loop of which every step is known. -/
theorem foldlM_eq_ok_foldl {step : S -> A -> Except C S} {next : S -> A -> S} {items : List A} (start : S)
    (steps : forall state item, item ∈ items -> step state item = .ok (next state item)) :
    items.foldlM step start = .ok (items.foldl next start) := by
  induction items generalizing start with
  | nil => rfl
  | cons item items inductionHypothesis =>
      rw [List.foldlM_cons, steps start item List.mem_cons_self, List.foldl_cons]
      apply inductionHypothesis
      intro state other member
      exact steps state other (List.mem_cons_of_mem _ member)

/-- The first cells of a buffer hold their values. -/
def Filled (value : Nat -> A) (length count : Nat) (buffer : List A) : Prop :=
  buffer.length = length ∧ forall cell, cell < count -> buffer[cell]? = some (value cell)

namespace Filled

variable {value : Nat -> A} {length count : Nat} {buffer : List A}

theorem empty (sized : buffer.length = length) : Filled value length 0 buffer := by
  refine ⟨sized, ?_⟩
  intro cell impossible
  cases impossible

theorem set (filled : Filled value length count buffer) (inside : count < length) :
    Filled value length (count + 1) (buffer.set count (value count)) := by
  rcases filled with ⟨sized, held⟩
  refine ⟨by rw [List.length_set, sized], ?_⟩
  intro cell below
  by_cases last : cell = count
  · rw [last]
    apply List.getElem?_set_self
    rwa [sized]
  · rw [List.getElem?_set_ne (fun same => last same.symm)]
    apply held
    omega

/-- A buffer which is full holds the values of its cells. -/
theorem eq_map (filled : Filled value length length buffer) : buffer = (List.range length).map value := by
  apply List.ext_getElem?
  intro cell
  rw [List.getElem?_map]
  by_cases inside : cell < length
  · rw [filled.2 cell inside, List.getElem?_range inside]
    rfl
  · have beyond : length ≤ cell := Nat.le_of_not_lt inside
    rw [List.getElem?_eq_none (by rwa [filled.1]), List.getElem?_eq_none (by rwa [List.length_range])]
    rfl

/-- Lines of cells, written one after another. -/
theorem lines {rows cols : Nat} {write : Nat -> Nat -> List A -> Except C (List A)}
    {allowed : C -> Prop} (filled : Filled value length count buffer)
    (writes : forall row col (out : List A), row < rows -> col < cols -> out.length = length ->
      count + row * cols + col < length ∧
        write row col out = .ok (out.set (count + row * cols + col) (value (count + row * cols + col)))) :
    Ends (Filled value length (count + rows * cols)) allowed
      ((List.range rows).foldlM (fun out row => (List.range cols).foldlM (fun out col => write row col out) out)
        buffer) := by
  apply Ends.foldlM_range (fun row => Filled value length (count + row * cols))
  · rwa [Nat.zero_mul, Nat.add_zero]
  · intro row out rowInside lineFilled
    rw [Nat.succ_mul, ← Nat.add_assoc]
    apply Ends.foldlM_range (fun col => Filled value length (count + row * cols + col)) lineFilled
    intro col next colInside cellFilled
    rcases writes row col next rowInside colInside cellFilled.1 with ⟨inside, written⟩
    exact Ends.of_ok written (cellFilled.set inside)

end Filled

end Filling

end Execution
end TransactionalCollection
