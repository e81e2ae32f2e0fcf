import Mathlib.Data.List.Basic

namespace TransactionalCollection
namespace Layering

/-!
# Overlays on a finite map

An overlay answers some keys and lets the others through to whatever lies
below it.  An answer is either a new binding or the absence of one, so a layer
can hide a binding as well as replace it.  Reading a stack of overlays over a
base view is the general form of every layered lookup: the topmost layer that
answers a key decides it, and the base decides the keys nobody answers.

The useful consequence is absorption.  A change to the base is invisible as
long as it stays under keys which some layer of the stack answers, however
much of it has happened.
-/

variable {K V : Type}

/-- What a base map binds a key to. -/
abbrev View (K V : Type) := K -> Option V

/-- `none` lets a key through, `some answer` decides it. -/
abbrev Overlay (K V : Type) := K -> Option (Option V)

namespace Overlay

/-- The layer which answers no key. -/
def transparent : Overlay K V := fun _ => none

/-- Read one layer over a view. -/
def read (layer : Overlay K V) (below : View K V) : View K V :=
  fun key => (layer key).getD (below key)

@[simp] theorem transparent_read (below : View K V) :
    (transparent : Overlay K V).read below = below := rfl

theorem read_of_silent {layer : Overlay K V} {below : View K V} {key : K}
    (silent : layer key = none) : layer.read below key = below key := by
  rw [read, silent]
  rfl

theorem read_of_answer {layer : Overlay K V} {below : View K V} {key : K} {answer : Option V}
    (answers : layer key = some answer) : layer.read below key = answer := by
  rw [read, answers]
  rfl

/-- The layer which hides all of a view. -/
def hides (view : View K V) : Overlay K V := fun key => (view key).map (fun _ => none)

theorem hides_read (view : View K V) : (hides view).read view = fun _ => none := by
  funext key
  rw [read, hides]
  cases view key with
  | none => rfl
  | some value => rfl

end Overlay

/-- Read a stack of layers, the lowest layer first. -/
def stack (layers : List (Overlay K V)) (base : View K V) : View K V :=
  layers.foldl (fun below layer => layer.read below) base

@[simp] theorem stack_nil (base : View K V) : stack [] base = base := rfl

@[simp] theorem stack_cons (layer : Overlay K V) (layers : List (Overlay K V))
    (base : View K V) : stack (layer :: layers) base = stack layers (layer.read base) := rfl

theorem stack_append (lower upper : List (Overlay K V)) (base : View K V) :
    stack (lower ++ upper) base = stack upper (stack lower base) :=
  List.foldl_append

/-- Absorption at one key: the base may change there once a layer answers it. -/
theorem stack_congr_base {layers : List (Overlay K V)} {left right : View K V} {key : K}
    (agree : left key = right key ∨ exists layer, layer ∈ layers ∧ layer key ≠ none) :
    stack layers left key = stack layers right key := by
  induction layers generalizing left right with
  | nil =>
      rcases agree with same | ⟨layer, member, _⟩
      · exact same
      · exact False.elim (List.not_mem_nil member)
  | cons layer layers inductionHypothesis =>
      rw [stack_cons, stack_cons]
      apply inductionHypothesis
      cases answer : layer key with
      | some decided =>
          exact Or.inl ((Overlay.read_of_answer answer).trans
            (Overlay.read_of_answer answer).symm)
      | none =>
          rw [Overlay.read_of_silent answer, Overlay.read_of_silent answer]
          rcases agree with same | ⟨answering, member, answers⟩
          · exact Or.inl same
          · rcases List.mem_cons.mp member with here | later
            · exact False.elim (answers (here ▸ answer))
            · exact Or.inr ⟨answering, later, answers⟩

/-- Absorption for a whole view. -/
theorem stack_absorb {layers : List (Overlay K V)} {left right : View K V}
    (agree : forall key, left key = right key ∨ exists layer, layer ∈ layers ∧ layer key ≠ none) :
    stack layers left = stack layers right :=
  funext (fun key => stack_congr_base (agree key))

/-- A stack shows a binding which nothing above answers, and nothing else. -/
theorem stack_map_eq_some_iff {I : Type} {layerOf : I -> Overlay K V} {items : List I} {base : View K V}
    {key : K} {value : V} :
    stack (items.map layerOf) base key = some value <->
      (base key = some value ∧ forall item, item ∈ items -> layerOf item key = none) ∨
        exists below item above, items = below ++ item :: above ∧ layerOf item key = some (some value) ∧
          forall later, later ∈ above -> layerOf later key = none := by
  induction items generalizing base with
  | nil => simp
  | cons item items inductionHypothesis =>
      rw [List.map_cons, stack_cons, inductionHypothesis, List.forall_mem_cons]
      constructor
      · intro shown
        rcases shown with ⟨found, silent⟩ | ⟨below, other, above, split, decides, silent⟩
        · cases answer : layerOf item key with
          | none =>
              rw [Overlay.read_of_silent answer] at found
              exact Or.inl ⟨found, rfl, silent⟩
          | some decided =>
              rw [Overlay.read_of_answer answer] at found
              exact Or.inr ⟨[], item, items, rfl, answer.trans (congrArg some found), silent⟩
        · exact Or.inr ⟨item :: below, other, above, congrArg (List.cons item) split, decides, silent⟩
      · intro shown
        rcases shown with ⟨found, quiet, silent⟩ | ⟨below, other, above, split, decides, silent⟩
        · left
          rw [Overlay.read_of_silent quiet]
          exact ⟨found, silent⟩
        · cases below with
          | nil =>
              cases split
              left
              rw [Overlay.read_of_answer decides]
              exact ⟨rfl, silent⟩
          | cons first below =>
              cases split
              exact Or.inr ⟨below, other, above, rfl, decides, silent⟩

/-- A stack binds keys only as its base and its layers do. -/
theorem stack_binds {proper : K -> V -> Prop} {layers : List (Overlay K V)} {base : View K V}
    (below : forall key value, base key = some value -> proper key value)
    (above : forall layer, layer ∈ layers ->
      forall key value, layer key = some (some value) -> proper key value) {key : K} {value : V}
    (bound : stack layers base key = some value) : proper key value := by
  have shown : stack (layers.map id) base key = some value := by
    rw [List.map_id]
    exact bound
  rcases stack_map_eq_some_iff.mp shown with ⟨found, _⟩ | ⟨lower, layer, upper, split, decides, _⟩
  · exact below key value found
  · apply above layer ?_ key value decides
    rw [split]
    exact List.mem_append_right lower List.mem_cons_self

end Layering
end TransactionalCollection
