import Mathlib.Data.List.Sort
import Std.Data.ExtTreeMap

namespace TransactionalCollection
namespace Streaming

open Std

/-!
# Merging and subtracting sorted streams

A stream is the list of the items it will yield.  Two operators combine sorted
streams under one comparator: the merge yields the items of both sides and
keeps only the left item where two compare equal, the difference drops the
left items which compare equal to an item on the right.  Nothing is promised
about unsorted input, and equal items need not be identical.

The operators are a parameter with their contract as fields.  What follows
from the contract is split by how much the comparator distinguishes.  For any
comparator there are membership laws.  For a comparator which is strict on
both inputs the result is strict as well, and then its members determine it.
-/

variable {A : Type}

/-- Sorted under a comparator, with ties allowed. -/
def Ascending (cmp : A -> A -> Ordering) (stream : List A) : Prop :=
  stream.Pairwise (fun first second => cmp first second ≠ .gt)

/-- Sorted under a comparator without ties. -/
def StrictlyAscending (cmp : A -> A -> Ordering) (stream : List A) : Prop :=
  stream.Pairwise (fun first second => cmp first second = .lt)

/-- A stream in the order it would have without its direction. -/
def forward (reverse : Bool) (stream : List A) : List A :=
  if reverse then stream.reverse else stream

@[simp] theorem mem_forward {reverse : Bool} {stream : List A} {item : A} :
    item ∈ forward reverse stream <-> item ∈ stream := by
  cases reverse with
  | false => exact Iff.rfl
  | true => exact List.mem_reverse

/-- No item of the stream compares equal to this one. -/
def Unmatched (cmp : A -> A -> Ordering) (stream : List A) (item : A) : Prop :=
  forall other, other ∈ stream -> cmp other item ≠ .eq

/-- The same test, as the operators perform it. -/
def unmatched (cmp : A -> A -> Ordering) (stream : List A) (item : A) : Bool :=
  stream.all (fun other => cmp other item != .eq)

theorem unmatched_iff {cmp : A -> A -> Ordering} {stream : List A} {item : A} :
    unmatched cmp stream item = true <-> Unmatched cmp stream item := by
  simp only [unmatched, Unmatched, List.all_eq_true, bne_iff_ne]

/-- The two stream operators and what is relied on about them. -/
structure StreamOps where
  tryMerge : {A : Type} -> (A -> A -> Ordering) -> List A -> List A -> List A
  tryDiff : {A : Type} -> (A -> A -> Ordering) -> List A -> List A -> List A
  merge_ascending : forall {A : Type} (cmp : A -> A -> Ordering) [TransCmp cmp]
    (left right : List A), Ascending cmp left -> Ascending cmp right ->
    Ascending cmp (tryMerge cmp left right)
  merge_perm : forall {A : Type} (cmp : A -> A -> Ordering) [TransCmp cmp]
    (left right : List A), Ascending cmp left -> Ascending cmp right ->
    (tryMerge cmp left right).Perm (left ++ right.filter (unmatched cmp left))
  diff_eq : forall {A : Type} (cmp : A -> A -> Ordering) [TransCmp cmp]
    (left right : List A), Ascending cmp left -> Ascending cmp right ->
    tryDiff cmp left right = left.filter (unmatched cmp right)

/-- Sorting by a comparator makes a stream ascending. -/
theorem ascending_insertionSort (cmp : A -> A -> Ordering) [TransCmp cmp] (items : List A) :
    Ascending cmp (items.insertionSort (fun first second => cmp first second ≠ .gt)) := by
  have total : Std.Total (fun first second : A => cmp first second ≠ .gt) := by
    refine ⟨fun first second => ?_⟩
    have swap : cmp second first = (cmp first second).swap := OrientedCmp.eq_swap
    rw [swap]
    cases cmp first second <;> simp
  have trans : IsTrans A (fun first second : A => cmp first second ≠ .gt) := by
    refine ⟨fun first second third low high => ?_⟩
    exact Ordering.isLE_iff_ne_gt.mp
      (TransCmp.isLE_trans (Ordering.isLE_iff_ne_gt.mpr low) (Ordering.isLE_iff_ne_gt.mpr high))
  exact List.pairwise_insertionSort _ _

/-- A reference implementation: put the surviving right items after the left
ones and sort stably. -/
def StreamOps.reference : StreamOps where
  tryMerge cmp left right :=
    (left ++ right.filter (unmatched cmp left)).insertionSort
      (fun first second => cmp first second ≠ .gt)
  tryDiff cmp left right := left.filter (unmatched cmp right)
  merge_ascending := by
    intro A cmp _ left right _ _
    exact ascending_insertionSort cmp _
  merge_perm := by
    intro A cmp _ left right _ _
    exact List.perm_insertionSort _ _
  diff_eq := by
    intros
    rfl

section Laws

variable (ops : StreamOps) {cmp : A -> A -> Ordering} [TransCmp cmp] {left right : List A}

omit [TransCmp cmp] in
theorem StrictlyAscending.ascending {stream : List A}
    (strict : StrictlyAscending cmp stream) : Ascending cmp stream :=
  strict.imp (fun less => by rw [less]; decide)

theorem StrictlyAscending.nodup {stream : List A}
    (strict : StrictlyAscending cmp stream) : stream.Nodup := by
  refine strict.imp (fun {first second} less same => ?_)
  subst same
  have same : cmp first first = .eq := ReflCmp.compare_self
  rw [same] at less
  cases less

/-- Two strict streams with the same members are the same stream. -/
theorem StrictlyAscending.ext {first second : List A}
    (firstStrict : StrictlyAscending cmp first) (secondStrict : StrictlyAscending cmp second)
    (same : forall item, item ∈ first <-> item ∈ second) : first = second := by
  have antisymmetric : forall a b, a ∈ first -> b ∈ second -> cmp a b = .lt -> cmp b a = .lt -> a = b :=
    fun _ _ _ _ less greater => False.elim (OrientedCmp.not_lt_of_lt less greater)
  exact List.Perm.eq_of_pairwise antisymmetric firstStrict secondStrict
    ((List.perm_ext_iff_of_nodup firstStrict.nodup secondStrict.nodup).mpr same)

omit [TransCmp cmp] in
/-- A stream against the order of a comparator, read backwards. -/
theorem StrictlyAscending.reversed {backward : A -> A -> Ordering} {stream : List A}
    (flips : forall first second, backward first second = cmp second first)
    (strict : StrictlyAscending backward stream) : StrictlyAscending cmp stream.reverse := by
  rw [StrictlyAscending, List.pairwise_reverse]
  apply strict.imp
  intro first second less
  exact (flips first second).symm.trans less

theorem mem_tryMerge_iff (leftSorted : Ascending cmp left) (rightSorted : Ascending cmp right)
    (item : A) : item ∈ ops.tryMerge cmp left right <->
      item ∈ left ∨ item ∈ right ∧ Unmatched cmp left item := by
  rw [(ops.merge_perm cmp left right leftSorted rightSorted).mem_iff, List.mem_append,
    List.mem_filter, unmatched_iff]

theorem mem_tryDiff_iff (leftSorted : Ascending cmp left) (rightSorted : Ascending cmp right)
    (item : A) : item ∈ ops.tryDiff cmp left right <->
      item ∈ left ∧ Unmatched cmp right item := by
  rw [ops.diff_eq cmp left right leftSorted rightSorted, List.mem_filter, unmatched_iff]

theorem tryDiff_ascending (leftSorted : Ascending cmp left) (rightSorted : Ascending cmp right) :
    Ascending cmp (ops.tryDiff cmp left right) := by
  rw [ops.diff_eq cmp left right leftSorted rightSorted]
  exact leftSorted.filter _

/-- A merge yields nothing twice when neither side does: whatever is on both
sides compares equal to itself and is dropped from the right. -/
theorem tryMerge_nodup (leftSorted : Ascending cmp left) (rightSorted : Ascending cmp right)
    (leftNodup : left.Nodup) (rightNodup : right.Nodup) :
    (ops.tryMerge cmp left right).Nodup := by
  rw [(ops.merge_perm cmp left right leftSorted rightSorted).nodup_iff, List.nodup_append]
  refine ⟨leftNodup, rightNodup.filter _, ?_⟩
  intro item inLeft other inRight same
  subst same
  have apart := unmatched_iff.mp (List.mem_filter.mp inRight).2
  exact apart item inLeft ReflCmp.compare_self

theorem tryDiff_nodup (leftSorted : Ascending cmp left) (rightSorted : Ascending cmp right)
    (leftNodup : left.Nodup) : (ops.tryDiff cmp left right).Nodup := by
  rw [ops.diff_eq cmp left right leftSorted rightSorted]
  exact leftNodup.filter _

theorem tryDiff_strictlyAscending (leftStrict : StrictlyAscending cmp left)
    (rightStrict : StrictlyAscending cmp right) :
    StrictlyAscending cmp (ops.tryDiff cmp left right) := by
  rw [ops.diff_eq cmp left right leftStrict.ascending rightStrict.ascending]
  exact leftStrict.filter _

theorem tryMerge_strictlyAscending (leftStrict : StrictlyAscending cmp left)
    (rightStrict : StrictlyAscending cmp right) :
    StrictlyAscending cmp (ops.tryMerge cmp left right) := by
  have sorted := ops.merge_ascending cmp left right leftStrict.ascending rightStrict.ascending
  have distinct : (ops.tryMerge cmp left right).Pairwise
      (fun first second => cmp first second ≠ .eq) := by
    have symmetric : forall {first second : A},
        cmp first second ≠ .eq -> cmp second first ≠ .eq := by
      intro first second apart same
      exact apart (OrientedCmp.eq_symm same)
    rw [(ops.merge_perm cmp left right leftStrict.ascending
      rightStrict.ascending).pairwise_iff symmetric, List.pairwise_append]
    refine ⟨leftStrict.imp (fun less => by rw [less]; decide),
      (rightStrict.filter _).imp (fun less => by rw [less]; decide), ?_⟩
    intro item inLeft other inRight
    exact unmatched_iff.mp (List.mem_filter.mp inRight).2 item inLeft
  refine (sorted.and distinct).imp (fun {first second} both => ?_)
  cases compared : cmp first second with
  | lt => rfl
  | eq => exact False.elim (both.2 compared)
  | gt => exact False.elim (both.1 compared)

omit [TransCmp cmp] in
/-- Under a comparator whose equal items are identical, unmatched is absent. -/
theorem unmatched_iff_not_mem [LawfulEqCmp cmp] {stream : List A} {item : A} :
    Unmatched cmp stream item <-> item ∉ stream := by
  constructor
  · intro apart member
    exact apart item member ReflCmp.compare_self
  · intro absent other member same
    exact absent (LawfulEqCmp.eq_of_compare same ▸ member)

end Laws

/-! ## Scanning layers of streams -/

/-- One layer of a scan: what it adds and what it hides. -/
structure StreamLayer (A : Type) where
  inserted : List A
  deleted : List A

namespace StreamLayer

variable (ops : StreamOps) (cmp : A -> A -> Ordering)

/-- Merge a layer's additions over a stream, then subtract what it hides. -/
def mergeInto (layer : StreamLayer A) (rows : List A) : List A :=
  ops.tryDiff cmp (ops.tryMerge cmp layer.inserted rows) layer.deleted

/-- The comparator finds neither an addition nor a deletion equal to the item. -/
def Passes (layer : StreamLayer A) (item : A) : Prop :=
  Unmatched cmp layer.inserted item ∧ Unmatched cmp layer.deleted item

/-- Both streams of the layer arrive sorted and without repetition. -/
structure Sorted (layer : StreamLayer A) : Prop where
  inserted : Ascending cmp layer.inserted
  deleted : Ascending cmp layer.deleted
  nodup : layer.inserted.Nodup

end StreamLayer

/-- Scan a base stream through layers, the lowest layer first. -/
def scan (ops : StreamOps) (cmp : A -> A -> Ordering) (layers : List (StreamLayer A))
    (rows : List A) : List A :=
  layers.foldl (fun below layer => layer.mergeInto ops cmp below) rows

section Scan

variable (ops : StreamOps) {cmp : A -> A -> Ordering} [TransCmp cmp]

theorem StreamLayer.mergeInto_ascending {layer : StreamLayer A} {rows : List A}
    (layerSorted : layer.Sorted cmp) (sorted : Ascending cmp rows) :
    Ascending cmp (layer.mergeInto ops cmp rows) :=
  tryDiff_ascending ops (ops.merge_ascending cmp _ _ layerSorted.inserted sorted)
    layerSorted.deleted

theorem StreamLayer.mergeInto_nodup {layer : StreamLayer A} {rows : List A}
    (layerSorted : layer.Sorted cmp) (sorted : Ascending cmp rows) (nodup : rows.Nodup) :
    (layer.mergeInto ops cmp rows).Nodup :=
  tryDiff_nodup ops (ops.merge_ascending cmp _ _ layerSorted.inserted sorted) layerSorted.deleted
    (tryMerge_nodup ops layerSorted.inserted sorted layerSorted.nodup nodup)

theorem StreamLayer.mem_mergeInto_iff {layer : StreamLayer A} {rows : List A}
    (layerSorted : layer.Sorted cmp) (sorted : Ascending cmp rows) (item : A) :
    item ∈ layer.mergeInto ops cmp rows <->
      (item ∈ layer.inserted ∧ Unmatched cmp layer.deleted item) ∨
        (item ∈ rows ∧ layer.Passes cmp item) := by
  rw [StreamLayer.mergeInto, mem_tryDiff_iff ops
    (ops.merge_ascending cmp _ _ layerSorted.inserted sorted) layerSorted.deleted,
    mem_tryMerge_iff ops layerSorted.inserted sorted, StreamLayer.Passes]
  tauto

theorem scan_ascending {layers : List (StreamLayer A)}
    (layersSorted : forall layer, layer ∈ layers -> layer.Sorted cmp) {rows : List A}
    (sorted : Ascending cmp rows) : Ascending cmp (scan ops cmp layers rows) := by
  induction layers generalizing rows with
  | nil => exact sorted
  | cons layer layers inductionHypothesis =>
      exact inductionHypothesis (fun later member => layersSorted later (List.mem_cons_of_mem _ member))
        (StreamLayer.mergeInto_ascending ops (layersSorted layer List.mem_cons_self) sorted)

theorem scan_nodup {layers : List (StreamLayer A)}
    (layersSorted : forall layer, layer ∈ layers -> layer.Sorted cmp) {rows : List A}
    (sorted : Ascending cmp rows) (nodup : rows.Nodup) : (scan ops cmp layers rows).Nodup := by
  induction layers generalizing rows with
  | nil => exact nodup
  | cons layer layers inductionHypothesis =>
      have first := layersSorted layer List.mem_cons_self
      exact inductionHypothesis (fun later member => layersSorted later (List.mem_cons_of_mem _ member))
        (StreamLayer.mergeInto_ascending ops first sorted)
        (StreamLayer.mergeInto_nodup ops first sorted nodup)

/-- Layers which are strict on both sides keep a strict stream strict. -/
theorem scan_strictlyAscending {layers : List (StreamLayer A)}
    (layersStrict : forall layer, layer ∈ layers ->
      StrictlyAscending cmp layer.inserted ∧ StrictlyAscending cmp layer.deleted) {rows : List A}
    (strict : StrictlyAscending cmp rows) : StrictlyAscending cmp (scan ops cmp layers rows) := by
  induction layers generalizing rows with
  | nil => exact strict
  | cons layer layers inductionHypothesis =>
      rcases layersStrict layer List.mem_cons_self with ⟨inserted, deleted⟩
      apply inductionHypothesis (fun later member => layersStrict later (List.mem_cons_of_mem _ member))
      apply tryDiff_strictlyAscending ops ?_ deleted
      exact tryMerge_strictlyAscending ops inserted strict

/-- An item is scanned exactly when some layer contributes it, or the base
does, and the comparator lets it through every layer above. -/
theorem mem_scan_iff {layers : List (StreamLayer A)}
    (layersSorted : forall layer, layer ∈ layers -> layer.Sorted cmp) {rows : List A}
    (sorted : Ascending cmp rows) (item : A) :
    item ∈ scan ops cmp layers rows <->
      (item ∈ rows ∧ forall layer, layer ∈ layers -> layer.Passes cmp item) ∨
        exists below layer above, layers = below ++ layer :: above ∧ item ∈ layer.inserted ∧
          Unmatched cmp layer.deleted item ∧
          forall later, later ∈ above -> later.Passes cmp item := by
  induction layers generalizing rows with
  | nil =>
      constructor
      · intro member
        exact Or.inl ⟨member, fun layer absent => False.elim (List.not_mem_nil absent)⟩
      · rintro (base | ⟨below, layer, above, impossible, _⟩)
        · exact base.1
        · cases below <;> cases impossible
  | cons first layers inductionHypothesis =>
      have firstSorted := layersSorted first List.mem_cons_self
      change item ∈ scan ops cmp layers (first.mergeInto ops cmp rows) <-> _
      rw [inductionHypothesis
          (fun later member => layersSorted later (List.mem_cons_of_mem _ member))
          (StreamLayer.mergeInto_ascending ops firstSorted sorted),
        StreamLayer.mem_mergeInto_iff ops firstSorted sorted]
      constructor
      · rintro (⟨contributed | ⟨inRows, passes⟩, above⟩ | ⟨below, layer, above, split, rest⟩)
        · exact Or.inr ⟨[], first, layers, rfl, contributed.1, contributed.2, above⟩
        · refine Or.inl ⟨inRows, ?_⟩
          intro layer member
          rcases List.mem_cons.mp member with here | later
          · exact here ▸ passes
          · exact above layer later
        · exact Or.inr ⟨first :: below, layer, above, by rw [split]; rfl, rest⟩
      · rintro (⟨inRows, passes⟩ | ⟨below, layer, above, split, inserted, kept, rest⟩)
        · exact Or.inl ⟨Or.inr ⟨inRows, passes first List.mem_cons_self⟩,
            fun layer member => passes layer (List.mem_cons_of_mem _ member)⟩
        · cases below with
          | nil =>
              cases split
              exact Or.inl ⟨Or.inl ⟨inserted, kept⟩, rest⟩
          | cons head below =>
              cases split
              exact Or.inr ⟨below, layer, above, rfl, inserted, kept, rest⟩

end Scan

end Streaming
end TransactionalCollection
