import TransactionalCollection.Streaming.SortedStream

namespace TransactionalCollection
namespace Streaming

open Std (TransCmp ReflCmp OrientedCmp)

/-!
# Merges which keep the order of ties

A comparator may leave ties, and then a sorted stream is not determined by its
members.  It is if the ties of each source are in a known order, and merging
does not change the order of items which come from the same side: items of
different sides never tie, since the merge drops one of them.
-/

variable {A : Type}

/-- A merge yields each side in the order of that side. -/
structure StreamOps.Stable (ops : StreamOps) : Prop where
  left_sublist : forall {A : Type} (cmp : A -> A -> Ordering) [TransCmp cmp] (left right : List A),
    Ascending cmp left -> Ascending cmp right -> left.Sublist (ops.tryMerge cmp left right)
  right_sublist : forall {A : Type} (cmp : A -> A -> Ordering) [TransCmp cmp] (left right : List A),
    Ascending cmp left -> Ascending cmp right ->
    (right.filter (unmatched cmp left)).Sublist (ops.tryMerge cmp left right)

/-- Insertion sort is stable. -/
theorem StreamOps.reference_stable : StreamOps.reference.Stable where
  left_sublist := by
    intro A cmp _ left right leftSorted _
    exact List.sublist_insertionSort leftSorted (List.sublist_append_left ..)
  right_sublist := by
    intro A cmp _ left right _ rightSorted
    exact List.sublist_insertionSort (rightSorted.filter _) (List.sublist_append_right ..)

/-- In a list without repetition, the items of a sublist are in its order. -/
theorem pairwise_within {relation : A -> A -> Prop} {part whole : List A} (sublist : part.Sublist whole)
    (nodup : whole.Nodup) (ordered : part.Pairwise relation) :
    whole.Pairwise (fun first second => first ∈ part -> second ∈ part -> relation first second) := by
  induction sublist with
  | slnil => exact List.Pairwise.nil
  | @cons part whole item sublist inductionHypothesis =>
      rcases List.nodup_cons.mp nodup with ⟨fresh, nodup⟩
      refine List.pairwise_cons.mpr ⟨fun second _ here => ?_, inductionHypothesis nodup ordered⟩
      exact absurd (sublist.subset here) fresh
  | @cons_cons part whole item sublist inductionHypothesis =>
      rcases List.nodup_cons.mp nodup with ⟨fresh, nodup⟩
      rcases List.pairwise_cons.mp ordered with ⟨before, ordered⟩
      have remains : forall other, other ∈ whole -> other ∈ item :: part -> other ∈ part := by
        intro other member listed
        rcases List.mem_cons.mp listed with rfl | later
        · exact absurd member fresh
        · exact later
      refine List.pairwise_cons.mpr ⟨fun second member _ listed => ?_, ?_⟩
      · exact before second (remains second member listed)
      · refine (inductionHypothesis nodup ordered).imp_of_mem ?_
        intro first second firstMember secondMember related firstListed secondListed
        exact related (remains first firstMember firstListed) (remains second secondMember secondListed)

section Ties

variable {cmp tie : A -> A -> Ordering} [TransCmp cmp] [TransCmp tie] {left right : List A}

omit [TransCmp cmp] [TransCmp tie] in
/-- A stream with its ties in order is sorted. -/
theorem StrictlyAscending.coarse {stream : List A}
    (strict : StrictlyAscending (compareLex cmp tie) stream) : Ascending cmp stream :=
  strict.imp (fun {first second} less greater => by
    rw [compareLex, greater] at less
    cases less)

/-- A stable merge leaves ties in order. -/
theorem tryMerge_tiesOrdered {ops : StreamOps} (stable : ops.Stable)
    (leftStrict : StrictlyAscending (compareLex cmp tie) left)
    (rightStrict : StrictlyAscending (compareLex cmp tie) right) :
    StrictlyAscending (compareLex cmp tie) (ops.tryMerge cmp left right) := by
  have leftSorted := leftStrict.coarse
  have rightSorted := rightStrict.coarse
  have nodup := tryMerge_nodup ops leftSorted rightSorted leftStrict.nodup rightStrict.nodup
  have sorted := ops.merge_ascending cmp left right leftSorted rightSorted
  have onLeft := pairwise_within (stable.left_sublist cmp left right leftSorted rightSorted) nodup
    leftStrict
  have onRight := pairwise_within (stable.right_sublist cmp left right leftSorted rightSorted) nodup
    (rightStrict.filter _)
  refine ((sorted.and onLeft).and onRight).imp_of_mem ?_
  rintro first second firstMember secondMember ⟨⟨notAfter, onLeft⟩, onRight⟩
  have side : forall item, item ∈ ops.tryMerge cmp left right ->
      item ∈ left ∨ item ∈ right.filter (unmatched cmp left) := by
    intro item member
    rw [(ops.merge_perm cmp left right leftSorted rightSorted).mem_iff] at member
    exact List.mem_append.mp member
  have apart : forall item other, item ∈ left -> other ∈ right.filter (unmatched cmp left) ->
      cmp item other ≠ .eq :=
    fun item other inLeft inRight => unmatched_iff.mp (List.mem_filter.mp inRight).2 item inLeft
  cases compared : cmp first second with
  | gt => exact absurd compared notAfter
  | lt => rw [compareLex, compared]; rfl
  | eq =>
      -- two items which tie come from the same side
      rcases side first firstMember with firstLeft | firstRight
      · rcases side second secondMember with secondLeft | secondRight
        · exact onLeft firstLeft secondLeft
        · exact absurd compared (apart first second firstLeft secondRight)
      · rcases side second secondMember with secondLeft | secondRight
        · exact absurd (OrientedCmp.eq_symm compared) (apart second first secondLeft firstRight)
        · exact onRight firstRight secondRight

/-- A layer whose streams have their ties in order. -/
structure StreamLayer.TiesOrdered (cmp tie : A -> A -> Ordering) (layer : StreamLayer A) : Prop where
  inserted : StrictlyAscending (compareLex cmp tie) layer.inserted
  deleted : StrictlyAscending (compareLex cmp tie) layer.deleted

/-- A stable scan leaves ties in order. -/
theorem scan_tiesOrdered {ops : StreamOps} (stable : ops.Stable) {layers : List (StreamLayer A)}
    (layersOrdered : forall layer, layer ∈ layers -> layer.TiesOrdered cmp tie) {rows : List A}
    (ordered : StrictlyAscending (compareLex cmp tie) rows) :
    StrictlyAscending (compareLex cmp tie) (scan ops cmp layers rows) := by
  induction layers generalizing rows with
  | nil => exact ordered
  | cons layer layers inductionHypothesis =>
      have first := layersOrdered layer List.mem_cons_self
      have merged := tryMerge_tiesOrdered stable first.inserted ordered
      refine inductionHypothesis
        (fun later member => layersOrdered later (List.mem_cons_of_mem _ member)) ?_
      change StrictlyAscending _ (ops.tryDiff cmp (ops.tryMerge cmp layer.inserted rows) layer.deleted)
      rw [ops.diff_eq cmp _ _ merged.coarse first.deleted.coarse]
      exact merged.filter _

omit [TransCmp tie] in
/-- A layer without items is not noticed. -/
theorem StreamLayer.mergeInto_nil {ops : StreamOps} (stable : ops.Stable) {rows : List A}
    (sorted : Ascending cmp rows) : (StreamLayer.mk [] []).mergeInto ops cmp rows = rows := by
  have nothing : Ascending cmp ([] : List A) := List.Pairwise.nil
  have keepsAll : rows.filter (unmatched cmp []) = rows := List.filter_eq_self.mpr (fun _ _ => rfl)
  have within := stable.right_sublist cmp [] rows nothing sorted
  have sameLength := (ops.merge_perm cmp [] rows nothing sorted).length_eq
  rw [keepsAll] at within sameLength
  have merged : ops.tryMerge cmp [] rows = rows := (within.eq_of_length sameLength.symm).symm
  rw [StreamLayer.mergeInto, merged, ops.diff_eq cmp _ _ sorted nothing]
  exact List.filter_eq_self.mpr (fun _ _ => rfl)

/-- Nor is it noticed between other layers. -/
theorem scan_nil_between {ops : StreamOps} (stable : ops.Stable) {below above : List (StreamLayer A)}
    (sorted : forall layer, layer ∈ below -> layer.Sorted cmp) {rows : List A}
    (rowsSorted : Ascending cmp rows) :
    scan ops cmp (below ++ ⟨[], []⟩ :: above) rows = scan ops cmp (below ++ above) rows := by
  rw [scan, List.foldl_append, List.foldl_cons, scan, List.foldl_append]
  congr 1
  exact StreamLayer.mergeInto_nil stable (scan_ascending ops sorted rowsSorted)

end Ties

end Streaming
end TransactionalCollection
