import Mathlib.Algebra.BigOperators.Group.List.Basic
import Mathlib.Data.List.FinRange
import Mathlib.Data.List.Perm.Basic

namespace TransactionalCollection
namespace Numeric

/-!
# Picking items by their positions

A list of positions picks items of another list, in the order of the positions.
Where the positions are those of the list in some order, the items are permuted,
and picking by one order and then by another is picking by the one which the
second picks of the first.
-/

variable {A B : Type}

/-- The items at the positions. -/
def pick (items : List A) (positions : List Nat) : List A := positions.filterMap (fun position => items[position]?)

/-- All positions, in some order. -/
def Orders (positions : List Nat) (count : Nat) : Prop := positions.Perm (List.range count)

instance (positions : List Nat) (count : Nat) : Decidable (Orders positions count) :=
  inferInstanceAs (Decidable (List.Perm _ _))

@[simp] theorem pick_nil (items : List A) : pick items [] = [] := rfl

theorem pick_cons {items : List A} {position : Nat} {item : A} (found : items[position]? = some item)
    (positions : List Nat) : pick items (position :: positions) = item :: pick items positions :=
  List.filterMap_cons_some found

theorem pick_range (items : List A) : pick items (List.range items.length) = items := by
  induction items with
  | nil => rfl
  | cons item items inductionHypothesis =>
      have shifted : (fun position => (item :: items)[position]?) ∘ Nat.succ = fun position => items[position]? :=
        rfl
      rw [List.length_cons, List.range_succ_eq_map, pick_cons List.getElem?_cons_zero, pick, List.filterMap_map,
        shifted]
      exact congrArg (List.cons item) inductionHypothesis

/-- Where the positions are inside, each picks one item. -/
theorem getElem?_pick {items : List A} {positions : List Nat}
    (inside : forall position, position ∈ positions -> position < items.length) (index : Nat) :
    (pick items positions)[index]? = positions[index]?.bind (fun position => items[position]?) := by
  induction positions generalizing index with
  | nil => rfl
  | cons position positions inductionHypothesis =>
      rw [List.forall_mem_cons] at inside
      rw [pick_cons (List.getElem?_eq_getElem inside.1)]
      cases index with
      | zero => exact (List.getElem?_eq_getElem inside.1).symm
      | succ index => exact inductionHypothesis inside.2 index

theorem length_pick {items : List A} {positions : List Nat}
    (inside : forall position, position ∈ positions -> position < items.length) :
    (pick items positions).length = positions.length := by
  induction positions with
  | nil => rfl
  | cons position positions inductionHypothesis =>
      rw [List.forall_mem_cons] at inside
      rw [pick_cons (List.getElem?_eq_getElem inside.1), List.length_cons, List.length_cons,
        inductionHypothesis inside.2]

/-- Picking of what has been picked. -/
theorem pick_pick {items : List A} {first : List Nat}
    (inside : forall position, position ∈ first -> position < items.length) (second : List Nat) :
    pick (pick items first) second = pick items (pick first second) := by
  have composed : (fun index => (pick items first)[index]?) =
      fun index => first[index]?.bind (fun position => items[position]?) :=
    funext (getElem?_pick inside)
  rw [pick, composed, pick, pick, List.filterMap_filterMap]

theorem map_pick (function : A -> B) (items : List A) (positions : List Nat) :
    (pick items positions).map function = pick (items.map function) positions := by
  rw [pick, List.map_filterMap, pick]
  congr 1
  funext position
  rw [List.getElem?_map]

/-- Where each item has a result, all results are kept. -/
theorem filterMap_of_forall₂ {function : A -> Option B} {items : List A} {results : List B}
    (listed : List.Forall₂ (fun item result => function item = some result) items results) :
    items.filterMap function = results := by
  induction listed with
  | nil => rfl
  | cons head tail inductionHypothesis => rw [List.filterMap_cons_some head, inductionHypothesis]

/-- What holds of two lists item by item holds of what is picked of them. -/
theorem forall₂_pick {relation : A -> B -> Prop} {left : List A} {right : List B}
    (related : List.Forall₂ relation left right) (positions : List Nat) :
    List.Forall₂ relation (pick left positions) (pick right positions) := by
  induction positions with
  | nil => exact .nil
  | cons position positions inductionHypothesis =>
      have lengths := related.length_eq
      by_cases inside : position < left.length
      · rw [pick_cons (List.getElem?_eq_getElem inside), pick_cons (List.getElem?_eq_getElem (lengths ▸ inside))]
        exact .cons (List.Forall₂.get related inside (lengths ▸ inside)) inductionHypothesis
      · have beyond : left[position]? = none := List.getElem?_eq_none (Nat.le_of_not_lt inside)
        have other : right[position]? = none := List.getElem?_eq_none (lengths ▸ Nat.le_of_not_lt inside)
        unfold pick
        rw [List.filterMap_cons_none beyond, List.filterMap_cons_none other]
        exact inductionHypothesis

/-! ## Orders -/

namespace Orders

variable {positions : List Nat} {count : Nat} {items : List A}

theorem range (count : Nat) : Orders (List.range count) count := List.Perm.refl _

theorem mem_iff (orders : Orders positions count) {position : Nat} : position ∈ positions <-> position < count :=
  (List.Perm.mem_iff orders).trans List.mem_range

theorem length_eq (orders : Orders positions count) : positions.length = count :=
  (List.Perm.length_eq orders).trans List.length_range

theorem nodup (orders : Orders positions count) : positions.Nodup :=
  (List.Perm.nodup_iff orders).mpr List.nodup_range

theorem inside (orders : Orders positions items.length) :
    forall position, position ∈ positions -> position < items.length :=
  fun _ member => orders.mem_iff.mp member

/-- Nothing twice, all inside, and as many as there are. -/
theorem of_nodup (distinct : positions.Nodup) (inside : forall position, position ∈ positions -> position < count)
    (length : positions.length = count) : Orders positions count := by
  apply List.Subperm.perm_of_length_le
  · apply List.subperm_of_subset distinct
    intro position member
    exact List.mem_range.mpr (inside position member)
  · rw [List.length_range, length]

/-- Items are permuted. -/
theorem pick_perm (orders : Orders positions items.length) : (pick items positions).Perm items := by
  have permuted : (pick items positions).Perm (pick items (List.range items.length)) :=
    List.Perm.filterMap _ orders
  rwa [pick_range] at permuted

theorem length_pick (orders : Orders positions items.length) : (pick items positions).length = items.length :=
  orders.pick_perm.length_eq

end Orders

/-- Where each position stands. -/
def inverse (positions : List Nat) : List Nat :=
  (List.range positions.length).map (fun position => positions.idxOf position)

section Inverse

variable {positions : List Nat} {count : Nat}

theorem Orders.inverse (orders : Orders positions count) : Orders (inverse positions) count := by
  have length := orders.length_eq
  apply of_nodup
  · rw [Numeric.inverse, length]
    apply List.Nodup.map_on ?_ List.nodup_range
    intro left leftInside right rightInside same
    have first := orders.mem_iff.mpr (List.mem_range.mp leftInside)
    exact (List.idxOf_inj first).mp same
  · intro position member
    rcases List.mem_map.mp member with ⟨other, inside, rfl⟩
    rw [List.mem_range, length] at inside
    rw [← length]
    exact List.idxOf_lt_length_of_mem (orders.mem_iff.mpr inside)
  · rw [Numeric.inverse, List.length_map, List.length_range, length]

theorem getElem?_inverse (orders : Orders positions count) {position : Nat} (inside : position < count) :
    (Numeric.inverse positions)[position]? = some (positions.idxOf position) := by
  rw [Numeric.inverse, List.getElem?_map, List.getElem?_range (by rwa [orders.length_eq])]
  rfl

/-- Positions are where their inverse finds them. -/
theorem pick_inverse (orders : Orders positions count) :
    pick positions (Numeric.inverse positions) = List.range count := by
  rw [pick, Numeric.inverse, List.filterMap_map, orders.length_eq]
  have found : forall position, position ∈ List.range count ->
      ((fun index => positions[index]?) ∘ fun position => positions.idxOf position) position = some position := by
    intro position member
    have present := orders.mem_iff.mpr (List.mem_range.mp member)
    exact List.getElem?_idxOf present
  rw [List.filterMap_congr found]
  exact List.filterMap_some

theorem inverse_pick (orders : Orders positions count) :
    pick (Numeric.inverse positions) positions = List.range count := by
  apply List.ext_getElem?
  intro index
  rw [getElem?_pick (fun position member => by
    rw [orders.inverse.length_eq]
    exact orders.mem_iff.mp member)]
  by_cases inside : index < count
  · have within : index < positions.length := by rwa [orders.length_eq]
    have member := List.getElem_mem within
    rw [List.getElem?_eq_getElem within, List.getElem?_range inside]
    change (Numeric.inverse positions)[positions[index]]? = _
    rw [getElem?_inverse orders (orders.mem_iff.mp member), orders.nodup.idxOf_getElem]
  · rw [List.getElem?_eq_none (by rw [orders.length_eq]; omega),
      List.getElem?_eq_none (by rw [List.length_range]; omega)]
    rfl

/-- Positions of all positions. -/
theorem range_pick (inside : forall position, position ∈ positions -> position < count) :
    pick (List.range count) positions = positions := by
  unfold pick
  have found : forall position, position ∈ positions -> (List.range count)[position]? = some position :=
    fun position member => List.getElem?_range (inside position member)
  rw [List.filterMap_congr found]
  exact List.filterMap_some

/-- What leads back to all positions in a row is the inverse. -/
theorem eq_inverse {other : List Nat} (orders : Orders positions count) (otherOrders : Orders other count)
    (back : pick positions other = List.range count) : other = Numeric.inverse positions := by
  have inverseInside : forall position, position ∈ positions -> position < (Numeric.inverse positions).length := by
    intro position member
    rw [orders.inverse.length_eq]
    exact orders.mem_iff.mp member
  calc other
    _ = pick (List.range count) other := (range_pick (fun _ member => otherOrders.mem_iff.mp member)).symm
    _ = pick (pick (Numeric.inverse positions) positions) other := by rw [inverse_pick orders]
    _ = pick (Numeric.inverse positions) (pick positions other) := pick_pick inverseInside other
    _ = pick (Numeric.inverse positions) (List.range (Numeric.inverse positions).length) := by
        rw [back, orders.inverse.length_eq]
    _ = Numeric.inverse positions := pick_range _

end Inverse

/-! ## Keeping some of the items -/

/-- How many items are kept before a position. -/
def keptBefore (kept : List Bool) (position : Nat) : Nat := (kept.take position).count true

/-- The place of an item among those which are kept. -/
def keptPlace (kept : List Bool) (position : Nat) : Option Nat :=
  if kept[position]? = some true then some (keptBefore kept position) else none

/-- The places of those items at the positions which are kept. -/
def renumber (kept : List Bool) (positions : List Nat) : List Nat := positions.filterMap (keptPlace kept)

section Keeping

variable {keep : A -> Option B}

/-- Which items are kept. -/
def marks (keep : A -> Option B) (items : List A) : List Bool := items.map (fun item => (keep item).isSome)

theorem getElem?_marks (items : List A) (position : Nat) :
    (marks keep items)[position]? = some true <-> (items[position]?.bind keep).isSome = true := by
  rw [marks, List.getElem?_map]
  cases items[position]? with
  | none => simp
  | some item => simp

/-- A kept item stands behind the items which are kept before it. -/
theorem getElem?_filterMap {items : List A} {position : Nat} {other : B}
    (found : items[position]?.bind keep = some other) :
    (items.filterMap keep)[keptBefore (marks keep items) position]? = some other := by
  induction items generalizing position with
  | nil => cases found
  | cons item items inductionHypothesis =>
      cases position with
      | zero =>
          have kept : keep item = some other := found
          rw [List.filterMap_cons_some kept]
          rfl
      | succ position =>
          have there := inductionHypothesis found
          cases kept : keep item with
          | none =>
              have count : keptBefore (marks keep (item :: items)) (position + 1) =
                  keptBefore (marks keep items) position := by simp [keptBefore, marks, kept]
              rw [List.filterMap_cons_none kept, count]
              exact there
          | some first =>
              have count : keptBefore (marks keep (item :: items)) (position + 1) =
                  keptBefore (marks keep items) position + 1 := by simp [keptBefore, marks, kept]
              rw [List.filterMap_cons_some kept, count]
              exact there

/-- Keeping of what is picked is picking of what is kept. -/
theorem pick_renumber (items : List A) (positions : List Nat) :
    pick (items.filterMap keep) (renumber (marks keep items) positions) =
      (pick items positions).filterMap keep := by
  rw [pick, renumber, pick, List.filterMap_filterMap, List.filterMap_filterMap]
  congr 1
  funext position
  unfold keptPlace
  cases found : items[position]?.bind keep with
  | none =>
      have dropped : ¬ (marks keep items)[position]? = some true := by
        rw [getElem?_marks, found]
        exact Bool.false_ne_true
      rw [if_neg dropped]
      rfl
  | some other =>
      have kept : (marks keep items)[position]? = some true := by
        rw [getElem?_marks, found]
        rfl
      rw [if_pos kept]
      exact getElem?_filterMap found

theorem keptPlace_succ (mark : Bool) (kept : List Bool) (position : Nat) :
    keptPlace (mark :: kept) (position + 1) = (keptPlace kept position).map (fun place => place + mark.toNat) := by
  unfold keptPlace keptBefore
  rw [List.getElem?_cons_succ, List.take_succ_cons, List.count_cons]
  by_cases here : kept[position]? = some true
  · rw [if_pos here, if_pos here]
    cases mark <;> rfl
  · rw [if_neg here, if_neg here]
    rfl

theorem renumber_range (items : List A) : renumber (marks keep items) (List.range items.length) =
    List.range (items.filterMap keep).length := by
  induction items with
  | nil => rfl
  | cons item items inductionHypothesis =>
      have later : ((List.range items.length).map Nat.succ).filterMap (keptPlace (marks keep (item :: items))) =
          (List.range (items.filterMap keep).length).map (fun place => place + (keep item).isSome.toNat) := by
        rw [← inductionHypothesis, renumber, List.map_filterMap, List.filterMap_map]
        congr 1
        funext position
        exact keptPlace_succ _ _ position
      rw [renumber, List.length_cons, List.range_succ_eq_map]
      cases kept : keep item with
      | none =>
          have first : keptPlace (marks keep (item :: items)) 0 = none := by simp [keptPlace, marks, kept]
          rw [List.filterMap_cons_none first, later, List.filterMap_cons_none kept, kept]
          exact List.map_id _
      | some other =>
          have first : keptPlace (marks keep (item :: items)) 0 = some 0 := by simp [keptPlace, keptBefore, marks, kept]
          rw [List.filterMap_cons_some first, later, List.filterMap_cons_some kept, List.length_cons,
            List.range_succ_eq_map, kept]
          rfl

/-- An order of all items orders those which are kept. -/
theorem Orders.renumber {positions : List Nat} {items : List A} (orders : Orders positions items.length) :
    Orders (renumber (marks keep items) positions) (items.filterMap keep).length := by
  rw [Orders, ← renumber_range]
  exact List.Perm.filterMap _ orders

end Keeping

end Numeric
end TransactionalCollection
