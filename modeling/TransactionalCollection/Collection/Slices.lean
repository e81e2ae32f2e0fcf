import TransactionalCollection.BTree.Literal
import TransactionalCollection.Collection.View
import TransactionalCollection.Streaming.Prefix

namespace TransactionalCollection
namespace Collection

open Native Execution Persistence Streaming

/-!
# Views of views

Slicing a view of a tree yields a view, and that one can be sliced again.  After
any number of slices the bounds of the view admit a value if and only if every
slice admits it, so the view reads the visible keys whose first column every
slice admits, in the direction which was asked for last.
-/

variable {S : Signature} {forms : ValueForms S} {native : Tree.BTreeSchema S}

namespace BTreeView

/-! ## Chains of slices -/

/-- Slice again and again. -/
def sliced (view : BTreeView forms native) (chain : List (Bounds S × Bool)) : BTreeView forms native :=
  chain.foldl (fun view slice => view.slice slice.1 slice.2) view

/-- The direction of the last slice. -/
def lastReverse (reverse : Bool) (chain : List (Bounds S × Bool)) : Bool :=
  (chain.getLast?.map Prod.snd).getD reverse

theorem sliced_btree (view : BTreeView forms native) (chain : List (Bounds S × Bool)) :
    (view.sliced chain).btree = view.btree := by
  induction chain generalizing view with
  | nil => rfl
  | cons slice chain inductionHypothesis => exact inductionHypothesis (view.slice slice.1 slice.2)

theorem sliced_reverse (view : BTreeView forms native) (chain : List (Bounds S × Bool)) :
    (view.sliced chain).reverse = lastReverse view.reverse chain := by
  induction chain generalizing view with
  | nil => rfl
  | cons slice chain inductionHypothesis =>
      apply (inductionHypothesis (view.slice slice.1 slice.2)).trans
      unfold lastReverse
      rw [List.getLast?_cons]
      cases chain.getLast? <;> rfl

/-- A slice narrows the bounds to those values which it admits too. -/
theorem slice_admits (view : BTreeView forms native) (bounds : Bounds S) (reverse : Bool) (value : S.Value) :
    (view.slice bounds reverse).bounds.admits value = true <->
      view.bounds.admits value = true ∧ bounds.admits value = true := by
  rw [← Bool.and_eq_true]
  exact Eq.congr_left (admits_meet view.bounds bounds value)

/-- The bounds at the end of a chain admit what every slice admits. -/
theorem sliced_admits (view : BTreeView forms native) (chain : List (Bounds S × Bool)) (value : S.Value) :
    (view.sliced chain).bounds.admits value = true <->
      view.bounds.admits value = true ∧ forall slice, slice ∈ chain -> slice.1.admits value = true := by
  induction chain generalizing view with
  | nil => simp [sliced]
  | cons slice chain inductionHypothesis =>
      apply (inductionHypothesis (view.slice slice.1 slice.2)).trans
      rw [slice_admits, and_assoc, List.forall_mem_cons]

/-- The first column of a key is within the bounds of every slice. -/
def WithinAll (chain : List (Bounds S × Bool)) (key : Key S) : Prop :=
  exists first rest, key = first :: rest ∧ forall slice, slice ∈ chain -> slice.1.admits first = true

theorem boundsContain_sliced (schema : List (Tree.BTreeColumnSchema forms)) (btree : Tree.BTree native)
    (chain : List (Bounds S × Bool)) {key : Key S} (wide : key ≠ []) :
    Tree.boundsContain ((new schema btree).sliced chain).bounds key = true <-> WithinAll chain key := by
  cases key with
  | nil => exact absurd rfl wide
  | cons first rest =>
      apply (sliced_admits (new schema btree) chain first).trans
      constructor
      · intro within
        exact ⟨first, rest, rfl, within.2⟩
      · intro within
        rcases within with ⟨value, others, same, admitted⟩
        cases same
        exact ⟨rfl, admitted⟩

/-! ## Reads of a view -/

section Reads

variable (collate : StreamOps) (txn : TxnId)

/-- `view.btree.slice(view.bounds, view.reverse)`. -/
def toSlice (view : BTreeView forms native) : Tree.BTreeSlice S := ⟨view.bounds, view.reverse⟩

/-- The key stream of a view, as it is encoded, hashed and copied. -/
def keys (view : BTreeView forms native) : List (Key S) × Tree.BTree native :=
  Tree.keys collate txn view.bounds view.reverse view.btree

def forEachRowInOrder (view : BTreeView forms native) : List (Key S) × Tree.BTree native :=
  view.toSlice.forEachRowInOrder collate txn view.btree

def count (view : BTreeView forms native) : Nat × Tree.BTree native :=
  view.toSlice.count collate txn view.btree

def isEmpty (view : BTreeView forms native) : Bool :=
  view.toSlice.isEmpty collate txn view.btree

/-- What a transaction finds through a chain of slices: the visible keys within
all of them. -/
def Shown (btree : Tree.BTree native) (chain : List (Bounds S × Bool)) (key : Key S) : Prop :=
  Tree.isRowVisible (btree.state.visibleSnapshot txn) key = true ∧ WithinAll chain key

theorem mem_keys_sliced {schema : List (Tree.BTreeColumnSchema forms)} {btree : Tree.BTree native}
    {chain : List (Bounds S × Bool)} {key : Key S} :
    key ∈ (((new schema btree).sliced chain).keys collate txn).1 <-> Shown txn btree chain key := by
  apply Tree.mem_keys_iff.trans
  rw [sliced_btree, and_comm, Shown, Tree.isRowVisible_iff]
  apply and_congr_right
  intro visible
  exact boundsContain_sliced schema btree chain (Tree.ne_nil_of_view visible)

/-- The keys of a view, in its direction. -/
theorem keys_enumerates (schema : List (Tree.BTreeColumnSchema forms)) (btree : Tree.BTree native)
    (chain : List (Bounds S × Bool)) :
    Enumerates compare (lastReverse false chain) (Shown txn btree chain)
      (((new schema btree).sliced chain).keys collate txn).1 where
  strict := by
    have direction : lastReverse false chain = ((new schema btree).sliced chain).reverse :=
      (sliced_reverse (new schema btree) chain).symm
    rw [direction]
    exact Tree.keys_strict collate txn _ _ _
  mem_iff := fun key => mem_keys_sliced collate txn

theorem forEachRowInOrder_enumerates (schema : List (Tree.BTreeColumnSchema forms))
    (btree : Tree.BTree native)
    (chain : List (Bounds S × Bool)) :
    Enumerates compare (lastReverse false chain) (Shown txn btree chain)
      (((new schema btree).sliced chain).forEachRowInOrder collate txn).1 :=
  keys_enumerates collate txn schema btree chain

/-- Counting walks forwards whatever the direction of the view. -/
theorem count_eq (view : BTreeView forms native) :
    (view.count collate txn).1 = (view.keys collate txn).1.length := by
  have walked (reverse : Bool) : Enumerates compare reverse
      (fun key => Tree.boundsContain view.bounds key = true ∧ view.btree.state.view txn key = some ())
      (Tree.keys collate txn view.bounds reverse view.btree).1 :=
    ⟨Tree.keys_strict collate txn view.bounds reverse view.btree, fun key => Tree.mem_keys_iff⟩
  exact (walked false).length_eq (walked view.reverse)

theorem isEmpty_eq (view : BTreeView forms native) :
    view.isEmpty collate txn = (view.keys collate txn).1.isEmpty :=
  Bool.not_not _

end Reads

/-- A view at the end of any chain of slices shows the visible keys within all of
them: streamed or called back in the direction of the last slice, counted, and
tested for emptiness. -/
theorem sliced_shows (collate : StreamOps) (txn : TxnId) (schema : List (Tree.BTreeColumnSchema forms))
    (btree : Tree.BTree native) (chain : List (Bounds S × Bool)) :
    Enumerates compare (lastReverse false chain) (Shown txn btree chain)
        (((new schema btree).sliced chain).keys collate txn).1 ∧
      Enumerates compare (lastReverse false chain) (Shown txn btree chain)
        (((new schema btree).sliced chain).forEachRowInOrder collate txn).1 ∧
      (((new schema btree).sliced chain).count collate txn).1 =
        (((new schema btree).sliced chain).keys collate txn).1.length ∧
      (((new schema btree).sliced chain).isEmpty collate txn = true <->
        forall key, ¬ Shown txn btree chain key) := by
  have listing := keys_enumerates collate txn schema btree chain
  refine ⟨listing, forEachRowInOrder_enumerates collate txn schema btree chain, count_eq collate txn _, ?_⟩
  rw [isEmpty_eq]
  exact listing.isEmpty_iff

end BTreeView

end Collection
end TransactionalCollection
