import TransactionalCollection.Native.Signature

namespace TransactionalCollection
namespace Native

/-!
# The transaction semaphore

`txn_lock` orders conflicting accesses by reservations.  What its callers rely
on is modelled here, and no more of it.  A transaction reserves a range for
reading or for writing, and keeps the reservation after the permit itself is
dropped, until the owner finalizes it.  A write is refused while another
transaction holds an overlapping write, or while a later transaction holds an
overlapping read.  A read waits for the overlapping writes of earlier
transactions and then leaves a reservation of its own.

A permit which is still in use, as that of an open stream, may have `txn_lock`
refuse further writes.  These change nothing, so that a run with them is a run
without them.
-/

/-- `txn_lock::set::Range`: one key, or everything. -/
inductive SetRange (K : Type) where
  | one (key : K)
  | all
  deriving DecidableEq, Repr

namespace SetRange

variable {K : Type}

/-- The keys a range covers. -/
def Covers : SetRange K -> K -> Prop
  | .one key, other => key = other
  | .all, _ => True

/-- Two ranges share a key. -/
def overlaps [DecidableEq K] : SetRange K -> SetRange K -> Bool
  | .one left, .one right => decide (left = right)
  | _, _ => true

theorem overlaps_of_covers [DecidableEq K] {left right : SetRange K} {key : K}
    (inLeft : left.Covers key) (inRight : right.Covers key) : left.overlaps right = true := by
  cases left with
  | all => rfl
  | one leftKey =>
      cases right with
      | all => rfl
      | one rightKey => exact decide_eq_true (inLeft.trans inRight.symm)

theorem overlaps_comm [DecidableEq K] (left right : SetRange K) :
    left.overlaps right = right.overlaps left := by
  cases left with
  | all => cases right <;> rfl
  | one leftKey =>
      cases right with
      | all => rfl
      | one rightKey => exact decide_eq_decide.mpr eq_comm

end SetRange

inductive Access where
  | read
  | write
  deriving DecidableEq, Repr

/-- What a transaction has reserved. -/
structure Reservation (K : Type) where
  txn : TxnId
  range : SetRange K
  access : Access

/-- The unreleased reservations. -/
structure Semaphore (K : Type) where
  reservations : List (Reservation K)

namespace Semaphore

variable {K : Type}

def new : Semaphore K := ⟨[]⟩

def add (semaphore : Semaphore K) (txn : TxnId) (range : SetRange K) (access : Access) :
    Semaphore K :=
  ⟨⟨txn, range, access⟩ :: semaphore.reservations⟩

/-- A transaction holds a write reservation on the range. -/
def HoldsWrite (semaphore : Semaphore K) (txn : TxnId) (range : SetRange K) : Prop :=
  ⟨txn, range, .write⟩ ∈ semaphore.reservations

/-- A transaction holds a read reservation on the range. -/
def HoldsRead (semaphore : Semaphore K) (txn : TxnId) (range : SetRange K) : Prop :=
  ⟨txn, range, .read⟩ ∈ semaphore.reservations

/-- Release one transaction, or with `dropPast` every transaction through it. -/
def finalize (semaphore : Semaphore K) (txn : TxnId) (dropPast : Bool) : Semaphore K :=
  ⟨semaphore.reservations.filter (fun held =>
    if dropPast then decide (txn < held.txn) else decide (held.txn ≠ txn))⟩

variable [DecidableEq K]

/-- A reservation in the way of a write. -/
def refuses (txn : TxnId) (range : SetRange K) (held : Reservation K) : Bool :=
  decide (held.txn ≠ txn) && held.range.overlaps range &&
    (decide (held.access = .write) || decide (txn < held.txn))

/-- A write conflicts with later transactions, and would block on earlier ones. -/
def refusal (semaphore : Semaphore K) (txn : TxnId) (range : SetRange K) : LockError :=
  if semaphore.reservations.any (fun held => refuses txn range held && decide (txn < held.txn)) then .conflict
  else .wouldBlock

def tryWrite (semaphore : Semaphore K) (txn : TxnId) (range : SetRange K) :
    Except LockError (Semaphore K) :=
  if semaphore.reservations.any (refuses txn range) then .error (semaphore.refusal txn range)
  else .ok (semaphore.add txn range .write)

/-- A reservation in the way of a read. -/
def blocks (txn : TxnId) (range : SetRange K) (held : Reservation K) : Bool :=
  decide (held.txn < txn) && held.range.overlaps range && decide (held.access = .write)

/-- Whether a read completes now, or keeps waiting. -/
def canRead (semaphore : Semaphore K) (txn : TxnId) (range : SetRange K) : Bool :=
  !semaphore.reservations.any (blocks txn range)

/-- A read completes and leaves its reservation, or waits. -/
def read (semaphore : Semaphore K) (txn : TxnId) (range : SetRange K) : Semaphore K :=
  if semaphore.canRead txn range then semaphore.add txn range .read else semaphore

theorem tryWrite_eq_ok_iff {semaphore after : Semaphore K} {txn : TxnId} {range : SetRange K} :
    semaphore.tryWrite txn range = .ok after <->
      (forall held, held ∈ semaphore.reservations -> refuses txn range held = false) ∧
        after = semaphore.add txn range .write := by
  unfold tryWrite
  split
  · rename_i refused
    rcases List.any_eq_true.mp refused with ⟨held, member, inTheWay⟩
    constructor
    · intro impossible
      cases impossible
    · intro granted
      rw [granted.1 held member] at inTheWay
      cases inTheWay
  · rename_i free
    rw [Bool.not_eq_true, List.any_eq_false] at free
    constructor
    · intro granted
      cases granted
      exact ⟨fun held member => Bool.not_eq_true _ ▸ free held member, rfl⟩
    · rintro ⟨_, rfl⟩
      rfl

/-- A granted write finds no overlapping write of another transaction. -/
theorem tryWrite_excludes_write {semaphore after : Semaphore K} {txn other : TxnId}
    {range held : SetRange K} (granted : semaphore.tryWrite txn range = .ok after)
    (holds : semaphore.HoldsWrite other held) (overlap : held.overlaps range = true) :
    other = txn := by
  have free := (tryWrite_eq_ok_iff.mp granted).1 _ holds
  by_contra different
  simp [refuses, different, overlap] at free

/-- A granted write finds no overlapping read of a later transaction. -/
theorem tryWrite_excludes_later_read {semaphore after : Semaphore K} {txn other : TxnId}
    {range held : SetRange K} (granted : semaphore.tryWrite txn range = .ok after)
    (holds : semaphore.HoldsRead other held) (overlap : held.overlaps range = true) :
    other <= txn := by
  have free := (tryWrite_eq_ok_iff.mp granted).1 _ holds
  by_contra later
  have after : txn < other := by order
  have different : other ≠ txn := by order
  simp [refuses, different, overlap, after] at free

/-- A read that completes finds no overlapping write of an earlier transaction. -/
theorem canRead_excludes_earlier_write {semaphore : Semaphore K} {txn other : TxnId}
    {range held : SetRange K} (ready : semaphore.canRead txn range = true)
    (holds : semaphore.HoldsWrite other held) (overlap : held.overlaps range = true) :
    txn <= other := by
  by_contra earlier
  have before : other < txn := by order
  have blocked : semaphore.reservations.any (blocks txn range) = true :=
    List.any_eq_true.mpr ⟨_, holds, by simp [blocks, before, overlap]⟩
  simp [canRead, blocked] at ready

omit [DecidableEq K] in
theorem mem_finalize_iff {semaphore : Semaphore K} {txn : TxnId} {dropPast : Bool}
    {held : Reservation K} :
    held ∈ (semaphore.finalize txn dropPast).reservations <->
      held ∈ semaphore.reservations ∧ (if dropPast then txn < held.txn else held.txn ≠ txn) := by
  cases dropPast <;> simp [finalize]

section Holdings

variable {semaphore : Semaphore K}

/-! ## Holdings after each operation -/

omit [DecidableEq K] in
@[simp] theorem add_write_holdsWrite (txn other : TxnId) (range held : SetRange K) :
    (semaphore.add txn range .write).HoldsWrite other held <->
      (other = txn ∧ held = range) ∨ semaphore.HoldsWrite other held := by
  simp [HoldsWrite, add]

omit [DecidableEq K] in
@[simp] theorem add_write_holdsRead (txn other : TxnId) (range held : SetRange K) :
    (semaphore.add txn range .write).HoldsRead other held <-> semaphore.HoldsRead other held := by
  simp [HoldsRead, add]

omit [DecidableEq K] in
@[simp] theorem add_read_holdsWrite (txn other : TxnId) (range held : SetRange K) :
    (semaphore.add txn range .read).HoldsWrite other held <-> semaphore.HoldsWrite other held := by
  simp [HoldsWrite, add]

omit [DecidableEq K] in
@[simp] theorem add_read_holdsRead (txn other : TxnId) (range held : SetRange K) :
    (semaphore.add txn range .read).HoldsRead other held <->
      (other = txn ∧ held = range) ∨ semaphore.HoldsRead other held := by
  simp [HoldsRead, add]

omit [DecidableEq K] in
@[simp] theorem finalize_holdsWrite (txn other : TxnId) (dropPast : Bool) (held : SetRange K) :
    (semaphore.finalize txn dropPast).HoldsWrite other held <->
      semaphore.HoldsWrite other held ∧ if dropPast then txn < other else other ≠ txn :=
  mem_finalize_iff

omit [DecidableEq K] in
@[simp] theorem finalize_holdsRead (txn other : TxnId) (dropPast : Bool) (held : SetRange K) :
    (semaphore.finalize txn dropPast).HoldsRead other held <->
      semaphore.HoldsRead other held ∧ if dropPast then txn < other else other ≠ txn :=
  mem_finalize_iff

@[simp] theorem read_holdsWrite (txn other : TxnId) (range held : SetRange K) :
    (semaphore.read txn range).HoldsWrite other held <-> semaphore.HoldsWrite other held := by
  unfold read
  split
  · exact add_read_holdsWrite txn other range held
  · exact Iff.rfl

end Holdings

end Semaphore

end Native
end TransactionalCollection
