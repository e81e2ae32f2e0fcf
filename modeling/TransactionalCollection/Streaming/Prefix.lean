import TransactionalCollection.Streaming.SortedStream

namespace TransactionalCollection
namespace Streaming

open Std

/-!
# First items of a stream

A strict stream may yield items besides those which are wanted of it.  Its first
items are the first wanted ones only if each of the others comes after as many
wanted ones, and if all of it is asked for, only if there are no others.
-/

variable {A B : Type}

/-- The first items, or all if there is no limit. -/
def capped (limit : Option Nat) (stream : List A) : List A :=
  match limit with
  | some limit => stream.take limit
  | none => stream

theorem forward_injective {reverse : Bool} {first second : List A}
    (same : forward reverse first = forward reverse second) : first = second := by
  cases reverse with
  | false => exact same
  | true => exact List.reverse_injective same

theorem nodup_forward {reverse : Bool} {stream : List A} :
    (forward reverse stream).Nodup <-> stream.Nodup := by
  cases reverse with
  | false => exact Iff.rfl
  | true => exact List.nodup_reverse

theorem forward_map {reverse : Bool} (image : A -> B) (stream : List A) :
    forward reverse (stream.map image) = (forward reverse stream).map image := by
  cases reverse with
  | false => rfl
  | true => exact List.map_reverse.symm

/-- A stream of all items which are wanted, one way through their order. -/
structure Enumerates (cmp : A -> A -> Ordering) (reverse : Bool) (wanted : A -> Prop)
    (stream : List A) : Prop where
  strict : StrictlyAscending cmp (forward reverse stream)
  mem_iff : forall item, item ∈ stream <-> wanted item

theorem Enumerates.unique {cmp : A -> A -> Ordering} [TransCmp cmp] {reverse : Bool}
    {wanted : A -> Prop} {first second : List A} (firstly : Enumerates cmp reverse wanted first)
    (secondly : Enumerates cmp reverse wanted second) : first = second := by
  apply forward_injective
  apply firstly.strict.ext secondly.strict
  intro item
  rw [mem_forward, mem_forward, firstly.mem_iff, secondly.mem_iff]

theorem Enumerates.nodup {cmp : A -> A -> Ordering} [TransCmp cmp] {reverse : Bool} {wanted : A -> Prop}
    {stream : List A} (listing : Enumerates cmp reverse wanted stream) : stream.Nodup :=
  nodup_forward.mp listing.strict.nodup

/-- Either way, there are as many items as are wanted. -/
theorem Enumerates.length_eq {cmp : A -> A -> Ordering} [TransCmp cmp] {reverse otherReverse : Bool}
    {wanted : A -> Prop} {first second : List A} (firstly : Enumerates cmp reverse wanted first)
    (secondly : Enumerates cmp otherReverse wanted second) : first.length = second.length := by
  apply List.Perm.length_eq
  apply (List.perm_ext_iff_of_nodup firstly.nodup secondly.nodup).mpr
  intro item
  rw [firstly.mem_iff, secondly.mem_iff]

theorem Enumerates.isEmpty_iff {cmp : A -> A -> Ordering} {reverse : Bool} {wanted : A -> Prop}
    {stream : List A} (listing : Enumerates cmp reverse wanted stream) :
    stream.isEmpty = true <-> forall item, ¬ wanted item := by
  rw [List.isEmpty_iff, List.eq_nil_iff_forall_not_mem]
  apply forall_congr'
  intro item
  rw [listing.mem_iff]

/-! ## Prefixes -/

/-- Filtering keeps the first items, told apart by an image of them, if and only
if it keeps each of them. -/
theorem take_filter_map_eq_iff {image : A -> B} {keep : A -> Bool} {stream : List A}
    (apart : stream.Pairwise (fun first second => image first ≠ image second)) (limit : Nat) :
    ((stream.filter keep).take limit).map image = (stream.take limit).map image <->
      forall item, item ∈ stream.take limit -> keep item = true := by
  induction stream generalizing limit with
  | nil => simp
  | cons first rest inductionHypothesis =>
      rcases List.pairwise_cons.mp apart with ⟨firstApart, restApart⟩
      cases limit with
      | zero => simp
      | succ limit =>
          cases kept : keep first with
          | true =>
              rw [List.filter_cons_of_pos kept, List.take_succ_cons, List.take_succ_cons, List.map_cons,
                List.map_cons, List.cons_inj_right, inductionHypothesis restApart limit,
                List.forall_mem_cons, and_iff_right kept]
          | false =>
              have dropped : ¬ keep first = true := by
                rw [kept]
                exact Bool.false_ne_true
              rw [List.filter_cons_of_neg dropped, List.take_succ_cons]
              constructor
              · intro same
                have present : image first ∈ ((rest.filter keep).take (limit + 1)).map image := by
                  rw [same]
                  exact List.mem_cons_self
                rcases List.mem_map.mp present with ⟨later, member, equal⟩
                have listed := List.mem_of_mem_filter (List.mem_of_mem_take member)
                exact absurd equal.symm (firstApart later listed)
              · intro all
                exact absurd (all first List.mem_cons_self) dropped

section Counting

variable {cmp : A -> A -> Ordering} [TransCmp cmp] {stream : List A} {item : A}

/-- As many items come before one of the first. -/
theorem StrictlyAscending.countP_lt (strict : StrictlyAscending cmp stream) {limit : Nat}
    (member : item ∈ stream.take limit) :
    stream.countP (fun other => cmp other item == .lt) < limit := by
  induction stream generalizing limit with
  | nil =>
      rw [List.take_nil] at member
      cases member
  | cons first rest inductionHypothesis =>
      rcases List.pairwise_cons.mp strict with ⟨firstLess, restStrict⟩
      cases limit with
      | zero => cases member
      | succ limit =>
          rw [List.take_succ_cons] at member
          rcases List.mem_cons.mp member with rfl | later
          · have none : (item :: rest).countP (fun other => cmp other item == .lt) = 0 := by
              apply List.countP_eq_zero.mpr
              intro other listed less
              rcases List.mem_cons.mp listed with rfl | later
              · have self : cmp other other = .eq := ReflCmp.compare_self
                rw [self] at less
                cases less
              · exact OrientedCmp.not_lt_of_lt (firstLess other later) (eq_of_beq less)
            omega
          · have before := inductionHypothesis restStrict later
            rw [List.countP_cons]
            split <;> omega

omit [TransCmp cmp] in
/-- The first items all come before the others. -/
theorem StrictlyAscending.lt_of_drop (strict : StrictlyAscending cmp stream) {limit : Nat}
    (member : item ∈ stream.drop limit) {other : A} (first : other ∈ stream.take limit) :
    cmp other item = .lt := by
  have split : StrictlyAscending cmp (stream.take limit ++ stream.drop limit) := by
    rw [List.take_append_drop]
    exact strict
  exact (List.pairwise_append.mp split).2.2 other first item member

end Counting

/-- The limit is used up by the wanted items before this one. -/
def UsedUp (cmp : A -> A -> Ordering) (wanted : List A) (limit : Option Nat) (item : A) : Prop :=
  exists count, limit = some count ∧ count <= wanted.countP (fun other => cmp other item == .lt)

section Wanted

variable {cmp : A -> A -> Ordering} [TransCmp cmp] {image : A -> B} {wanted stream : List A}

/-- The wanted items are what a filter leaves of the stream. -/
theorem exists_filter (wantedStrict : StrictlyAscending cmp wanted) (strict : StrictlyAscending cmp stream)
    (within : forall item, item ∈ wanted -> item ∈ stream) :
    exists test : A -> Bool, (forall item, test item = true <-> item ∈ wanted) ∧ wanted = stream.filter test := by
  classical
  refine ⟨fun item => decide (item ∈ wanted), fun item => decide_eq_true_iff, ?_⟩
  apply wantedStrict.ext (strict.filter _)
  intro item
  rw [List.mem_filter, decide_eq_true_iff]
  exact ⟨fun member => ⟨within item member, member⟩, And.right⟩

/-- So many items come before one which is not wanted, if all of the first are wanted. -/
theorem usedUp_of_first_wanted (wantedStrict : StrictlyAscending cmp wanted) (strict : StrictlyAscending cmp stream)
    (within : forall item, item ∈ wanted -> item ∈ stream) {count : Nat}
    (all : forall item, item ∈ stream.take count -> item ∈ wanted) {item : A} (member : item ∈ stream)
    (unwanted : item ∉ wanted) : UsedUp cmp wanted (some count) item := by
  rcases exists_filter wantedStrict strict within with ⟨test, tests, filtered⟩
  have later : item ∈ stream.drop count := by
    rw [← List.take_append_drop count stream] at member
    rcases List.mem_append.mp member with first | later
    · exact absurd (all item first) unwanted
    · exact later
  have long : (stream.take count).length = count := by
    have nonempty := List.length_pos_of_mem later
    rw [List.length_drop] at nonempty
    rw [List.length_take]
    omega
  have part : (stream.take count).Sublist wanted := by
    have keptPart := (List.take_sublist count stream).filter test
    rw [← filtered] at keptPart
    rwa [List.filter_eq_self.mpr (fun first listed => (tests first).mpr (all first listed))] at keptPart
  refine ⟨count, rfl, ?_⟩
  calc count = (stream.take count).countP (fun other => cmp other item == .lt) := by
        rw [List.countP_eq_length.mpr, long]
        intro other first
        rw [strict.lt_of_drop later first]
        rfl
    _ <= wanted.countP (fun other => cmp other item == .lt) := part.countP_le

/-- The first items of a stream are the first wanted items exactly if the limit
is used up before each of the others. -/
theorem capped_map_eq_iff (wantedStrict : StrictlyAscending cmp wanted)
    (strict : StrictlyAscending cmp stream) (within : forall item, item ∈ wanted -> item ∈ stream)
    (apart : stream.Pairwise (fun first second => image first ≠ image second)) (limit : Option Nat) :
    (capped limit wanted).map image = (capped limit stream).map image <->
      forall item, item ∈ stream -> item ∉ wanted -> UsedUp cmp wanted limit item := by
  rcases exists_filter wantedStrict strict within with ⟨test, tests, filtered⟩
  have sublist : wanted.Sublist stream := by
    rw [filtered]
    exact List.filter_sublist
  have firstItems : forall count, (wanted.take count).map image = (stream.take count).map image <->
      forall item, item ∈ stream.take count -> item ∈ wanted := by
    intro count
    have kept : ((stream.filter test).take count).map image = (stream.take count).map image <->
        forall item, item ∈ stream.take count -> test item = true := take_filter_map_eq_iff apart count
    rw [← filtered] at kept
    simpa only [tests] using kept
  cases limit with
  | none =>
      have whole := firstItems stream.length
      rw [List.take_length, List.take_of_length_le sublist.length_le] at whole
      apply whole.trans
      constructor
      · intro all item member unwanted
        exact absurd (all item member) unwanted
      · intro used item member
        by_contra unwanted
        rcases used item member unwanted with ⟨count, impossible, _⟩
        cases impossible
  | some count =>
      apply (firstItems count).trans
      constructor
      · intro all item member unwanted
        exact usedUp_of_first_wanted wantedStrict strict within all member unwanted
      · intro used item first
        by_contra unwanted
        rcases used item (List.mem_of_mem_take first) unwanted with ⟨_, same, enough⟩
        cases same
        have fewer := strict.countP_lt first
        have less : wanted.countP (fun other => cmp other item == .lt) <=
            stream.countP (fun other => cmp other item == .lt) := sublist.countP_le
        omega

end Wanted

end Streaming
end TransactionalCollection
