import Mathlib.Order.Defs.LinearOrder
import Mathlib.Tactic.Order
import Std.Data.ExtTreeMap
import TransactionalCollection.Layering.Overlay

namespace TransactionalCollection
namespace Layering

open Std (ExtTreeMap)

/-!
# Versions in time order

A timeline maps each instant to what was decided at it.  Reading through an
instant takes the versions up to it, earliest first, whatever order they were
entered in.  A frontier cuts a timeline into the versions it has passed and
the ones still ahead, and reading through a later instant is reading the
former and then the latter.
-/

variable {Time A B K V : Type} [LinearOrder Time]

/-- A list along which a relation holds splits at any predicate that only looks
back: what satisfies it comes first, and the order is kept. -/
theorem filter_append_filter_not_of_pairwise {A : Type} {earlier : A -> A -> Prop} (old : A -> Bool)
    (closed : forall first second, earlier first second -> old second = true -> old first = true)
    {entries : List A} (ordered : entries.Pairwise earlier) :
    entries.filter old ++ entries.filter (fun entry => !old entry) = entries := by
  induction ordered with
  | nil => rfl
  | @cons head tail before _ inductionHypothesis =>
      cases past : old head with
      | true =>
          simp only [List.filter_cons, past, Bool.not_true, if_true, Bool.false_eq_true, if_false,
            List.cons_append, inductionHypothesis]
      | false =>
          have none : tail.filter old = [] := by
            rw [List.filter_eq_nil_iff]
            intro later member isOld
            rw [closed head later (before later member) isOld] at past
            cases past
          have all : tail.filter (fun entry => !old entry) = tail := by
            simpa only [none, List.nil_append] using inductionHypothesis
          simp only [List.filter_cons, past, Bool.not_false, if_true, Bool.false_eq_true, if_false,
            none, all, List.nil_append]

/-- The versions through an instant, earliest first. -/
def through (versions : ExtTreeMap Time A) (time : Time) : List A :=
  (versions.toList.filter (fun entry => decide (entry.1 <= time))).map (fun entry => entry.2)

/-- The versions a frontier has not passed. -/
def ahead (versions : ExtTreeMap Time A) (frontier : Time) : ExtTreeMap Time A :=
  versions.filter (fun time _ => decide (frontier < time))

theorem toList_ordered (versions : ExtTreeMap Time A) :
    versions.toList.Pairwise (fun first second => first.1 < second.1) :=
  versions.ordered_keys_toList.imp (fun less => compare_lt_iff_lt.mp less)

theorem mem_through_iff {versions : ExtTreeMap Time A} {time : Time} {version : A} :
    version ∈ through versions time <-> exists at_, at_ <= time ∧ versions[at_]? = some version := by
  simp only [through, List.mem_map, List.mem_filter, decide_eq_true_eq]
  constructor
  · rintro ⟨⟨at_, entry⟩, ⟨member, early⟩, rfl⟩
    exact ⟨at_, early, ExtTreeMap.mem_toList_iff_getElem?_eq_some.mp member⟩
  · rintro ⟨at_, early, found⟩
    exact ⟨(at_, version), ⟨ExtTreeMap.mem_toList_iff_getElem?_eq_some.mpr found, early⟩, rfl⟩

theorem getElem?_ahead (versions : ExtTreeMap Time A) (frontier time : Time) :
    (ahead versions frontier)[time]? = if frontier < time then versions[time]? else none := by
  rw [ahead, ExtTreeMap.getElem?_filter']
  cases versions[time]? <;> simp [Option.filter]

/-- Reading through an instant at or after a frontier passes the frontier first. -/
theorem through_split (versions : ExtTreeMap Time A) {frontier time : Time}
    (past : frontier <= time) :
    through versions time = through versions frontier ++ through (ahead versions frontier) time := by
  have split := filter_append_filter_not_of_pairwise
    (fun entry : Time × A => decide (entry.1 <= frontier))
    (by
      intro first second earlier old
      rw [decide_eq_true_eq] at old ⊢
      order)
    ((toList_ordered versions).filter (fun entry => decide (entry.1 <= time)))
  unfold through ahead
  rw [← split, ExtTreeMap.toList_filter, List.map_append]
  simp only [List.filter_filter]
  congr 2
  · apply List.filter_congr
    intro entry _
    rw [Bool.eq_iff_iff, Bool.and_eq_true, decide_eq_true_eq, decide_eq_true_eq]
    constructor
    · exact fun both => both.1
    · exact fun early => ⟨early, by order⟩
  · apply List.filter_congr
    intro entry _
    rw [Bool.eq_iff_iff, Bool.and_eq_true, Bool.and_eq_true, Bool.not_eq_true',
      decide_eq_false_iff_not, not_le, decide_eq_true_eq, decide_eq_true_eq]
    exact and_comm

/-! ## Instants one by one -/

/-- The versions strictly before an instant, earliest first. -/
def earlier (versions : ExtTreeMap Nat A) (instant : Nat) : List A :=
  (versions.toList.filter (fun entry => decide (entry.1 < instant))).map (fun entry => entry.2)

theorem through_eq_earlier (versions : ExtTreeMap Nat A) (instant : Nat) :
    through versions instant = earlier versions (instant + 1) := by
  unfold through earlier
  congr 2
  funext entry
  rw [decide_eq_decide]
  exact Nat.lt_succ_iff.symm

@[simp] theorem earlier_zero (versions : ExtTreeMap Nat A) : earlier versions 0 = [] := by
  simp [earlier]

/-- A strictly ordered list holds at most one entry of any one instant. -/
theorem filter_instant (versions : ExtTreeMap Nat A) (instant : Nat) :
    (versions.toList.filter (fun entry => decide (entry.1 = instant))).map (fun entry => entry.2) =
      versions[instant]?.toList := by
  have single : forall entries : List (Nat × A),
      entries.Pairwise (fun first second => first.1 < second.1) ->
      (forall entry, entry ∈ entries -> entry.1 = instant) -> entries.length <= 1 := by
    rintro (_ | ⟨first, _ | ⟨second, rest⟩⟩) ordered here
    · exact Nat.zero_le 1
    · exact Nat.le_refl 1
    · have less := List.rel_of_pairwise_cons ordered List.mem_cons_self
      rw [here first List.mem_cons_self, here second (by simp)] at less
      exact absurd less (lt_irrefl instant)
  have atMostOne := single _ ((toList_ordered versions).filter (fun entry => decide (entry.1 = instant)))
    (fun entry member => of_decide_eq_true (List.mem_filter.mp member).2)
  have member : forall entry,
      entry ∈ versions.toList.filter (fun entry => decide (entry.1 = instant)) <->
        entry.1 = instant ∧ versions[instant]? = some entry.2 := by
    intro entry
    rw [List.mem_filter, decide_eq_true_eq, and_comm]
    refine and_congr_right (fun here => ?_)
    rw [← here]
    exact ExtTreeMap.mem_toList_iff_getElem?_eq_some
  generalize versions.toList.filter (fun entry => decide (entry.1 = instant)) = entries at *
  cases found : versions[instant]? with
  | none =>
      cases entries with
      | nil => rfl
      | cons entry rest =>
          have impossible := ((member entry).mp List.mem_cons_self).2
          rw [found] at impossible
          cases impossible
  | some version =>
      have present := (member (instant, version)).mpr ⟨rfl, found⟩
      match entries, atMostOne, present with
      | [entry], _, present =>
          rw [← List.mem_singleton.mp present]
          rfl

/-- Passing one more instant passes its version, if it has one. -/
theorem earlier_succ (versions : ExtTreeMap Nat A) (instant : Nat) :
    earlier versions (instant + 1) = earlier versions instant ++ versions[instant]?.toList := by
  have split := filter_append_filter_not_of_pairwise
    (fun entry : Nat × A => decide (entry.1 < instant))
    (by
      intro first second before old
      rw [decide_eq_true_eq] at old ⊢
      exact lt_trans before old)
    ((toList_ordered versions).filter (fun entry => decide (entry.1 < instant + 1)))
  rw [earlier, ← split, List.map_append, ← filter_instant, earlier, List.filter_filter,
    List.filter_filter]
  congr 2
  · apply List.filter_congr
    intro entry _
    rw [Bool.eq_iff_iff, Bool.and_eq_true, decide_eq_true_eq, decide_eq_true_eq]
    omega
  · apply List.filter_congr
    intro entry _
    rw [Bool.eq_iff_iff, Bool.and_eq_true, Bool.not_eq_true', decide_eq_false_iff_not,
      decide_eq_true_eq, decide_eq_true_eq]
    omega

/-- A version entered at an instant is not read before it. -/
theorem earlier_insert_of_le (versions : ExtTreeMap Nat A) (version : A) {time instant : Nat}
    (early : instant <= time) :
    earlier (versions.insert time version) instant = earlier versions instant := by
  induction instant with
  | zero => rw [earlier_zero, earlier_zero]
  | succ instant inductionHypothesis =>
      have elsewhere : time ≠ instant := Nat.ne_of_gt early
      rw [earlier_succ, earlier_succ, inductionHypothesis (Nat.le_of_succ_le early),
        ExtTreeMap.getElem?_insert, if_neg (by simpa using elsewhere)]

/-- A version entered at a free instant is read in its place among the others. -/
theorem earlier_insert (versions : ExtTreeMap Nat A) (version : A) {time instant : Nat}
    (free : versions[time]? = none) (before : time < instant) :
    exists below above, earlier versions instant = below ++ above ∧
      earlier (versions.insert time version) instant = below ++ version :: above := by
  induction instant with
  | zero => exact absurd before (Nat.not_lt_zero time)
  | succ instant inductionHypothesis =>
      rw [earlier_succ, earlier_succ, ExtTreeMap.getElem?_insert]
      rcases Nat.lt_succ_iff_lt_or_eq.mp before with past | rfl
      · rcases inductionHypothesis past with ⟨below, above, old, new⟩
        refine ⟨below, above ++ versions[instant]?.toList, ?_, ?_⟩
        · rw [old, List.append_assoc]
        · rw [new, if_neg (by simpa using Nat.ne_of_lt past), List.append_assoc, List.cons_append]
      · refine ⟨earlier versions time, [], ?_, ?_⟩
        · rw [free]
          rfl
        · rw [earlier_insert_of_le versions version (Nat.le_refl time), if_pos (by simp)]
          rfl

end Layering
end TransactionalCollection
