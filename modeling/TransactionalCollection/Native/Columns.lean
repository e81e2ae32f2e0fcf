import Mathlib.Data.List.Nodup

namespace TransactionalCollection
namespace Native

/-!
# Keeping some columns of a record

The items of a record stand under names, in order.  A selection keeps the items
whose names pass a test.  If no two of the kept names are the same, the kept
items are those found under the kept names one after another.
-/

section Kept

variable {A B C : Type} (keep : A -> Bool)

/-- The items whose names are kept. -/
def kept (names : List A) (items : List B) : List B :=
  ((names.zip items).filter (fun column => keep column.1)).map Prod.snd

@[simp] theorem kept_nil (items : List B) : kept keep [] items = [] := rfl

theorem kept_cons_of_keep {name : A} (kept_ : keep name = true) (names : List A) (item : B)
    (items : List B) : kept keep (name :: names) (item :: items) = item :: kept keep names items := by
  simp [kept, kept_]

theorem kept_cons_of_drop {name : A} (dropped : keep name = false) (names : List A) (item : B)
    (items : List B) : kept keep (name :: names) (item :: items) = kept keep names items := by
  simp [kept, dropped]

theorem kept_length {names : List A} {items : List B} (width : items.length = names.length) :
    (kept keep names items).length = (names.filter keep).length := by
  induction names generalizing items with
  | nil => rfl
  | cons name names inductionHypothesis =>
      cases items with
      | nil => cases width
      | cons item items =>
          have rest := inductionHypothesis (Nat.succ.inj width)
          cases keeping : keep name with
          | true =>
              rw [kept_cons_of_keep keep keeping, List.filter_cons_of_pos keeping, List.length_cons,
                List.length_cons, rest]
          | false =>
              rw [kept_cons_of_drop keep keeping, List.filter_cons_of_neg (by simp [keeping]), rest]

/-- Kept items stand beside those kept of another record. -/
theorem mem_zip_kept {names : List A} {items : List B} {others : List C} {pair : B × C}
    (member : pair ∈ (kept keep names items).zip (kept keep names others)) : pair ∈ items.zip others := by
  induction names generalizing items others with
  | nil => cases member
  | cons name names inductionHypothesis =>
      cases items with
      | nil => cases member
      | cons item items =>
          cases others with
          | nil =>
              rw [show kept keep (name :: names) ([] : List C) = [] from rfl, List.zip_nil_right] at member
              cases member
          | cons other others =>
              rw [List.zip_cons_cons, List.mem_cons]
              cases keeping : keep name with
              | true =>
                  rw [kept_cons_of_keep keep keeping, kept_cons_of_keep keep keeping, List.zip_cons_cons,
                    List.mem_cons] at member
                  exact member.imp id inductionHypothesis
              | false =>
                  rw [kept_cons_of_drop keep keeping, kept_cons_of_drop keep keeping] at member
                  exact Or.inr (inductionHypothesis member)

/-- The first items are kept if their names are. -/
theorem kept_take {names : List A} {items : List B} {count : Nat}
    (keeps : forall name, name ∈ names.take count -> keep name = true)
    (width : items.length = names.length) : (kept keep names items).take count = items.take count := by
  induction count generalizing names items with
  | zero => rfl
  | succ count inductionHypothesis =>
      cases names with
      | nil => rw [List.length_eq_zero_iff.mp width, kept_nil]
      | cons name names =>
          cases items with
          | nil => cases width
          | cons item items =>
              rw [List.take_succ_cons, List.forall_mem_cons] at keeps
              rw [kept_cons_of_keep keep keeps.1, List.take_succ_cons, List.take_succ_cons,
                inductionHypothesis keeps.2 (Nat.succ.inj width)]

variable [DecidableEq A]

/-- The item under a name: the first of them, if there are several. -/
def under (names : List A) (items : List B) (name : A) : Option B :=
  (names.findIdx? (fun other => decide (other = name))).bind (fun index => items[index]?)

theorem under_cons_self (name : A) (names : List A) (item : B) (items : List B) :
    under (name :: names) (item :: items) name = some item := by
  simp [under, List.findIdx?_cons]

theorem under_cons_of_ne {first name : A} (different : first ≠ name) (names : List A) (item : B)
    (items : List B) : under (first :: names) (item :: items) name = under names items name := by
  rw [under, List.findIdx?_cons, if_neg (by simpa using different), under]
  cases names.findIdx? (fun other => decide (other = name)) with
  | none => rfl
  | some index => rfl

/-- Looked up under distinct names, the kept items are found. -/
theorem filterMap_under {names : List A} {items : List B} (distinct : (names.filter keep).Nodup)
    (width : items.length = names.length) :
    (names.filter keep).filterMap (under names items) = kept keep names items := by
  induction names generalizing items with
  | nil => rfl
  | cons name names inductionHypothesis =>
      cases items with
      | nil => cases width
      | cons item items =>
          have elsewhere : name ∉ names.filter keep -> (names.filter keep).filterMap
              (under (name :: names) (item :: items)) = (names.filter keep).filterMap (under names items) := by
            intro absent
            apply List.filterMap_congr
            intro other member
            apply under_cons_of_ne
            intro same
            exact absent (same ▸ member)
          cases keeping : keep name with
          | true =>
              rw [List.filter_cons_of_pos keeping, List.nodup_cons] at distinct
              rw [List.filter_cons_of_pos keeping, List.filterMap_cons_some (under_cons_self ..),
                elsewhere distinct.1, inductionHypothesis distinct.2 (Nat.succ.inj width),
                kept_cons_of_keep keep keeping]
          | false =>
              rw [List.filter_cons_of_neg (by simp [keeping])] at distinct ⊢
              have absent : name ∉ names.filter keep := by
                intro member
                rw [(List.mem_filter.mp member).2] at keeping
                cases keeping
              rw [elsewhere absent, inductionHypothesis distinct (Nat.succ.inj width),
                kept_cons_of_drop keep keeping]

/-- The item found under a name stands beside it. -/
theorem mem_zip_of_under {names : List A} {items : List B} {name : A} {item : B}
    (found : under names items name = some item) : (name, item) ∈ names.zip items := by
  induction names generalizing items with
  | nil => cases found
  | cons first names inductionHypothesis =>
      cases items with
      | nil => simp [under] at found
      | cons other items =>
          by_cases same : first = name
          · subst same
            rw [under_cons_self] at found
            cases found
            exact List.mem_cons_self
          · rw [under_cons_of_ne same] at found
            exact List.mem_cons_of_mem _ (inductionHypothesis found)

theorem under_isSome {names : List A} {items : List B} {name : A} {item : B}
    (member : (name, item) ∈ names.zip items) : exists found, under names items name = some found := by
  induction names generalizing items with
  | nil => cases member
  | cons first names inductionHypothesis =>
      cases items with
      | nil => cases member
      | cons other items =>
          by_cases same : first = name
          · exact ⟨other, same ▸ under_cons_self ..⟩
          · rw [under_cons_of_ne same]
            rcases List.mem_cons.mp member with head | tail
            · exact absurd (Prod.mk.inj head).1.symm same
            · exact inductionHypothesis tail

theorem filterMap_eq_map_iff {Pair Found : Type} {find : Pair -> Option Found} {item : Pair -> Found}
    {pairs : List Pair}
    (finds : forall pair, pair ∈ pairs -> exists found, find pair = some found) :
    pairs.filterMap find = pairs.map item <-> forall pair, pair ∈ pairs -> find pair = some (item pair) := by
  induction pairs with
  | nil => simp
  | cons pair pairs inductionHypothesis =>
      rcases finds pair List.mem_cons_self with ⟨found, head⟩
      have rest := inductionHypothesis (fun later member => finds later (List.mem_cons_of_mem _ member))
      rw [List.filterMap_cons_some head, List.map_cons, List.cons.injEq, rest, List.forall_mem_cons, head,
        Option.some.injEq]

/-- Items of one kept name are all the same. -/
def OneItem (names : List A) (items : List B) : Prop :=
  forall name, keep name = true -> forall first second, (name, first) ∈ names.zip items ->
    (name, second) ∈ names.zip items -> first = second

/-- Looked up under their names, the kept items are found if and only if items of
one name are all the same. -/
theorem filterMap_under_iff {names : List A} {items : List B} (width : items.length = names.length) :
    (names.filter keep).filterMap (under names items) = kept keep names items <-> OneItem keep names items := by
  have sides : names.filter keep = ((names.zip items).filter (fun column => keep column.1)).map Prod.fst := by
    have names_eq : (names.zip items).map Prod.fst = names := List.map_fst_zip (Nat.le_of_eq width.symm)
    calc names.filter keep = ((names.zip items).map Prod.fst).filter keep := by rw [names_eq]
      _ = ((names.zip items).filter (fun column => keep column.1)).map Prod.fst := List.filter_map
  rw [sides, List.filterMap_map, kept]
  have found : forall column, column ∈ (names.zip items).filter (fun column => keep column.1) ->
      exists found, (under names items ∘ Prod.fst) column = some found := by
    intro column member
    exact under_isSome (List.mem_filter.mp member).1
  rw [filterMap_eq_map_iff found]
  constructor
  · intro each name keeping first second firstMember secondMember
    have one := each (name, first) (List.mem_filter.mpr ⟨firstMember, keeping⟩)
    have other := each (name, second) (List.mem_filter.mpr ⟨secondMember, keeping⟩)
    exact Option.some.inj (one.symm.trans other)
  · intro one column member
    rcases List.mem_filter.mp member with ⟨stands, keeping⟩
    rcases under_isSome stands with ⟨found, here⟩
    rw [Function.comp_apply, here, one column.1 keeping found column.2 (mem_zip_of_under here) stands]

end Kept

end Native
end TransactionalCollection
