import TransactionalCollection.Native.Signature

namespace TransactionalCollection
namespace Native

open Std

/-!
# A concrete vocabulary

Numbers, texts, types and tuples of values, with the absent value among them.
The collator compares values by a code in which none is a prefix of another, so
only identical values tie.
-/

inductive DatumType where
  | none
  | number
  | text
  | dtype
  | tuple
  deriving DecidableEq, Repr

inductive Datum where
  | none
  | number (value : Nat)
  | text (value : String)
  | dtype (type : DatumType)
  | tuple (items : List Datum)

namespace DatumType

def code : DatumType -> Nat
  | .none => 0
  | .number => 1
  | .text => 2
  | .dtype => 3
  | .tuple => 4

theorem code_injective {first second : DatumType} (same : first.code = second.code) :
    first = second := by
  cases first <;> cases second <;> first | rfl | cases same

/-- The name a type goes by, also as a path. -/
def name : DatumType -> String
  | .none => "none"
  | .number => "number"
  | .text => "string"
  | .dtype => "class"
  | .tuple => "tuple"

def fromName (name : String) : Option DatumType :=
  [DatumType.none, .number, .text, .dtype, .tuple].find? (fun type => decide (type.name = name))

theorem fromName_name (type : DatumType) : fromName type.name = some type := by
  cases type <;> decide

end DatumType

namespace Datum

def type : Datum -> DatumType
  | .none => .none
  | .number _ => .number
  | .text _ => .text
  | .dtype _ => .dtype
  | .tuple _ => .tuple

mutual

def code : Datum -> List Nat
  | .none => [0]
  | .number value => [1, value]
  | .text value => 2 :: value.toList.length :: value.toList.map Char.toNat
  | .dtype type => [3, type.code]
  | .tuple items => 4 :: items.length :: codeAll items

def codeAll : List Datum -> List Nat
  | [] => []
  | item :: items => code item ++ codeAll items

end

mutual

/-- What follows a code can be told from the code. -/
theorem code_append_inj : (first second : Datum) -> (rest rest' : List Nat) ->
    code first ++ rest = code second ++ rest' -> first = second ∧ rest = rest'
  | .none, .none, _, _, same => ⟨rfl, by simpa [code] using same⟩
  | .number _, .number _, _, _, same => by simpa [code] using same
  | .text _, .text _, _, _, same => by
      simp only [code, List.cons_append, List.cons.injEq, true_and] at same
      rcases List.append_inj same.2 (by simp [same.1]) with ⟨characters, rest⟩
      have texts := (List.map_inj_right (fun _ _ => Char.toNat_inj.mp)).mp characters
      rw [String.toList_inj.mp texts]
      exact ⟨rfl, rest⟩
  | .dtype _, .dtype _, _, _, same => by
      simp only [code, List.cons_append, List.nil_append, List.cons.injEq, true_and] at same
      rw [DatumType.code_injective same.1]
      exact ⟨rfl, same.2⟩
  | .tuple first, .tuple second, rest, rest', same => by
      simp only [code, List.cons_append, List.cons.injEq, true_and] at same
      rcases codeAll_append_inj first second rest rest' same.1 same.2 with ⟨rfl, rest⟩
      exact ⟨rfl, rest⟩
  | .none, .number _, _, _, same | .none, .text _, _, _, same | .none, .dtype _, _, _, same
  | .none, .tuple _, _, _, same | .number _, .none, _, _, same | .number _, .text _, _, _, same
  | .number _, .dtype _, _, _, same | .number _, .tuple _, _, _, same | .text _, .none, _, _, same
  | .text _, .number _, _, _, same | .text _, .dtype _, _, _, same | .text _, .tuple _, _, _, same
  | .dtype _, .none, _, _, same | .dtype _, .number _, _, _, same | .dtype _, .text _, _, _, same
  | .dtype _, .tuple _, _, _, same | .tuple _, .none, _, _, same | .tuple _, .number _, _, _, same
  | .tuple _, .text _, _, _, same | .tuple _, .dtype _, _, _, same => by simp [code] at same

theorem codeAll_append_inj : (first second : List Datum) -> (rest rest' : List Nat) ->
    first.length = second.length -> codeAll first ++ rest = codeAll second ++ rest' ->
    first = second ∧ rest = rest'
  | [], [], _, _, _, same => ⟨rfl, by simpa [codeAll] using same⟩
  | item :: items, item' :: items', rest, rest', long, same => by
      rw [codeAll, codeAll, List.append_assoc, List.append_assoc] at same
      rcases code_append_inj item item' _ _ same with ⟨rfl, following⟩
      rcases codeAll_append_inj items items' rest rest' (Nat.succ.inj long) following with ⟨rfl, rest⟩
      exact ⟨rfl, rest⟩
  | [], _ :: _, _, _, long, _ | _ :: _, [], _, _, long, _ => by simp at long

end

theorem code_injective {first second : Datum} (same : first.code = second.code) : first = second :=
  (code_append_inj first second [] [] (by rw [same])).1

mutual

/-- How a value is printed in a message. -/
def debug : Datum -> String
  | .none => "None"
  | .number value => toString value
  | .text value => value
  | .dtype type => type.name
  | .tuple items =>
      let listed := debugAll items
      s!"({listed})"

def debugAll : List Datum -> String
  | [] => ""
  | item :: items => item.debug ++ " " ++ debugAll items

end

/-- `ValueCollator`. -/
def collate : Datum -> Datum -> Ordering := compareOn code

instance : TransCmp collate := inferInstanceAs (TransCmp (compareOn code))

instance : LawfulEqCmp collate where
  eq_of_compare := fun same => code_injective (LawfulEqCmp.eq_of_compare same)

end Datum

/-- The vocabulary of values of several types, with texts for names. -/
def Signature.data : Signature where
  Id := String
  idDecidableEq := inferInstance
  displayId name := name
  ValueType := DatumType
  typeDecidableEq := inferInstance
  debugType := DatumType.name
  Value := Datum
  classOf := Datum.type
  debugValue := Datum.debug
  collate := Datum.collate
  collate_trans := inferInstance
  collate_eq := inferInstance

end Native
end TransactionalCollection
