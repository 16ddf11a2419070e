import ModelProbe.Json.Value

/-! Records in JSON.

A record is an object with its fields as keys, or an array of its fields in order. In an
object other keys are passed over and no field may stand twice; an array may end early
but not run on. What stands in a field's place is a `Slot`, and how a field is read from
its slot is the field's own rule: required, optional, or with a default. -/
namespace ModelProbe.Json

/-- What stands in a field's place. -/
inductive Slot where
  /-- The object has no such key. -/
  | absent
  /-- The array ends before it. -/
  | cut
  | given (t : Tree)

/-- The slot of the field with this name. -/
def slot (members : List (Option String × Tree)) (name : String) : Slot :=
  match members.find? fun m => m.1 == some name with
  | some (_, t) => .given t
  | none => .absent

/-- The slots of the fields with these names. -/
def Tree.slots? (names : List String) : Tree → Option (List Slot)
  | .object members => do
    let keys ← members.mapM Prod.fst
    if names.all fun n => keys.count n ≤ 1 then return names.map (slot members) else none
  | .array items =>
    if items.length ≤ names.length then
      some (items.map .given ++ List.replicate (names.length - items.length) .cut)
    else none
  | _ => none

namespace Slot

variable {α : Type}

def required (read : Tree → Option α) : Slot → Option α
  | .given t => read t
  | _ => none

/-- Null is no value; a field left out is none either. -/
def optional (read : Tree → Option α) : Slot → Option (Option α)
  | .given .null => some none
  | .given t => (read t).map some
  | _ => some none

/-- Null does not stand for the default. -/
def default (d : α) (read : Tree → Option α) : Slot → Option α
  | .given t => read t
  | _ => some d

end Slot

namespace Tree

def string? : Tree → Option String
  | .string s => s
  | _ => none

def number? : Tree → Option Number
  | .number l => l.number?
  | _ => none

def double? (t : Tree) : Option Double :=
  t.number?.map Number.toDouble

/-- An integer literal from 0 to `2 ^ 64 - 1`. -/
def nat? (t : Tree) : Option Nat :=
  match t.number? with
  | some (.integer (.ofNat n)) => some n
  | _ => none

/-- An integer literal of 64 bits with a sign. -/
def int64? (t : Tree) : Option Int64 :=
  t.number?.bind Number.int64?

def list? {α : Type} (read : Tree → Option α) : Tree → Option (List α)
  | .array items => items.mapM read
  | _ => none

/-- One of a set of names, as a string or as the only key of an object with the value null. -/
def oneOf? {α : Type} (name? : String → Option α) : Tree → Option α
  | .string s => s.bind name?
  | .object [(k, .null)] => k.bind name?
  | _ => none

end Tree

end ModelProbe.Json
