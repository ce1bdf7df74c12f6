import Sensornet.Entries
import Sensornet.Json.Number

namespace Sensornet
namespace Json

/-!
# JSON values

Objects keep the order of their keys.  A value is plain data: that an object
does not repeat a key is a property of what the reader returns and what the
operations of `Entries` keep, not a part of the type.
-/

/-- A JSON value. -/
inductive Value where
  | null
  | bool (flag : Bool)
  | number (n : Number)
  | text (s : String)
  | array (items : List Value)
  | object (fields : List (String × Value))

instance : Inhabited Value := ⟨.null⟩

/-- The members of an object, in order. -/
abbrev Fields := List (String × Value)

namespace Value

/-- An integer as a value. -/
def integer (i : Int) : Value :=
  .number (.integer i)

/-- A computed float as a value.  JSON has no text for infinities and for the
result of an undefined operation, so these become `null`. -/
def float (x : Float) : Value :=
  if x.isFinite then .number (.float x) else .null

/-- The member of an object; nothing for any other value. -/
def get? (key : String) : Value -> Option Value
  | .object fields => Entries.get? key fields
  | _ => none

/-- The members of an object, or none for any other value. -/
def fields : Value -> Fields
  | .object fields => fields
  | _ => []

def text? : Value -> Option String
  | .text s => some s
  | _ => none

def array? : Value -> Option (List Value)
  | .array items => some items
  | _ => none

def object? : Value -> Option Fields
  | .object fields => some fields
  | _ => none

def number? : Value -> Option Number
  | .number n => some n
  | _ => none

def isNull : Value -> Bool
  | .null => true
  | _ => false

def isArray : Value -> Bool
  | .array _ => true
  | _ => false

def isObject : Value -> Bool
  | .object _ => true
  | _ => false

/-- A list where one value may stand for a list of one: the items of an
array, nothing for `null`, any other value alone. -/
def items : Value -> List Value
  | .null => []
  | .array items => items
  | other => [other]

/-- `items` of a member that may be absent. -/
def itemsOf (value : Option Value) : List Value :=
  (value.map items).getD []

mutual

/-- Equality of values.  The order of an object's keys does not count. -/
def same : Value -> Value -> Bool
  | .null, .null => true
  | .bool a, .bool b => a == b
  | .number a, .number b => a.same b
  | .text a, .text b => a == b
  | .array a, .array b => sameItems a b
  | .object a, .object b => a.length == b.length && sameFields a b
  | _, _ => false
termination_by structural v => v

def sameItems : List Value -> List Value -> Bool
  | [], [] => true
  | a :: as, b :: bs => a.same b && sameItems as bs
  | _, _ => false
termination_by structural v => v

/-- Every member of the first object is a member of the second. -/
def sameFields : Fields -> Fields -> Bool
  | [], _ => true
  | (key, a) :: rest, other =>
    (match Entries.get? key other with
      | some b => a.same b
      | none => false) && sameFields rest other
termination_by structural v => v

end

mutual

/-- The texts of a value, its keys excepted, in document order. -/
def texts : Value -> List String
  | .text s => [s]
  | .array items => textsOfItems items
  | .object fields => textsOfFields fields
  | _ => []
termination_by structural v => v

def textsOfItems : List Value -> List String
  | [] => []
  | item :: rest => item.texts ++ textsOfItems rest
termination_by structural v => v

def textsOfFields : Fields -> List String
  | [] => []
  | (_, item) :: rest => item.texts ++ textsOfFields rest
termination_by structural v => v

end

end Value
end Json
end Sensornet
