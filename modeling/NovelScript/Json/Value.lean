import NovelScript.Decimal.Binary64

/-!
# JSON values — whole numbers and decimals kept apart

Dumps, variable tables and trees are JSON. Two of its numbers that compare equal can have two
written forms (`1` and `1.0`), and the forms are kept: a whole number within sixty-four bits is
`int`, every other number is `decimal`.

An object is the list of its members in the order in which they are written. A record written field
by field lists its fields in their order of declaration; a free value read from a text lists its
members by key, each key once (`insertMember`). Keys compare by code points.
-/

set_option autoImplicit false

namespace NovelScript

/-- A JSON value. -/
inductive Json where
  | null
  | bool (value : Bool)
  | int (value : Int)
  | decimal (value : Binary64)
  | string (value : String)
  | array (items : List Json)
  | object (members : List (String × Json))
  deriving Inhabited

namespace Json

/-- A member put among members that are sorted by key; an earlier member of the same key goes. -/
def insertMember (key : String) (value : Json) : List (String × Json) → List (String × Json)
  | [] => [(key, value)]
  | (k, v) :: rest =>
    if key < k then (key, value) :: (k, v) :: rest
    else if key = k then (key, value) :: rest
    else (k, v) :: insertMember key value rest

/-- A decimal as a value: one that is no finite number has no JSON form but `null`. -/
def ofDecimal (x : Binary64) : Json :=
  match x.magnitude with
  | .finite _ _ => .decimal x
  | _ => .null

/-- A text, or `null` for none. -/
def ofText? : Option String → Json
  | some text => .string text
  | none => .null

/-- The member of an object under a key. -/
def get? : Json → String → Option Json
  | .object members, key => members.lookup key
  | _, _ => none

end Json

end NovelScript
