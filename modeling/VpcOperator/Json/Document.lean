import VpcOperator.Json.Numeral
import VpcOperator.Table

/-!
# JSON documents

A document keeps its members in the order of the text, repeated ones included,
and tells an integer from every other numeral.
-/

namespace VpcOperator

inductive Json where
  | null
  | bool (value : Bool)
  | integer (value : Int)
  /-- A number that is not written as an integer, or the negative zero. -/
  | numeral (number : Json.Numeral)
  | string (value : String)
  | array (items : List Json)
  | object (members : List (String × Json))
  deriving Inhabited, BEq

namespace Json

mutual

/-- Of members with the same name, at any depth, only the last one, and members in ascending
order of their names. -/
def canonical : Json → Json
  | .array items => .array (canonicalItems items)
  | .object members => .object (canonicalMembers members [])
  | other => other

def canonicalItems : List Json → List Json
  | [] => []
  | item :: rest => canonical item :: canonicalItems rest

/-- Puts the members among those that came before. -/
def canonicalMembers : List (String × Json) → List (String × Json) → List (String × Json)
  | [], before => before
  | (name, value) :: rest, before =>
    canonicalMembers rest (Table.insertEntry name (canonical value) before)

end

/-- Whether two documents say the same: the order of members does not matter. -/
def agrees (a b : Json) : Bool :=
  a.canonical == b.canonical

end Json

end VpcOperator
