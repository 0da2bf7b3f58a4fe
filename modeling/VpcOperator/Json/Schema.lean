import VpcOperator.Json.Reader
import VpcOperator.Table

/-!
# Schemas

How a type is written as a document and read back. Reading looks members up by
name, so their order and members of other names do not matter; a member that
is looked up must not be repeated. In a text the other members are passed over.
-/

namespace VpcOperator

class Schema (α : Type) where
  encode : α → Json
  decode : Json → Option α
  /-- What is looked at in a text. -/
  shape : Json.Shape := .whole

abbrev Members := List (String × Json)

namespace Schema

variable {α : Type}

def ofText [Schema α] (text : String) : Option α :=
  (Json.read (shape α) text).bind decode

def members? : Json → Option Members
  | .object members => some members
  | _ => none

/-- The values given under one name. -/
def given (members : Members) (name : String) : List Json :=
  (members.filter fun member => member.1 = name).map (·.2)

def requiredBy (read : Json → Option α) (members : Members) (name : String) : Option α :=
  match given members name with
  | [value] => read value
  | _ => none

def required [Schema α] (members : Members) (name : String) : Option α :=
  requiredBy decode members name

def decodeNullable [Schema α] : Json → Option (Option α)
  | .null => some none
  | value => (decode value).map some

/-- Absent and null are the same. -/
def optional [Schema α] (members : Members) (name : String) : Option (Option α) :=
  match given members name with
  | [] => some none
  | [value] => decodeNullable value
  | _ => none

/-- Like an optional member, but it may be repeated and then the last one counts. -/
def lastOptional [Schema α] (members : Members) (name : String) : Option (Option α) :=
  ((given members name).mapM decodeNullable).map fun values => values.getLast?.join

/-- Absent stands for the default, null does not. -/
def defaultedBy (read : Json → Option α) (members : Members) (name : String) (default : α) :
    Option α :=
  match given members name with
  | [] => some default
  | [value] => read value
  | _ => none

def defaulted [Schema α] (members : Members) (name : String) (default : α) : Option α :=
  defaultedBy decode members name default

def field [Schema α] (name : String) (value : α) : Members :=
  [(name, encode value)]

def optionalField [Schema α] (name : String) : Option α → Members
  | none => []
  | some value => field name value

/-- Nothing is written for the empty value. -/
def unlessEmpty [Schema α] (isEmpty : α → Bool) (name : String) (value : α) : Members :=
  if isEmpty value then [] else field name value

/-- Whether a choice is named only, or may also be given by its position. -/
inductive TagForm where
  | name
  | nameOrPosition
  deriving DecidableEq

def readTag (form : TagForm) (choices : List (String × α)) : Json → Option α
  | .string name => choices.lookup name
  | .integer position =>
    match form with
    | .name => none
    | .nameOrPosition => if position < 0 then none else choices[position.toNat]?.map (·.2)
  | _ => none

/-- A named choice may also be written as an object with that name and null. -/
def readChoice (choices : List (String × α)) : Json → Option α
  | .object [(name, .null)] => choices.lookup name
  | document => readTag .name choices document

/-- Members that are looked at as a whole. -/
def leaves (names : List String) : List (String × Json.Shape) :=
  names.map fun name => (name, .whole)

def readList (read : Json → Option α) : Json → Option (List α)
  | .array items => items.mapM read
  | _ => none

instance : Schema String where
  encode := .string
  decode
    | .string value => some value
    | _ => none

instance : Schema Bool where
  encode := .bool
  decode
    | .bool value => some value
    | _ => none

instance : Schema UInt16 where
  encode value := .integer value.toNat
  decode
    | .integer value =>
      if 0 ≤ value ∧ value < UInt16.size then some (UInt16.ofNat value.toNat) else none
    | _ => none

instance : Schema UInt32 where
  encode value := .integer value.toNat
  decode
    | .integer value =>
      if 0 ≤ value ∧ value < UInt32.size then some (UInt32.ofNat value.toNat) else none
    | _ => none

instance : Schema Int64 where
  encode value := .integer value.toInt
  decode
    | .integer value =>
      if Int64.minValue.toInt ≤ value ∧ value ≤ Int64.maxValue.toInt then
        some (Int64.ofInt value)
      else
        none
    | _ => none

instance [Schema α] : Schema (List α) where
  encode items := .array (items.map encode)
  decode := readList decode
  shape := .list (shape α)

def decodeEntry [Schema α] (member : String × Json) : Option (String × α) :=
  (decode member.2).map fun value => (member.1, value)

/-- Of repeated keys the last one counts. -/
instance [Schema α] : Schema (Table α) where
  encode table := .object (table.entries.map fun entry => (entry.1, encode entry.2))
  decode
    | .object members => (members.mapM decodeEntry).map Table.ofList
    | _ => none
  shape := .table (shape α)

end Schema

end VpcOperator
