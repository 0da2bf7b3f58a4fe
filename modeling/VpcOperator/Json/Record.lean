import VpcOperator.Json.Schema

/-!
# Records and unions

A record has members of its own, and so has each variant of a union, which a
tag names. They are written as objects. Both may also be given as a list: the
values alone, in the order of the fields, and before those of a variant its tag.
-/

namespace VpcOperator

open Schema

structure Record (α : Type) where
  /-- What is looked at, in the order of a list. -/
  fields : List (String × Json.Shape)
  /-- The fields that a list cannot do without; behind them it may end. -/
  least : Nat
  write : α → Members
  read : Members → Option α

namespace Record

variable {α : Type}

def members? (record : Record α) : Json → Option Members
  | .array items =>
    if record.least ≤ items.length ∧ items.length ≤ record.fields.length then
      some ((record.fields.map (·.1)).zip items)
    else
      none
  | document => Schema.members? document

def decode (record : Record α) (document : Json) : Option α := do
  record.read (← record.members? document)

@[reducible] def schema (record : Record α) : Schema α where
  encode value := .object (record.write value)
  decode := record.decode
  shape := .record record.fields

end Record

structure Union (κ α : Type) where
  tag : String
  variants : List (String × κ)
  /-- What is looked at in a variant besides the tag, in the order of a list. -/
  fields : κ → List String
  /-- Together with the tag. -/
  write : α → Members
  read : κ → Members → Option α

namespace Union

variable {κ α : Type}

def members? (union : Union κ α) (form : TagForm) : Json → Option Members
  | .array (first :: rest) => do
    let fields := union.fields (← readTag form union.variants first)
    if rest.length ≤ fields.length then some ((union.tag, first) :: fields.zip rest) else none
  | document => Schema.members? document

/-- The members may also stand beside others. -/
def ofMembers (union : Union κ α) (form : TagForm) (members : Members) : Option α := do
  union.read (← requiredBy (readTag form union.variants) members union.tag) members

def decode (union : Union κ α) (form : TagForm) (document : Json) : Option α := do
  union.ofMembers form (← union.members? form document)

@[reducible] def schema (union : Union κ α) : Schema α where
  encode value := .object (union.write value)
  decode := union.decode .name

end Union

end VpcOperator
