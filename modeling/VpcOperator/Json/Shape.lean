/-!
# Shapes

Which parts of a document a reader looks at.
-/

namespace VpcOperator.Json

inductive Shape where
  | whole
  /-- Of an object, only the members with these names; of a list, the items in their order. -/
  | record (fields : List (String × Shape))
  | list (item : Shape)
  /-- Of an object, all members. -/
  | table (value : Shape)

namespace Shape

def itemAt (shape : Shape) (position : Nat) : Shape :=
  match shape with
  | list item => item
  | record fields => (fields[position]?.map (·.2)).getD whole
  | _ => whole

/-- The shape of the member with this name, if it is looked at. -/
def member? (shape : Shape) (name : String) : Option Shape :=
  match shape with
  | record fields => fields.lookup name
  | table value => some value
  | _ => some whole

end Shape

end VpcOperator.Json
