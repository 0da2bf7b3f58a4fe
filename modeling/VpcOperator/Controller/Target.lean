/-!
# Request targets

The path and the query of a request to the API server, read from the text that
names them. Names stand in that text as they are given: one that contains a
question mark moves the query, and one that contains a blank has no target.
-/

namespace VpcOperator

structure Target where
  path : String
  query : Option String
  deriving DecidableEq

namespace Target

/-- Neither a blank nor a control character, as far as ASCII goes. -/
def isVisible (c : Char) : Bool :=
  ' ' < c && c ≠ '\x7f'

def isPathChar (c : Char) : Bool :=
  isVisible c && c ≠ '#' && c ≠ '<' && c ≠ '>' && c ≠ '?' && c ≠ '\x60'

/-- Unlike a path, a query may hold grave accents, but no quotation marks. -/
def isQueryChar (c : Char) : Bool :=
  isVisible c && c ≠ '#' && c ≠ '<' && c ≠ '>' && c ≠ '"'

/-- The longest text in bytes. -/
def maxSize : Nat :=
  65534

/-- What follows the number sign is never sent, so it may hold any characters. -/
def ofChars (text : List Char) : Option Target :=
  let path := text.takeWhile isPathChar
  match text.dropWhile isPathChar with
  | [] | '#' :: _ => some ⟨String.ofList path, none⟩
  | '?' :: rest =>
    let query := rest.takeWhile isQueryChar
    match rest.dropWhile isQueryChar with
    | [] | '#' :: _ => some ⟨String.ofList path, some (String.ofList query)⟩
    | _ => none
  | _ => none

def parse (text : String) : Option Target :=
  if text.utf8ByteSize ≤ maxSize then ofChars text.toList else none

/-- The parts of the query in ascending order. -/
def queryParts (target : Target) : List String :=
  (((target.query.getD "").splitOn "&").filter (· ≠ "")).mergeSort (fun a b => a ≤ b)

end Target

end VpcOperator
