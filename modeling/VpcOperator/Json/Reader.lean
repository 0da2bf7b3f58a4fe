import VpcOperator.Json.Document
import VpcOperator.Json.Shape
import VpcOperator.Json.Token

/-!
# Reading documents

The grammar of JSON, strictly: one document, blanks around it, nothing else.
The parts outside a shape are passed over. They only have to be well-formed,
while in a part that is read every string must consist of characters, every
number must be finite, and brackets may not nest too deeply.
-/

namespace VpcOperator.Json

/-! ## Passing over -/

inductive Bracket where
  | list
  | object

/-- What a passed-over value is made of: the brackets that are open, whether the innermost value
is complete, and the text left. -/
structure Passage where
  opened : List Bracket
  complete : Bool
  text : List Char

/-- The name of a member and the colon. -/
def skipName (text : List Char) : Option (List Char) :=
  match skipSpace text with
  | '"' :: rest =>
    match (skipString rest).map skipSpace with
    | some (':' :: rest) => some rest
    | _ => none
  | _ => none

/-- The beginning of a value, or all of it if it has no parts. -/
def Passage.enter (opened : List Bracket) (text : List Char) : Option Passage :=
  match skipSpace text with
  | 'n' :: 'u' :: 'l' :: 'l' :: rest => some ⟨opened, true, rest⟩
  | 't' :: 'r' :: 'u' :: 'e' :: rest => some ⟨opened, true, rest⟩
  | 'f' :: 'a' :: 'l' :: 's' :: 'e' :: rest => some ⟨opened, true, rest⟩
  | '"' :: rest => (skipString rest).map fun rest => ⟨opened, true, rest⟩
  | '[' :: rest =>
    match skipSpace rest with
    | ']' :: rest => some ⟨opened, true, rest⟩
    | rest => some ⟨.list :: opened, false, rest⟩
  | '\x7b' :: rest =>
    match skipSpace rest with
    | '\x7d' :: rest => some ⟨opened, true, rest⟩
    | rest => (skipName rest).map fun rest => ⟨.object :: opened, false, rest⟩
  | text => (readNumeral text).map fun (_, rest) => ⟨opened, true, rest⟩

/-- What follows a part: the next one, or the end of the whole. -/
def Passage.goOn (bracket : Bracket) (opened : List Bracket) (text : List Char) : Option Passage :=
  match bracket, skipSpace text with
  | .list, ',' :: rest => some ⟨.list :: opened, false, rest⟩
  | .list, ']' :: rest => some ⟨opened, true, rest⟩
  | .object, ',' :: rest => (skipName rest).map fun rest => ⟨.object :: opened, false, rest⟩
  | .object, '\x7d' :: rest => some ⟨opened, true, rest⟩
  | _, _ => none

def Passage.run : Nat → Passage → Option (List Char)
  | _, ⟨[], true, text⟩ => some text
  | 0, _ => none
  | steps + 1, ⟨opened, false, text⟩ =>
    match enter opened text with
    | none => none
    | some passage => run steps passage
  | steps + 1, ⟨bracket :: opened, true, text⟩ =>
    match goOn bracket opened text with
    | none => none
    | some passage => run steps passage

/-- Every step consumes a character, so the length of the text is steps enough. -/
def skipValue (text : List Char) : Option (List Char) :=
  Passage.run (text.length + 1) ⟨[], false, text⟩

/-! ## Reading -/

/-- How deep brackets may nest. -/
def deepest : Nat :=
  127

def ofNumeral (number : Numeral) : Option Json :=
  if number.isFinite then
    match number.integer? with
    | some value => some (.integer value)
    | none => some (.numeral number)
  else
    none

mutual

/-- One value, blanks before it included. The depth is what is left of the deepest nesting. -/
def readValue : (steps depth : Nat) → Shape → List Char → Option (Json × List Char)
  | 0, _, _, _ => none
  | steps + 1, depth, shape, text =>
    match skipSpace text with
    | 'n' :: 'u' :: 'l' :: 'l' :: rest => some (.null, rest)
    | 't' :: 'r' :: 'u' :: 'e' :: rest => some (.bool true, rest)
    | 'f' :: 'a' :: 'l' :: 's' :: 'e' :: rest => some (.bool false, rest)
    | '"' :: rest => (readString [] rest).map fun (s, rest) => (.string s, rest)
    | '[' :: rest =>
      match depth with
      | 0 => none
      | depth + 1 =>
        match skipSpace rest with
        | ']' :: rest => some (.array [], rest)
        | rest =>
          (readItems steps depth shape [] rest).map fun (items, rest) => (.array items, rest)
    | '\x7b' :: rest =>
      match depth with
      | 0 => none
      | depth + 1 =>
        match skipSpace rest with
        | '\x7d' :: rest => some (.object [], rest)
        | rest =>
          (readMembers steps depth shape [] rest).map fun (members, rest) => (.object members, rest)
    | text =>
      match readNumeral text with
      | none => none
      | some (number, rest) => (ofNumeral number).map fun value => (value, rest)

def readItems : (steps depth : Nat) → Shape → List Json → List Char →
    Option (List Json × List Char)
  | 0, _, _, _, _ => none
  | steps + 1, depth, shape, seen, text =>
    match readValue steps depth (shape.itemAt seen.length) text with
    | none => none
    | some (item, rest) =>
      match skipSpace rest with
      | ',' :: rest => readItems steps depth shape (item :: seen) rest
      | ']' :: rest => some ((item :: seen).reverse, rest)
      | _ => none

/-- Members that are not looked at leave no trace. -/
def readMembers : (steps depth : Nat) → Shape → List (String × Json) → List Char →
    Option (List (String × Json) × List Char)
  | 0, _, _, _, _ => none
  | steps + 1, depth, shape, seen, text =>
    match readMember steps depth shape seen (skipSpace text) with
    | none => none
    | some (seen, rest) =>
      match skipSpace rest with
      | ',' :: rest => readMembers steps depth shape seen rest
      | '\x7d' :: rest => some (seen.reverse, rest)
      | _ => none

def readMember : (steps depth : Nat) → Shape → List (String × Json) → List Char →
    Option (List (String × Json) × List Char)
  | 0, _, _, _, _ => none
  | steps + 1, depth, shape, seen, '"' :: rest =>
    match readString [] rest with
    | none => none
    | some (name, rest) =>
      match skipSpace rest with
      | ':' :: rest =>
        match shape.member? name with
        | none => (skipValue rest).map fun rest => (seen, rest)
        | some shape =>
          match readValue steps depth shape rest with
          | none => none
          | some (value, rest) => some ((name, value) :: seen, rest)
      | _ => none
  | _ + 1, _, _, _, _ => none

end

/-- Steps go down to a part or along to the next one. No more than three consume one
character. -/
def read (shape : Shape) (text : String) : Option Json :=
  let text := text.toList
  match readValue (3 * text.length + 1) deepest shape text with
  | some (value, rest) => if (skipSpace rest).isEmpty then some value else none
  | none => none

def parse (text : String) : Option Json :=
  read .whole text

end VpcOperator.Json
