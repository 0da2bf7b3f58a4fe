import VpcOperator.Json.Document

/-!
# Writing documents

The compact form: no blanks, and only the characters that must be escaped are.
-/

namespace VpcOperator.Json

def escapeChar (c : Char) : List Char :=
  if c = '"' then ['\\', '"']
  else if c = '\\' then ['\\', '\\']
  else if c.toNat < 0x20 then
    ['\\', 'u', '0', '0', Nat.digitChar (c.toNat / 16), Nat.digitChar (c.toNat % 16)]
  else [c]

def renderString (s : String) : List Char :=
  '"' :: s.toList.flatMap escapeChar ++ ['"']

mutual

def renderValue : Json → List Char
  | .null => "null".toList
  | .bool true => "true".toList
  | .bool false => "false".toList
  | .integer n => (toString n).toList
  | .numeral number => number.text
  | .string s => renderString s
  | .array [] => ['[', ']']
  | .array (item :: items) => '[' :: renderValue item ++ renderItems items
  | .object [] => ['\x7b', '\x7d']
  | .object ((name, value) :: members) =>
    '\x7b' :: renderString name ++ ':' :: renderValue value ++ renderMembers members

def renderItems : List Json → List Char
  | [] => [']']
  | item :: items => ',' :: renderValue item ++ renderItems items

def renderMembers : List (String × Json) → List Char
  | [] => ['\x7d']
  | (name, value) :: members =>
    ',' :: renderString name ++ ':' :: renderValue value ++ renderMembers members

end

def render (document : Json) : String :=
  String.ofList (renderValue document)

end VpcOperator.Json
