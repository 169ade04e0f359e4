import PoolArbiter.Decimal.Notation
import PoolArbiter.Text.Hex

/-!
# Output values

The values in a line of output and their JSON text. The fields of an object stand
in the order of their names. A float that is not finite is written as null.
-/

namespace PoolArbiter

/-- A value in a line of output. -/
inductive OutputValue where
  | absent
  | truth (flag : Bool)
  | natural (number : Nat)
  | float (number : Float)
  | text (content : String)
  | list (elements : List OutputValue)
  | object (fields : List (String × OutputValue))

namespace OutputValue

/-- An object with its fields in order. -/
def ofFields (fields : List (String × OutputValue)) : OutputValue :=
  .object (fields.mergeSort fun first second => decide (first.1 ≤ second.1))

/-- A character between quotes; quotes, backslashes and control characters are
escaped. -/
def escaped (letter : Char) : List Char :=
  if letter = '"' then ['\\', '"']
  else if letter = '\\' then ['\\', '\\']
  else if letter = '\n' then ['\\', 'n']
  else if letter = '\r' then ['\\', 'r']
  else if letter = '\t' then ['\\', 't']
  else if letter = '\x08' then ['\\', 'b']
  else if letter = '\x0c' then ['\\', 'f']
  else if letter.toNat < 0x20 then ['\\', 'u'] ++ (Hex.ofNat 4 letter.toNat).toList
  else [letter]

/-- A text in quotes. -/
def quoted (content : String) : List Char :=
  '"' :: content.toList.flatMap escaped ++ ['"']

mutual

/-- The text of a value. -/
def render : OutputValue → List Char
  | .absent => "null".toList
  | .truth flag => (if flag then "true" else "false").toList
  | .natural number => Decimal.digitText number
  | .float number => Decimal.outputText number
  | .text content => quoted content
  | .list elements => '[' :: renderElements elements ++ [']']
  | .object fields => '\x7b' :: renderFields fields ++ ['\x7d']

/-- The elements of a list, with commas between them. -/
def renderElements : List OutputValue → List Char
  | [] => []
  | [element] => element.render
  | element :: rest => element.render ++ ',' :: renderElements rest

/-- The fields of an object, with commas between them. -/
def renderFields : List (String × OutputValue) → List Char
  | [] => []
  | [(name, value)] => quoted name ++ ':' :: value.render
  | (name, value) :: rest => quoted name ++ ':' :: value.render ++ ',' :: renderFields rest

end

end OutputValue

end PoolArbiter
