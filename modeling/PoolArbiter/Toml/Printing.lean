import PoolArbiter.Decimal.Notation
import PoolArbiter.Toml.Nested

/-!
# Printed documents

A document is printed as sections, each under its header and divided by empty
lines, with one entry a line. Whole numbers that do not fit into 64 bits with a
sign cannot be printed.
-/

namespace PoolArbiter.Toml

/-- A value that is printed on one line. -/
inductive Scalar where
  | natural (number : Nat)
  | float (number : Float)
  | truth (flag : Bool)
  | text (content : String)

/-- A header with the entries under it. -/
structure Section where
  path : List String
  fields : List (String × Scalar)

/-- The text of a character between double quotes. -/
def quotedLetter (letter : Char) : List Char :=
  if letter = '"' then ['\\', '"']
  else if letter = '\\' then ['\\', '\\']
  else if letter = '\n' then ['\\', 'n']
  else if letter = '\t' then ['\\', 't']
  else if letter = '\r' then ['\\', 'r']
  else if letter = '\x08' then ['\\', 'b']
  else if letter = '\x0c' then ['\\', 'f']
  else if isBasicLetter letter then [letter]
  else '\\' :: 'u' :: (Nat.toDigits 16 (0x10000 + letter.toNat)).drop 1

/-- Text between double quotes. -/
def quoted (content : String) : List Char :=
  '"' :: content.toList.flatMap quotedLetter ++ ['"']

/-- A part of a key: without quotes where its letters allow it. -/
def keyPart (part : String) : List Char :=
  if !part.isEmpty && part.toList.all isBareLetter then part.toList else quoted part

/-- The parts of a key with dots between them. -/
def keyText (path : List String) : List Char :=
  List.intercalate ['.'] (path.map keyPart)

/-- The text of a value, if it can be printed. -/
def Scalar.text? : Scalar → Option (List Char)
  | .natural number => if number < integerLimit then some (Decimal.digitText number) else none
  | .float number => some (Decimal.documentText number)
  | .truth flag => some (if flag then "true".toList else "false".toList)
  | .text content => some (quoted content)

/-- The line of an entry. -/
def fieldLine? (field : String × Scalar) : Option (List Char) :=
  field.2.text?.map fun text => keyPart field.1 ++ " = ".toList ++ text ++ ['\n']

/-- The lines of a section. -/
def Section.text? (section_ : Section) : Option (List Char) := do
  let lines ← section_.fields.mapM fieldLine?
  return '[' :: keyText section_.path ++ [']', '\n'] ++ lines.flatten

/-- The text of a document. -/
def print? (sections : List Section) : Option (List Char) :=
  (sections.mapM Section.text?).map (List.intercalate ['\n'])

end PoolArbiter.Toml
