import PoolArbiter.Toml.Number
import PoolArbiter.Toml.Value

/-!
# Keys, arrays and inline tables

Keys with dots, and values that hold other values. A value may lie inside at most
`greatestDepth` others, and a key has at most as many parts. The reader of a value
at one depth is built from the reader one level further in.
-/

namespace PoolArbiter.Toml

/-- How deep values may be nested. -/
def greatestDepth : Nat :=
  79

/-- One part of a key: letters without quotes, or text in quotes. -/
def readKeyPart : Reader String
  | '"' :: rest => (readBasic rest).map fun (content, after) => (String.ofList content, after)
  | '\'' :: rest =>
      (readLiteral rest).map fun (content, after) => (String.ofList content, after)
  | text =>
      let letters := text.takeWhile isBareLetter
      if letters.isEmpty then none
      else some (String.ofList letters, text.dropWhile isBareLetter)

/-- The parts of a key with dots between them and blanks around each. The limit
bounds their number. -/
def readKeyParts : Nat → Reader (List String)
  | 0, _ => none
  | limit + 1, text => do
      let (part, afterPart) ← readKeyPart (skipBlanks text)
      match skipBlanks afterPart with
      | '.' :: rest =>
          let (parts, after) ← readKeyParts limit rest
          return (part :: parts, after)
      | after => return ([part], after)

/-- A key: the tables on the way, and the last part. -/
structure Key where
  path : List String
  name : String
  deriving DecidableEq, Repr

/-- A key with its dots. -/
def readKey : Reader Key := fun text => do
  let (parts, rest) ← readKeyParts greatestDepth text
  let name ← parts.getLast?
  return (⟨parts.dropLast, name⟩, rest)

namespace Entries

/-- Add a value under a key with dots. Tables on the way are made as needed. A
table made through dots may grow, and so may one on the way to a header or the
last of several tables as long as the key goes on below it; no other table may,
and no key is set twice. -/
def define (name : String) (value : Value) : List String → Entries → Option Entries
  | [], entries =>
      if (entries.lookup name).isSome then none else some (entries ++ [(name, value)])
  | step :: path, entries =>
      match entries.lookup step with
      | none =>
          (define name value path []).map fun inner =>
            entries ++ [(step, .table .dotted inner)]
      | some (.table .dotted inner) =>
          (define name value path inner).map fun grown =>
            entries.replace step (.table .dotted grown)
      | some (.table .implicit inner) =>
          if path.isEmpty then none
          else
            (define name value path inner).map fun grown =>
              entries.replace step (.table .implicit grown)
      | some (.tables elements) =>
          if path.isEmpty then none
          else do
            let grown ← define name value path (← elements.getLast?)
            return entries.replace step (.tables (elements.dropLast ++ [grown]))
      | some _ => none

end Entries

/-- A value that holds no others. -/
def readScalar : Reader Value
  | '"' :: rest =>
      (readText ('"' :: rest)).map fun (content, after) => (.text (String.ofList content), after)
  | '\'' :: rest =>
      (readText ('\'' :: rest)).map fun (content, after) =>
        (.text (String.ofList content), after)
  | 't' :: 'r' :: 'u' :: 'e' :: rest => some (.truth true, rest)
  | 'f' :: 'a' :: 'l' :: 's' :: 'e' :: rest => some (.truth false, rest)
  | text =>
      ((readMoment text).map fun (_, rest) => (.moment, rest)).or
        (((readFloat text).map fun (number, rest) => (.float number, rest)).or
          ((readInteger text).map fun (number, rest) => (.integer number, rest)))

/-- The elements of an array, from after the bracket or a comma. The fuel bounds
their number. -/
def readElements (element : Reader Value) : Nat → Reader (List Value)
  | 0, _ => none
  | fuel + 1, text =>
      match skipSpace false text with
      | ']' :: rest => some ([], rest)
      | start => do
          let (first, afterFirst) ← element start
          match skipSpace false afterFirst with
          | ',' :: rest =>
              let (others, after) ← readElements element fuel rest
              return (first :: others, after)
          | ']' :: rest => return ([first], rest)
          | _ => none

/-- The entries of an inline table, from after the brace or a comma, added to those
before them. The fuel bounds their number. -/
def readFields (element : Reader Value) : Nat → Entries → Reader Entries
  | 0, _, _ => none
  | fuel + 1, entries, text => do
      let (key, afterKey) ← readKey text
      let (_, afterMark) ← readMark '=' afterKey
      let (value, afterValue) ← element (skipBlanks afterMark)
      let grown ← entries.define key.name value key.path
      match skipBlanks afterValue with
      | ',' :: rest => readFields element fuel grown rest
      | '}' :: rest => return (grown, rest)
      | _ => none

/-- A value with at most a number of levels of others inside it. -/
def readValue : Nat → Reader Value
  | 0, text => readScalar text
  | depth + 1, text =>
      match text with
      | '[' :: rest =>
          (readElements (readValue depth) (rest.length + 1) rest).map
            fun (elements, after) => (.array elements, after)
      | '{' :: rest =>
          match skipBlanks rest with
          | '}' :: after => some (.table .inline [], after)
          | fields =>
              (readFields (readValue depth) (fields.length + 1) [] fields).map
                fun (entries, after) => (.table .inline entries, after)
      | _ => readScalar text

end PoolArbiter.Toml
