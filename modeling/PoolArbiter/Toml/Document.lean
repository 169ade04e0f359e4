import PoolArbiter.Toml.Nested

/-!
# Documents

A document is a list of lines: headers, headers in double brackets, and keys with
values. `readLines` splits a text into lines, and `assemble?` builds the table
that they describe; `readDocument?` is both together.
-/

namespace PoolArbiter.Toml

/-- A line of a document. -/
inductive Line where
  | define (key : Key) (value : Value)
  | header (key : Key)
  | arrayHeader (key : Key)

/-- A header, from after its opening bracket. -/
def readHeader : Reader Key := fun text => do
  let (key, afterKey) ← readKey text
  let (_, rest) ← readMark ']' afterKey
  return (key, rest)

/-- A line that is neither empty nor a comment, up to its end. -/
def readLine : Reader Line
  | '[' :: '[' :: rest => do
      let (key, afterKey) ← readHeader rest
      let (_, after) ← readMark ']' afterKey
      return (.arrayHeader key, after)
  | '[' :: rest => do
      let (key, after) ← readHeader rest
      return (.header key, after)
  | text => do
      let (key, afterKey) ← readKey text
      let (_, afterMark) ← readMark '=' afterKey
      let (value, after) ← readValue greatestDepth (skipBlanks afterMark)
      return (.define key value, after)

/-- The lines of a text. The fuel bounds their number. -/
def readLines : Nat → List Char → Option (List Line)
  | 0, _ => none
  | fuel + 1, text =>
      match skipBlanks text with
      | [] => some []
      | start =>
          match lineEnd? start with
          | some rest => readLines fuel rest
          | none => do
              let (line, afterLine) ← readLine start
              let rest ← lineEnd? afterLine
              return line :: (← readLines fuel rest)

/-- Change the table at the end of a path. Tables on the way are made as needed;
of several tables under one key the last one is meant. -/
def Entries.modifyAt (change : Entries → Option Entries) :
    List String → Entries → Option Entries
  | [], entries => change entries
  | step :: path, entries =>
      match entries.lookup step with
      | none =>
          (modifyAt change path []).map fun inner =>
            entries ++ [(step, .table .implicit inner)]
      | some (.table .inline _) => none
      | some (.table origin inner) =>
          (modifyAt change path inner).map fun changed =>
            entries.replace step (.table origin changed)
      | some (.tables elements) => do
          let changed ← modifyAt change path (← elements.getLast?)
          return entries.replace step (.tables (elements.dropLast ++ [changed]))
      | some _ => none

/-- Open a table under a header. A table on the way to a header further down gets
its own header now; no other table gets a second one. -/
def Entries.openTable (name : String) (entries : Entries) : Option Entries :=
  match entries.lookup name with
  | none => some (entries ++ [(name, .table .header [])])
  | some (.table .implicit inner) =>
      some (entries.remove name ++ [(name, .table .header inner)])
  | some _ => none

/-- Open one more table under a header in double brackets. -/
def Entries.openElement (name : String) (entries : Entries) : Option Entries :=
  match entries.lookup name with
  | none => some (entries ++ [(name, .tables [[]])])
  | some (.tables elements) => some (entries.replace name (.tables (elements ++ [[]])))
  | some _ => none

/-- A document during assembly: all entries, and the path of the open table. -/
structure Assembly where
  root : Entries
  current : List String

/-- Add a line to a document. -/
def Assembly.add (assembly : Assembly) : Line → Option Assembly
  | .define key value => do
      let root ←
        assembly.root.modifyAt (Entries.define key.name value key.path) assembly.current
      return { assembly with root := root }
  | .header key => do
      let root ← assembly.root.modifyAt (Entries.openTable key.name) key.path
      return ⟨root, key.path ++ [key.name]⟩
  | .arrayHeader key => do
      let root ← assembly.root.modifyAt (Entries.openElement key.name) key.path
      return ⟨root, key.path ++ [key.name]⟩

/-- The table that lines describe. -/
def assemble? (lines : List Line) : Option Entries :=
  (lines.foldlM Assembly.add ⟨[], []⟩).map (·.root)

/-- The text without a byte order mark in front. -/
def withoutMark : List Char → List Char
  | '\uFEFF' :: rest => rest
  | text => text

/-- The table that a document describes. -/
def readDocument? (document : String) : Option Entries :=
  let text := withoutMark document.toList
  (readLines (text.length + 1) text).bind assemble?

end PoolArbiter.Toml
