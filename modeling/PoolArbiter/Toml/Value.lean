import PoolArbiter.Binary64

/-!
# Values of a document

The values of a TOML document and the tables that hold them. A table remembers how
it came about, because that decides whether a later line may still add to it.
Tables keep their entries in the order of their first mention.
-/

namespace PoolArbiter.Toml

/-- How a table came about. -/
inductive TableOrigin where
  /-- Under a header of its own. -/
  | header
  /-- On the way to a header further down. -/
  | implicit
  /-- Through a key with dots. -/
  | dotted
  /-- Between braces. -/
  | inline
  deriving DecidableEq, Repr

/-- A value of a document. -/
inductive Value where
  | text (content : String)
  | integer (number : Int)
  | float (number : Binary64)
  | truth (flag : Bool)
  /-- A date, a time, or both. -/
  | moment
  | array (elements : List Value)
  | table (origin : TableOrigin) (entries : List (String × Value))
  /-- Tables under headers in double brackets. -/
  | tables (elements : List (List (String × Value)))

/-- The entries of a table, in the order of their first mention. -/
abbrev Entries := List (String × Value)

namespace Entries

/-- Replace the value of a key. -/
def replace (entries : Entries) (key : String) (value : Value) : Entries :=
  entries.map fun entry => if entry.1 == key then (key, value) else entry

/-- Remove a key. -/
def remove (entries : Entries) (key : String) : Entries :=
  entries.filter fun entry => entry.1 != key

end Entries

end PoolArbiter.Toml
