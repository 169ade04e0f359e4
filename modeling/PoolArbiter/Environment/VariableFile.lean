import PoolArbiter.Environment.Basic
import PoolArbiter.Text.Alphanumeric
import PoolArbiter.Text.Blank

/-!
# Files of variables

A file sets one variable on each line: a name, an equals sign and a value, with
`export` in front if one likes. A value may stand in quotes, and a quoted one may
go on over several lines. Outside single quotes a dollar sign is replaced by the
text of the variable whose name follows it. A variable that is already set keeps
its text. A line that cannot be read ends the reading; what was set before stays.
-/

namespace PoolArbiter

namespace VariableFile

/-! ## Lines -/

/-- What a scan of a line has seen last. -/
inductive Scan where
  | text
  | escape
  | single
  | singleEscape
  | double
  | doubleEscape
  | blank
  deriving DecidableEq, Repr

/-- The next state of a scan outside quotes. -/
def Scan.outside (letter : Char) : Scan :=
  if letter = '\\' then .escape
  else if letter = '"' then .double
  else if letter = '\'' then .single
  else .text

/-- The state of a scan after a character. A number sign after a blank is not
treated here. -/
def Scan.next (scan : Scan) (letter : Char) : Scan :=
  match scan with
  | .text =>
      if isBlankLetter letter && letter ≠ '\n' && letter ≠ '\r' then .blank
      else .outside letter
  | .blank => .outside letter
  | .escape => .text
  | .single => if letter = '\\' then .singleEscape else if letter = '\'' then .text else .single
  | .singleEscape => .single
  | .double => if letter = '\\' then .doubleEscape else if letter = '"' then .text else .double
  | .doubleEscape => .double

/-- Scan a line from a state. The result is the line up to a comment, and the
state at its end, which is absent if there is a comment. -/
def scanLine : Scan → List Char → List Char × Option Scan
  | scan, [] => ([], some scan)
  | scan, letter :: rest =>
      if scan = .blank ∧ letter = '#' then
        ([], none)
      else
        let (kept, last) := scanLine (scan.next letter) rest
        (letter :: kept, last)

/-- The lines of a file, each with its line end. -/
def physicalLines : List Char → List (List Char)
  | [] => []
  | letter :: rest =>
      if letter = '\n' then
        ['\n'] :: physicalLines rest
      else
        match physicalLines rest with
        | [] => [[letter]]
        | line :: lines => (letter :: line) :: lines

/-- A line without its line end. -/
def withoutNewline (line : List Char) : List Char :=
  match line.reverse with
  | '\n' :: '\r' :: rest => rest.reverse
  | '\n' :: rest => rest.reverse
  | _ => line

/-- Whether a line holds nothing but a comment. -/
def isComment (line : List Char) : Bool :=
  (trimStart line).head? = some '#'

/-- Join lines until each ends outside quotes. The last result is absent if the
file ends before that. -/
def joinLines (started : List Char) (scan : Scan) :
    List (List Char) → List (Option (List Char))
  | [] => if scan = .text then [] else [none]
  | line :: lines =>
      let joined := started ++ line
      if isComment joined then
        some [] :: joinLines [] .text lines
      else
        match scanLine scan line with
        | (kept, none) => some (started ++ kept) :: joinLines [] .text lines
        | (_, some .text) => some (withoutNewline joined) :: joinLines [] .text lines
        | (_, some other) => joinLines joined other lines

/-- The lines of a file, with those of a quoted value joined. -/
def lines (text : List Char) : List (Option (List Char)) :=
  joinLines [] .text (physicalLines text)

/-! ## Values -/

/-- The quotes around a part of a value. -/
inductive Quote where
  | none
  | single
  | double
  deriving DecidableEq, Repr

/-- What a reader of values does with the next character. -/
inductive Reading where
  | plain
  /-- It follows a backslash. -/
  | escaped
  /-- It may belong to the name of a variable, read so far in reverse. -/
  | name (letters : List Char)
  /-- It belongs to a name in braces, unless it closes them. -/
  | braced (letters : List Char)
  /-- The value has ended; only a comment may follow. -/
  | ended
  /-- It belongs to a comment. -/
  | comment
  deriving DecidableEq, Repr

/-- A value while it is read; the text so far stands in reverse. -/
structure PartialValue where
  quote : Quote
  reading : Reading
  output : List Char
  deriving DecidableEq, Repr

/-- The character that an escape stands for. -/
def unescape? (letter : Char) : Option Char :=
  if letter = 'n' then some '\n'
  else if letter = '\\' ∨ letter = '\'' ∨ letter = '"' ∨ letter = '$' ∨ letter = ' ' then
    some letter
  else
    none

namespace PartialValue

/-- Add a character. -/
def push (value : PartialValue) (letter : Char) : PartialValue :=
  { value with output := letter :: value.output }

/-- Go on in another way. -/
def become (value : PartialValue) (reading : Reading) : PartialValue :=
  { value with reading := reading }

/-- Put in the text of the variable whose name was read, in reverse. -/
def substitute (value : PartialValue) (lookup : String → String) (letters : List Char) :
    PartialValue :=
  { value with
    output := (lookup (String.ofList letters.reverse)).toList.reverse ++ value.output }

/-- Read a character that has no special place. -/
def readPlain (value : PartialValue) (letter : Char) : PartialValue :=
  match value.quote with
  | .single => if letter = '\'' then { value with quote := .none } else value.push letter
  | .double =>
      if letter = '$' then value.become (.name [])
      else if letter = '"' then { value with quote := .none }
      else if letter = '\\' then value.become .escaped
      else value.push letter
  | .none =>
      if letter = '$' then value.become (.name [])
      else if letter = '\'' then { value with quote := .single }
      else if letter = '"' then { value with quote := .double }
      else if letter = '\\' then value.become .escaped
      else if letter = ' ' ∨ letter = '\t' then value.become .ended
      else value.push letter

/-- Read the next character. -/
def read? (lookup : String → String) (value : PartialValue) (letter : Char) :
    Option PartialValue :=
  match value.reading with
  | .comment => some value
  | .ended =>
      if letter = ' ' ∨ letter = '\t' then some value
      else if letter = '#' then some (value.become .comment)
      else none
  | .escaped => (unescape? letter).map (value.become .plain).push
  | .name letters =>
      if isAlphanumeric letter then
        some (value.become (.name (letter :: letters)))
      else if letter = '\x7b' ∧ letters.isEmpty then
        some (value.become (.braced []))
      else
        let replaced := value.substitute lookup letters
        if letter = '$' then some (replaced.become (.name []))
        else some ((replaced.become .plain).push letter)
  | .braced letters =>
      if letter = '\x7d' then some ((value.substitute lookup letters).become .plain)
      else some (value.become (.braced (letter :: letters)))
  | .plain => some (value.readPlain letter)

/-- The whole text at the end of a value; quotes and braces must be closed. -/
def finish? (lookup : String → String) (value : PartialValue) : Option (List Char) :=
  if value.quote ≠ .none then
    none
  else
    match value.reading with
    | .braced _ => none
    | .name letters => some (value.substitute lookup letters).output.reverse
    | _ => some value.output.reverse

end PartialValue

/-- The text of a value. -/
def value? (lookup : String → String) (text : List Char) : Option (List Char) :=
  (text.foldlM (PartialValue.read? lookup) ⟨.none, .plain, []⟩).bind
    (PartialValue.finish? lookup)

/-! ## Assignments -/

/-- Whether a name can start with a character. -/
def isFirstLetter (letter : Char) : Bool :=
  letter.isAlpha || letter = '_'

/-- Whether a name can go on with a character. -/
def isInnerLetter (letter : Char) : Bool :=
  letter.isAlphanum || letter = '_' || letter = '.'

/-- A name, and what follows it and its blanks. -/
def name? (text : List Char) : Option (List Char × List Char) :=
  if text.head?.any isFirstLetter then
    some (text.takeWhile isInnerLetter, trimStart (text.dropWhile isInnerLetter))
  else
    none

/-- What follows an equals sign and its blanks. -/
def afterEquals? : List Char → Option (List Char)
  | '=' :: rest => some (trimStart rest)
  | _ => none

/-- The name that a line sets and the text of its value. -/
def target? (line : List Char) : Option (List Char × List Char) := do
  let (name, rest) ← name? line
  match afterEquals? rest with
  | some value => return (name, value)
  | none =>
      if name = "export".toList then do
        let (exported, rest) ← name? rest
        let value ← afterEquals? rest
        return (exported, value)
      else
        none

/-- What the lines so far have set, and the environment with it. -/
structure Progress where
  environment : Environment
  /-- The values of the file, also those of variables that keep another text. -/
  values : Environment

/-- The text of a variable: that of the environment, else that of the file, else
none. -/
def Progress.lookup (progress : Progress) (name : String) : String :=
  ((progress.environment.find? name).or (progress.values.find? name)).getD ""

/-- Set a variable, unless it is set already. -/
def Progress.set (progress : Progress) (name value : String) : Progress where
  environment :=
    if progress.environment.contains name then progress.environment
    else progress.environment.insert name value
  values := progress.values.insert name value

/-- Follow one line. -/
def Progress.follow? (progress : Progress) (line : List Char) : Option Progress :=
  let content := trimStart (trimEnd line)
  if content.isEmpty || content.head? = some '#' then
    some progress
  else do
    let (name, text) ← target? content
    let value ←
      if text.isEmpty || text.head? = some '#' then some []
      else value? progress.lookup text
    return progress.set (String.ofList name) (String.ofList value)

/-- Follow lines up to the first one that cannot be read. -/
def Progress.followAll (progress : Progress) : List (Option (List Char)) → Progress
  | [] => progress
  | none :: _ => progress
  | some line :: lines =>
      match progress.follow? line with
      | none => progress
      | some next => next.followAll lines

end VariableFile

/-- The environment after a file of variables. A mark of the byte order at the
start of the file does not count. -/
def Environment.withFile (environment : Environment) (text : String) : Environment :=
  let content :=
    match text.toList with
    | '\uFEFF' :: rest => rest
    | other => other
  (VariableFile.Progress.followAll ⟨environment, .empty⟩ (VariableFile.lines content)).environment

end PoolArbiter
