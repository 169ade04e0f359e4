import PoolArbiter.Toml.Letter

/-!
# Text between quotes

Text in single quotes stands for itself; text in double quotes may hold escapes.
Three quotes open a text of several lines, whose first line end does not count.
A backslash at the end of a line joins it to the next character that is no blank.
-/

namespace PoolArbiter.Toml

/-- The value of a hexadecimal digit. -/
def hexDigit? (letter : Char) : Option Nat :=
  if letter.isDigit then some (letter.toNat - '0'.toNat)
  else if 'a' ≤ letter ∧ letter ≤ 'f' then some (letter.toNat - 'a'.toNat + 10)
  else if 'A' ≤ letter ∧ letter ≤ 'F' then some (letter.toNat - 'A'.toNat + 10)
  else none

/-- The value of hexadecimal digits. -/
def hexNumber? (digits : List Char) : Option Nat :=
  digits.foldlM (fun number letter => (hexDigit? letter).map (16 * number + ·)) 0

/-- The character of a code number; surrogates and numbers past the last one have
none. -/
def scalar? (number : Nat) : Option Char :=
  if number.isValidChar then some (Char.ofNat number) else none

/-- The character of an escape of one letter. -/
def escape? (letter : Char) : Option Char :=
  if letter = 'b' then some '\x08'
  else if letter = 't' then some '\t'
  else if letter = 'n' then some '\n'
  else if letter = 'f' then some '\x0c'
  else if letter = 'r' then some '\r'
  else if letter = '"' then some '"'
  else if letter = '\\' then some '\\'
  else none

/-- Put a character in front of a text that was read. -/
def prepend (letter : Char) (read : Option (List Char × List Char)) :
    Option (List Char × List Char) :=
  read.map fun (content, rest) => (letter :: content, rest)

/-- Text in double quotes, from after the first quote. -/
def readBasic : Reader (List Char)
  | '"' :: rest => some ([], rest)
  | '\\' :: 'u' :: a :: b :: c :: d :: rest => do
      let letter ← scalar? (← hexNumber? [a, b, c, d])
      prepend letter (readBasic rest)
  | '\\' :: 'U' :: a :: b :: c :: d :: e :: f :: g :: h :: rest => do
      let letter ← scalar? (← hexNumber? [a, b, c, d, e, f, g, h])
      prepend letter (readBasic rest)
  | '\\' :: escape :: rest => do
      let letter ← escape? escape
      prepend letter (readBasic rest)
  | letter :: rest =>
      if isBasicLetter letter then prepend letter (readBasic rest) else none
  | [] => none

/-- Text in single quotes, from after the first quote. -/
def readLiteral : Reader (List Char)
  | '\'' :: rest => some ([], rest)
  | letter :: rest =>
      if isLiteralLetter letter then prepend letter (readLiteral rest) else none
  | [] => none

/-- Leave out the line end that directly follows an opening of three quotes. -/
def dropFirstNewline (text : List Char) : List Char :=
  (newline? text).getD text

/-- Text in three double quotes, from after the opening. The flag tells whether
blanks and line ends are left out because of a backslash at the end of a line. Up
to two quotes may stand before the closing ones. -/
def readBasicLines : Bool → Reader (List Char)
  | _, '"' :: '"' :: '"' :: '"' :: '"' :: rest => some (['"', '"'], rest)
  | _, '"' :: '"' :: '"' :: '"' :: rest => some (['"'], rest)
  | _, '"' :: '"' :: '"' :: rest => some ([], rest)
  | joining, '\n' :: rest =>
      if joining then readBasicLines true rest
      else prepend '\n' (readBasicLines false rest)
  | joining, '\r' :: '\n' :: rest =>
      if joining then readBasicLines true rest
      else prepend '\n' (readBasicLines false rest)
  | _, '\\' :: 'u' :: a :: b :: c :: d :: rest => do
      let letter ← scalar? (← hexNumber? [a, b, c, d])
      prepend letter (readBasicLines false rest)
  | _, '\\' :: 'U' :: a :: b :: c :: d :: e :: f :: g :: h :: rest => do
      let letter ← scalar? (← hexNumber? [a, b, c, d, e, f, g, h])
      prepend letter (readBasicLines false rest)
  | _, '\\' :: escape :: rest =>
      if (newline? (skipBlanks (escape :: rest))).isSome then
        readBasicLines true rest
      else do
        let letter ← escape? escape
        prepend letter (readBasicLines false rest)
  | joining, letter :: rest =>
      if joining && isBlank letter then readBasicLines true rest
      else if letter = '"' || isBasicLetter letter then
        prepend letter (readBasicLines false rest)
      else none
  | _, [] => none

/-- Text in three single quotes, from after the opening. Up to two quotes may
stand before the closing ones. -/
def readLiteralLines : Reader (List Char)
  | '\'' :: '\'' :: '\'' :: '\'' :: '\'' :: rest => some (['\'', '\''], rest)
  | '\'' :: '\'' :: '\'' :: '\'' :: rest => some (['\''], rest)
  | '\'' :: '\'' :: '\'' :: rest => some ([], rest)
  | '\n' :: rest => prepend '\n' (readLiteralLines rest)
  | '\r' :: '\n' :: rest => prepend '\n' (readLiteralLines rest)
  | letter :: rest =>
      if letter = '\'' || isLiteralLetter letter then prepend letter (readLiteralLines rest)
      else none
  | [] => none

/-- Text in quotes of any kind. -/
def readText : Reader (List Char)
  | '"' :: '"' :: '"' :: rest => readBasicLines false (dropFirstNewline rest)
  | '"' :: rest => readBasic rest
  | '\'' :: '\'' :: '\'' :: rest => readLiteralLines (dropFirstNewline rest)
  | '\'' :: rest => readLiteral rest
  | _ => none

end PoolArbiter.Toml
