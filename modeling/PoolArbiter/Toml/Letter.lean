/-!
# Letters, blanks and line ends

The classes of characters in a TOML document, and the blanks, comments and line
ends between its parts. A reader takes a part from the front of the remaining
characters and yields what it read with what is left.
-/

namespace PoolArbiter.Toml

/-- Reads a part from the front of the remaining characters. -/
abbrev Reader (α : Type) := List Char → Option (α × List Char)

/-- Blanks within a line. -/
def isBlank (letter : Char) : Bool :=
  letter = ' ' || letter = '\t'

/-- Letters of a key without quotes. -/
def isBareLetter (letter : Char) : Bool :=
  letter.isAlphanum || letter = '_' || letter = '-'

/-- Characters of a comment: no control characters but the tabulator. -/
def isCommentLetter (letter : Char) : Bool :=
  letter = '\t' || (0x20 ≤ letter.toNat && letter.toNat ≠ 0x7F)

/-- Characters that stand for themselves between single quotes. -/
def isLiteralLetter (letter : Char) : Bool :=
  isCommentLetter letter && letter ≠ '\''

/-- Characters that stand for themselves between double quotes. -/
def isBasicLetter (letter : Char) : Bool :=
  isCommentLetter letter && letter ≠ '"' && letter ≠ '\\'

/-- Leave out blanks. -/
def skipBlanks (text : List Char) : List Char :=
  text.dropWhile isBlank

/-- What follows a line end at the front. -/
def newline? : List Char → Option (List Char)
  | '\n' :: rest => some rest
  | '\r' :: '\n' :: rest => some rest
  | _ => none

/-- What follows the end of a line: blanks, a comment if there is one, and a line
end or the end of the document. -/
def lineEnd? (text : List Char) : Option (List Char) :=
  let rest :=
    match skipBlanks text with
    | '#' :: comment => comment.dropWhile isCommentLetter
    | other => other
  if rest.isEmpty then some [] else newline? rest

/-- Leave out blanks, line ends and comments. The flag tells whether the text
starts inside a comment. -/
def skipSpace : Bool → List Char → List Char
  | _, '\n' :: rest => skipSpace false rest
  | _, '\r' :: '\n' :: rest => skipSpace false rest
  | true, letter :: rest =>
      if isCommentLetter letter then skipSpace true rest else letter :: rest
  | false, '#' :: rest => skipSpace true rest
  | false, letter :: rest => if isBlank letter then skipSpace false rest else letter :: rest
  | _, [] => []

end PoolArbiter.Toml
