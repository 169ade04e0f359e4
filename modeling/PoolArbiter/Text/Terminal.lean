/-!
# Text without terminal sequences

What is left of a text for a terminal when only its printable characters and its
white space are kept. Control sequences and control strings, which move the cursor
or change colours, are left out from their escape character to their end, and so are
all other control characters. White space within a control sequence is kept, and
printing goes on after it until the next character that cannot be printed; the rest
of the sequence is only looked for after that.
-/

namespace PoolArbiter

/-- Where in a control sequence a text stands. -/
inductive Sequence where
  /-- In no sequence. -/
  | outside
  /-- After the escape character. -/
  | opened
  /-- In a sequence of several characters after the escape character. -/
  | several
  /-- In a sequence opened by a bracket. -/
  | bracket
  /-- At the start of a device control string. -/
  | device
  /-- In the parameters of a device control string. -/
  | deviceParameter
  /-- In the characters after those parameters. -/
  | deviceIntermediate
  /-- In the body of a device control string, or in a string for the program. -/
  | body
  /-- In a string for the operating system. -/
  | system
  deriving DecidableEq, Repr

namespace Sequence

/-- The position after a character that opens a sequence, ends it or stays in it,
after the escape character. -/
def afterOpening (code : Nat) : Sequence :=
  if code < 0x20 then .opened
  else if code ≤ 0x2F then .several
  else if code = 0x50 then .device
  else if code = 0x58 ∨ code = 0x5E ∨ code = 0x5F then .body
  else if code = 0x5B then .bracket
  else if code = 0x5D then .system
  else if code ≤ 0x7E then .outside
  else .opened

/-- The position after a character at the start of a device control string. -/
def afterDevice (current : Sequence) (code : Nat) : Sequence :=
  if code < 0x20 ∨ 0x7E < code then current
  else if code ≤ 0x2F then .deviceIntermediate
  else if code ≤ 0x3F then
    match current with
    | .device => .deviceParameter
    | .deviceParameter => if code ≤ 0x3B then .deviceParameter else .body
    | _ => .body
  else .body

/-- Whether the byte that ends a control string is among the bytes of a character. -/
def hasTerminator (letter : Char) : Bool :=
  0x80 ≤ letter.toNat && (String.utf8EncodeChar letter).contains 0x9C

/-- The position after a character. -/
def after (current : Sequence) (letter : Char) : Sequence :=
  let code := letter.toNat
  if code = 0x18 ∨ code = 0x1A then
    .outside
  else if code = 0x1B then
    .opened
  else
    match current with
    | .outside => .outside
    | .opened => afterOpening code
    | .several => if 0x30 ≤ code ∧ code ≤ 0x7E then .outside else .several
    | .bracket => if 0x40 ≤ code ∧ code ≤ 0x7E then .outside else .bracket
    | .device => afterDevice .device code
    | .deviceParameter => afterDevice .deviceParameter code
    | .deviceIntermediate => afterDevice .deviceIntermediate code
    | .body => if hasTerminator letter then .outside else .body
    | .system => if code = 0x07 then .outside else .system

/-- Whether white space counts at a position: not in control strings. -/
def keepsSpace : Sequence → Bool
  | .outside => true
  | .opened => true
  | .several => true
  | .bracket => true
  | _ => false

end Sequence

/-- White space among the control characters. -/
def isControlSpace (letter : Char) : Bool :=
  letter = '\t' || letter = '\n' || letter = '\x0c' || letter = '\r'

/-- Whether a character is printed outside of sequences. -/
def isPrintable (letter : Char) : Bool :=
  (0x20 ≤ letter.toNat && letter.toNat ≠ 0x7F) || isControlSpace letter

/-- Whether a character that follows a sequence or stands in it is printed. -/
def isPrintedAt (current : Sequence) (letter : Char) : Bool :=
  (current = .outside && isPrintable letter) ||
    (current.keepsSpace && isControlSpace letter)

/-- The printable characters of a text from a position on. The flag tells whether the
character before was printed. -/
def printableFrom : Bool → Sequence → List Char → List Char
  | _, _, [] => []
  | printing, current, letter :: rest =>
      if printing && isPrintable letter then
        letter :: printableFrom true (if 0x80 ≤ letter.toNat then .outside else current) rest
      else if isPrintedAt current letter then
        letter :: printableFrom true (if 0x80 ≤ letter.toNat then .outside else current) rest
      else
        printableFrom false (current.after letter) rest

/-- The text without terminal sequences. -/
def withoutSequences (text : String) : String :=
  String.ofList (printableFrom false .outside text.toList)

/-- Printable text is left as it is. -/
theorem printableFrom_of_printable (printing : Bool) (text : List Char)
    (printable : ∀ letter ∈ text, isPrintable letter) :
    printableFrom printing .outside text = text := by
  induction text generalizing printing with
  | nil => rfl
  | cons letter rest ih =>
      have first := printable letter List.mem_cons_self
      have others := ih true fun other member =>
        printable other (List.mem_cons_of_mem _ member)
      simp [printableFrom, isPrintedAt, first, others]

end PoolArbiter
