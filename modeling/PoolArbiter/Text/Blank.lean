/-!
# Blanks

The characters that count as blank in a line of text, line ends among them.
-/

namespace PoolArbiter

/-- Code numbers of the blanks: runs from a first to a last one. -/
def blankRuns : List (Nat × Nat) :=
  [ (0x09, 0x0D), (0x20, 0x20), (0x85, 0x85), (0xA0, 0xA0), (0x1680, 0x1680),
    (0x2000, 0x200A), (0x2028, 0x2029), (0x202F, 0x202F), (0x205F, 0x205F),
    (0x3000, 0x3000) ]

/-- Whether a character is blank. -/
def isBlankLetter (letter : Char) : Bool :=
  blankRuns.any fun run => run.1 ≤ letter.toNat && letter.toNat ≤ run.2

/-- Leave out blanks at the start. -/
def trimStart (text : List Char) : List Char :=
  text.dropWhile isBlankLetter

/-- Leave out blanks at the end. -/
def trimEnd (text : List Char) : List Char :=
  (text.reverse.dropWhile isBlankLetter).reverse

/-- The blanks of ASCII are blanks. -/
theorem isBlankLetter_of_isWhitespace (letter : Char) (blank : letter.isWhitespace) :
    isBlankLetter letter := by
  simp only [Char.isWhitespace, Bool.or_eq_true, decide_eq_true_eq] at blank
  rcases blank with ((blank | blank) | blank) | blank <;> subst blank <;> decide

end PoolArbiter
