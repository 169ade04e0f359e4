import Mathlib.Data.List.Basic
import PoolArbiter.Toml.Document
import PoolArbiter.Toml.Printing

/-!
# Quoted text and keys read back

Whatever its characters are, a text between double quotes is read as it was, and so is every
key that is printed. What follows a text or a key is left to the next reader, so the lemmas
are about a text with a rest.
-/

namespace PoolArbiter.Toml

section Quoting

/-- Four digits name a control character. -/
theorem hexNumber?_escape : ∀ number < 128,
    ((Nat.toDigits 16 (0x10000 + number)).drop 1).length = 4 ∧
      hexNumber? ((Nat.toDigits 16 (0x10000 + number)).drop 1) = some number := by
  decide +kernel

/-- Letters that must be escaped are below 128. -/
theorem toNat_lt_of_not_basic {letter : Char} (quote : letter ≠ '"') (backslash : letter ≠ '\\')
    (control : isBasicLetter letter ≠ true) : letter.toNat < 128 := by
  refine Nat.lt_of_not_le fun large => control ?_
  have printable : 0x20 ≤ letter.toNat ∧ letter.toNat ≠ 0x7F := by omega
  simp [isBasicLetter, isCommentLetter, printable, quote, backslash]

/-- A letter is found by its number. -/
theorem scalar?_toNat (letter : Char) : scalar? letter.toNat = some letter := by
  have valid : letter.toNat.isValidChar := letter.valid
  rw [scalar?, if_pos valid, Char.ofNat_toNat]

/-- A character that is printed between quotes is read as it was. -/
theorem readBasic_quotedLetter (letter : Char) (rest : List Char) :
    readBasic (quotedLetter letter ++ rest) = prepend letter (readBasic rest) := by
  unfold quotedLetter
  split
  next same => rw [same]; rfl
  next quote =>
  split
  next same => rw [same]; rfl
  next backslash =>
  split
  next same => rw [same]; rfl
  split
  next same => rw [same]; rfl
  split
  next same => rw [same]; rfl
  split
  next same => rw [same]; rfl
  split
  next same => rw [same]; rfl
  split
  next basic =>
    rw [List.singleton_append, readBasic]
    · rw [if_pos basic]
    all_goals simp [quote, backslash]
  next control =>
    have small := toNat_lt_of_not_basic quote backslash control
    obtain ⟨four, number⟩ := hexNumber?_escape letter.toNat small
    obtain ⟨a, b, c, d, digits⟩ := List.length_eq_four.1 four
    rw [digits] at number ⊢
    simp only [List.cons_append, List.nil_append, readBasic, number, scalar?_toNat,
      Option.bind_eq_bind, Option.bind_some]

/-- Quoted letters are read back up to the closing quote. -/
theorem readBasic_flatMap (content rest : List Char) :
    readBasic (content.flatMap quotedLetter ++ '"' :: rest) = some (content, rest) := by
  induction content with
  | nil => rfl
  | cons letter content inductionHypothesis =>
      rw [List.flatMap_cons, List.append_assoc, readBasic_quotedLetter, inductionHypothesis]
      rfl

/-- No quoted letter starts with a quote. -/
theorem quotedLetter_eq_cons (letter : Char) :
    ∃ first more, quotedLetter letter = first :: more ∧ first ≠ '"' := by
  unfold quotedLetter
  split
  next => exact ⟨_, _, rfl, by decide⟩
  next quote =>
    iterate 6
      split
      next => exact ⟨_, _, rfl, by decide⟩
    split
    next => exact ⟨_, _, rfl, quote⟩
    next => exact ⟨_, _, rfl, by decide⟩

/-- A text between quotes is read as it was, unless one more quote follows. -/
theorem readText_quoted (content : String) {rest : List Char} (ends : rest.head? ≠ some '"') :
    readText (quoted content ++ rest) = some (content.toList, rest) := by
  have basic := readBasic_flatMap content.toList rest
  rw [quoted, List.cons_append, List.cons_append, List.append_assoc, List.singleton_append]
  cases letters : content.toList with
  | nil =>
      cases rest with
      | nil => rfl
      | cons first rest =>
          have other : first ≠ '"' := fun same => ends (congrArg some same)
          rw [List.flatMap_nil, List.nil_append, readText]
          · rfl
          · simp [other]
  | cons letter more =>
      obtain ⟨first, others, escaped, other⟩ := quotedLetter_eq_cons letter
      rw [letters, List.flatMap_cons, escaped] at basic
      rw [List.flatMap_cons, escaped, List.cons_append, List.cons_append, readText]
      · exact basic
      · simp [other]

end Quoting

section Keys

/-- Skipping blanks stops at once at any other letter. -/
theorem skipBlanks_cons {letter : Char} (visible : isBlank letter = false) (rest : List Char) :
    skipBlanks (letter :: rest) = letter :: rest := by
  simp [skipBlanks, visible]

/-- The letters of a bare key are no blanks. -/
theorem not_isBlank_of_bare {letter : Char} (bare : isBareLetter letter = true) :
    isBlank letter = false := by
  by_cases blank : isBlank letter = true
  · simp only [isBlank, Bool.or_eq_true, decide_eq_true_eq] at blank
    rcases blank with rfl | rfl
    · exact absurd bare (by decide)
    · exact absurd bare (by decide)
  · simpa using blank

/-- A rest that does not go on with a key. -/
def EndsKey (rest : List Char) : Prop :=
  ∀ letter ∈ rest.head?, isBareLetter letter = false

/-- A bare key is read up to its end. -/
theorem span_bare {letters rest : List Char} (bare : letters.all isBareLetter = true)
    (ends : EndsKey rest) :
    (letters ++ rest).takeWhile isBareLetter = letters ∧
      (letters ++ rest).dropWhile isBareLetter = rest := by
  have members := List.all_eq_true.1 bare
  rw [List.takeWhile_append_of_pos members, List.dropWhile_append_of_pos members]
  cases rest with
  | nil => simp
  | cons first rest =>
      have other : isBareLetter first = false := ends first rfl
      simp [other]

/-- A part of a key is read as it was. -/
theorem readKeyPart_keyPart (part : String) {rest : List Char} (ends : EndsKey rest) :
    readKeyPart (keyPart part ++ rest) = some (part, rest) := by
  unfold keyPart
  split
  next plain =>
    rw [Bool.and_eq_true] at plain
    obtain ⟨before, after⟩ := span_bare plain.2 ends
    cases letters : part.toList with
    | nil => simp [String.toList_eq_nil_iff.1 letters] at plain
    | cons letter more =>
        have bare : isBareLetter letter = true := by
          have all := plain.2
          rw [letters, List.all_cons, Bool.and_eq_true] at all
          exact all.1
        have quote : letter ≠ '"' := fun same => absurd bare (same ▸ by decide)
        have single : letter ≠ '\'' := fun same => absurd bare (same ▸ by decide)
        rw [letters] at before after
        rw [List.cons_append, readKeyPart]
        · rw [← List.cons_append, before, after]
          simp only [List.isEmpty_cons, Bool.false_eq_true, if_false]
          rw [← letters, String.ofList_toList]
        · simp [quote]
        · simp [single]
  next =>
    rw [quoted, List.cons_append, List.cons_append, List.append_assoc, List.singleton_append,
      readKeyPart, readBasic_flatMap]
    simp

/-- A printed part of a key starts with a bare letter or a quote. -/
theorem keyPart_eq_cons (part : String) :
    ∃ first more, keyPart part = first :: more ∧ isBlank first = false ∧
      (isBareLetter first = true ∨ first = '"') := by
  unfold keyPart
  split
  next plain =>
    rw [Bool.and_eq_true] at plain
    cases letters : part.toList with
    | nil => simp [String.toList_eq_nil_iff.1 letters] at plain
    | cons letter more =>
        have all := plain.2
        rw [letters, List.all_cons, Bool.and_eq_true] at all
        exact ⟨letter, more, rfl, not_isBlank_of_bare all.1, .inl all.1⟩
  next => exact ⟨_, _, rfl, by decide, .inr rfl⟩

/-- No part of a key starts with a blank. -/
theorem skipBlanks_keyPart (part : String) (rest : List Char) :
    skipBlanks (keyPart part ++ rest) = keyPart part ++ rest := by
  obtain ⟨first, more, printed, visible, _⟩ := keyPart_eq_cons part
  rw [printed, List.cons_append, skipBlanks_cons visible]

/-- A key is read as it was, and blanks after it are left out. -/
theorem readKeyParts_keyText {limit : Nat} {path : List String} (named : path ≠ [])
    (short : path.length ≤ limit) {rest : List Char} (ends : EndsKey rest)
    (beyond : (skipBlanks rest).head? ≠ some '.') :
    readKeyParts limit (keyText path ++ rest) = some (path, skipBlanks rest) := by
  induction path generalizing limit with
  | nil => exact absurd rfl named
  | cons part path inductionHypothesis =>
      obtain ⟨limit, rfl⟩ : ∃ less, limit = less + 1 :=
        Nat.exists_eq_succ_of_ne_zero (Nat.ne_of_gt (Nat.lt_of_lt_of_le (Nat.succ_pos _) short))
      cases path with
      | nil =>
          have text : keyText [part] = keyPart part := by simp [keyText]
          rw [text, readKeyParts, skipBlanks_keyPart, readKeyPart_keyPart part ends]
          simp only [Option.bind_eq_bind, Option.bind_some]
          split
          next dotted => exact absurd (by rw [dotted]; rfl) beyond
          next => rfl
      | cons next path =>
          have text : keyText (part :: next :: path) ++ rest =
              keyPart part ++ '.' :: (keyText (next :: path) ++ rest) := by
            simp [keyText, List.intercalate]
          have dot : EndsKey ('.' :: (keyText (next :: path) ++ rest)) := by
            rintro letter ⟨⟩
            decide
          have later := inductionHypothesis (List.cons_ne_nil next path)
            (Nat.le_of_succ_le_succ short)
          rw [text, readKeyParts, skipBlanks_keyPart, readKeyPart_keyPart part dot]
          have visible : isBlank '.' = false := rfl
          simp only [Option.bind_eq_bind, Option.bind_some, skipBlanks_cons visible, later,
            Option.pure_def]

/-- A key with its path is read as it was. -/
theorem readKey_keyText {path : List String} (name : String)
    (short : path.length < greatestDepth) {rest : List Char} (ends : EndsKey rest)
    (beyond : (skipBlanks rest).head? ≠ some '.') :
    readKey (keyText (path ++ [name]) ++ rest) = some (⟨path, name⟩, skipBlanks rest) := by
  have parts : readKeyParts greatestDepth (keyText (path ++ [name]) ++ rest) =
      some (path ++ [name], skipBlanks rest) := by
    refine readKeyParts_keyText (List.append_ne_nil_of_right_ne_nil _ (List.cons_ne_nil _ _)) ?_
      ends beyond
    rw [List.length_append]
    exact short
  simp only [readKey, parts, Option.bind_eq_bind, Option.bind_some, List.getLast?_concat,
    List.dropLast_concat, Option.pure_def]

end Keys

end PoolArbiter.Toml
