import PoolArbiter.Proofs.Printing.Numbers

/-!
# The lines of a printed document

A printed document is read as its lines: under each header the entries of its section, and
nothing for the empty lines between the sections. `Reads` says of a text which lines it has, with
any fuel that is enough; the lemmas put one line in front of a text, and by induction over the
entries and the sections all of them.
-/

namespace PoolArbiter.Toml

section Scalars

/-- The value as which a printed value is read. -/
def Scalar.value : Scalar → Value
  | .natural number => .integer number
  | .float number => .float (.ofFloat number)
  | .truth flag => .truth flag
  | .text content => .text content

/-- A printed value is read as it was, up to the end of its line. -/
theorem readScalar_text {scalar : Scalar} {text : List Char} (printed : scalar.text? = some text)
    (rest : List Char) :
    readScalar (text ++ '\n' :: rest) = some (scalar.value, '\n' :: rest) := by
  cases scalar with
  | natural number =>
      obtain ⟨small, digits⟩ := Option.ite_none_right_eq_some.1 printed
      rw [← Option.some.inj digits]
      exact readScalar_digitText small rest
  | float number =>
      rw [← Option.some.inj printed]
      exact readScalar_documentText number rest
  | truth flag =>
      rw [← Option.some.inj printed]
      cases flag <;> rfl
  | text content =>
      have ends : ('\n' :: rest).head? ≠ some '"' := by simp
      have read := readText_quoted content ends
      rw [← Option.some.inj printed]
      rw [quoted, List.cons_append, List.cons_append] at read ⊢
      rw [readScalar, read, Option.map_some]
      dsimp only
      rw [String.ofList_toList]
      rfl

/-- What starts with no bracket is read as a scalar. -/
theorem readValue_plain (depth : Nat) {first : Char} (array : first ≠ '[') (table : first ≠ '{')
    (more : List Char) : readValue depth (first :: more) = readScalar (first :: more) := by
  cases depth with
  | zero => rfl
  | succ depth =>
      rw [readValue]
      · exact fun _ same => array (List.cons.inj same).1
      · exact fun _ same => table (List.cons.inj same).1

/-- A printed value starts neither with a blank nor like a value that holds others. -/
theorem text?_eq_cons {scalar : Scalar} {text : List Char} (printed : scalar.text? = some text) :
    ∃ first more, text = first :: more ∧ first ∉ ['[', '{', ' ', '\t'] := by
  cases scalar with
  | natural number =>
      obtain ⟨small, digits⟩ := Option.ite_none_right_eq_some.1 printed
      obtain ⟨first, more, whole, isDigit⟩ := (isWhole_digitText number).eq_cons
      exact ⟨first, more, (Option.some.inj digits).symm.trans whole,
        not_mem_of_isDigit isDigit rfl⟩
  | float number =>
      obtain ⟨first, more, shown, start⟩ := documentText_eq_cons number
      refine ⟨first, more, (Option.some.inj printed).symm.trans shown, ?_⟩
      rcases start with isDigit | name
      · exact not_mem_of_isDigit isDigit rfl
      · simp only [List.mem_cons, List.not_mem_nil, or_false] at name
        rcases name with rfl | rfl | rfl <;> decide
  | truth flag =>
      rw [← Option.some.inj printed]
      cases flag <;> exact ⟨_, _, rfl, by decide⟩
  | text content =>
      rw [← Option.some.inj printed]
      exact ⟨_, _, rfl, by decide⟩

end Scalars

section Lines

/-- The lines that are read from a text. -/
def Reads (text : List Char) (lines : List Line) : Prop :=
  ∀ fuel, text.length < fuel → readLines fuel text = some lines

/-- An empty text has no lines. -/
theorem reads_nil : Reads [] [] := by
  intro fuel enough
  obtain ⟨fuel, rfl⟩ := Nat.exists_eq_succ_of_ne_zero (Nat.ne_of_gt enough)
  rfl

/-- An empty line counts for nothing. -/
theorem Reads.blank {text : List Char} {lines : List Line} (reads : Reads text lines) :
    Reads ('\n' :: text) lines := by
  intro fuel enough
  obtain ⟨fuel, rfl⟩ := Nat.exists_eq_succ_of_ne_zero (Nat.ne_of_gt (Nat.zero_lt_of_lt enough))
  exact reads fuel (Nat.lt_of_succ_lt_succ enough)

/-- A line that starts with a visible character goes up to the line end. -/
theorem Reads.cons {first : Char} {more text : List Char} {line : Line} {lines : List Line}
    (visible : first ∉ [' ', '\t', '#', '\n', '\r'])
    (read : readLine (first :: (more ++ '\n' :: text)) = some (line, '\n' :: text))
    (reads : Reads text lines) : Reads (first :: (more ++ '\n' :: text)) (line :: lines) := by
  simp only [List.mem_cons, List.not_mem_nil, or_false, not_or] at visible
  obtain ⟨space, tabulator, comment, newline, carriage⟩ := visible
  intro fuel enough
  obtain ⟨fuel, rfl⟩ := Nat.exists_eq_succ_of_ne_zero (Nat.ne_of_gt (Nat.zero_lt_of_lt enough))
  have later := reads fuel (by simp at enough; omega)
  have start : skipBlanks (first :: (more ++ '\n' :: text)) = first :: (more ++ '\n' :: text) :=
    skipBlanks_cons (by simp [isBlank, space, tabulator]) _
  have notEnd : lineEnd? (first :: (more ++ '\n' :: text)) = none := by
    unfold lineEnd?
    rw [start]
    split
    next same => exact absurd (List.cons.inj same).1 comment
    next =>
      dsimp only [List.isEmpty_cons]
      rw [if_neg Bool.false_ne_true]
      unfold newline?
      split
      next same => exact absurd (List.cons.inj same).1 newline
      next same => exact absurd (List.cons.inj same).1 carriage
      next => rfl
  have lineEnd : lineEnd? ('\n' :: text) = some text := rfl
  rw [readLines, start]
  simp only [notEnd, read, lineEnd, later, Option.bind_eq_bind, Option.bind_some, Option.pure_def]

/-- A printed key starts with a bare letter or a quote. -/
theorem keyText_eq_cons {path : List String} (named : path ≠ []) :
    ∃ first more, keyText path = first :: more ∧ (isBareLetter first = true ∨ first = '"') := by
  cases path with
  | nil => exact absurd rfl named
  | cons part path =>
      obtain ⟨first, more, printed, _, start⟩ := keyPart_eq_cons part
      cases path with
      | nil => exact ⟨first, more, by simp [keyText, printed], start⟩
      | cons next path =>
          exact ⟨first, _, by simp [keyText, List.intercalate, printed]; rfl, start⟩

/-- Neither a blank nor a comment nor a header starts with a key. -/
theorem visible_of_key {first : Char} (start : isBareLetter first = true ∨ first = '"') :
    first ∉ [' ', '\t', '#', '\n', '\r', '['] := by
  intro other
  simp only [List.mem_cons, List.not_mem_nil, or_false] at other
  rcases start with bare | rfl
  · rcases other with rfl | rfl | rfl | rfl | rfl | rfl <;> exact absurd bare (by decide)
  · revert other
    decide

/-- A header is read as its key. -/
theorem readLine_header (path : List String) (name : String) (short : path.length < greatestDepth)
    (rest : List Char) :
    readLine ('[' :: (keyText (path ++ [name]) ++ ']' :: '\n' :: rest)) =
      some (.header ⟨path, name⟩, '\n' :: rest) := by
  have ends : EndsKey (']' :: '\n' :: rest) := by
    rintro letter ⟨⟩
    decide
  have bracket : skipBlanks (']' :: '\n' :: rest) = ']' :: '\n' :: rest :=
    skipBlanks_cons (by decide) _
  have beyond : (skipBlanks (']' :: '\n' :: rest)).head? ≠ some '.' := by
    rw [bracket]
    simp
  have key := readKey_keyText name short ends beyond
  rw [bracket] at key
  have closing : readMark ']' (']' :: '\n' :: rest) = some ((), '\n' :: rest) := rfl
  have header : readHeader (keyText (path ++ [name]) ++ ']' :: '\n' :: rest) =
      some (⟨path, name⟩, '\n' :: rest) := by
    simp only [readHeader, key, closing, Option.bind_eq_bind, Option.bind_some, Option.pure_def]
  obtain ⟨first, more, text, start⟩ :=
    keyText_eq_cons (List.concat_ne_nil name path)
  rw [text, List.cons_append] at header ⊢
  rw [readLine]
  · simp only [header, Option.bind_eq_bind, Option.bind_some, Option.pure_def]
  · intro later same
    have opening : first = '[' := (List.cons.inj same).1
    subst opening
    exact visible_of_key start (by decide)

/-- An entry is read as its key and its value. -/
theorem readLine_define (name : String) {scalar : Scalar} {text : List Char}
    (printed : scalar.text? = some text) (rest : List Char) :
    readLine (keyPart name ++ " = ".toList ++ text ++ '\n' :: rest) =
      some (.define ⟨[], name⟩ scalar.value, '\n' :: rest) := by
  have shape : keyPart name ++ " = ".toList ++ text ++ '\n' :: rest =
      keyText ([] ++ [name]) ++ ' ' :: '=' :: ' ' :: (text ++ '\n' :: rest) := by
    simp [keyText]
  have ends : EndsKey (' ' :: '=' :: ' ' :: (text ++ '\n' :: rest)) := by
    rintro letter ⟨⟩
    decide
  have mark : skipBlanks (' ' :: '=' :: ' ' :: (text ++ '\n' :: rest)) =
      '=' :: ' ' :: (text ++ '\n' :: rest) := rfl
  have beyond : (skipBlanks (' ' :: '=' :: ' ' :: (text ++ '\n' :: rest))).head? ≠ some '.' := by
    rw [mark]
    simp
  have short : ([] : List String).length < greatestDepth := by decide
  have key := readKey_keyText name short ends beyond
  rw [mark] at key
  have equals : readMark '=' ('=' :: ' ' :: (text ++ '\n' :: rest)) =
      some ((), ' ' :: (text ++ '\n' :: rest)) := rfl
  have value : readValue greatestDepth (skipBlanks (' ' :: (text ++ '\n' :: rest))) =
      some (scalar.value, '\n' :: rest) := by
    have read := readScalar_text printed rest
    obtain ⟨first, more, rfl, start⟩ := text?_eq_cons printed
    simp only [List.mem_cons, List.not_mem_nil, or_false, not_or] at start
    obtain ⟨array, table, space, tabulator⟩ := start
    have blank : isBlank first = false := by simp [isBlank, space, tabulator]
    have skip : skipBlanks (' ' :: (first :: more ++ '\n' :: rest)) =
        first :: more ++ '\n' :: rest := skipBlanks_cons blank _
    rw [skip, List.cons_append, readValue_plain _ array table]
    exact read
  obtain ⟨first, more, letters, start⟩ :=
    keyText_eq_cons (List.concat_ne_nil name [])
  rw [shape]
  rw [letters, List.cons_append] at key ⊢
  rw [readLine]
  · simp only [key, equals, value, Option.bind_eq_bind, Option.bind_some, Option.pure_def]
  all_goals
    intro later same
    have opening : first = '[' := (List.cons.inj same).1
    subst opening
    exact visible_of_key start (by decide)

end Lines

section Sections

/-- The entries of a section as lines. -/
def fieldLines (fields : List (String × Scalar)) : List Line :=
  fields.map fun field => .define ⟨[], field.1⟩ field.2.value

/-- A section as lines: its header and its entries. -/
def Section.lines (section_ : Section) : List Line :=
  .header ⟨section_.path.dropLast, section_.path.getLastD ""⟩ :: fieldLines section_.fields

/-- The path of a section names a table that is not too deep. -/
def Section.IsNamed (section_ : Section) : Prop :=
  section_.path ≠ [] ∧ section_.path.length ≤ greatestDepth

/-- A printed field is read back as its definition. -/
theorem Reads.field {field : String × Scalar} {printed : List Char}
    (print : fieldLine? field = some printed) {text : List Char} {lines : List Line}
    (reads : Reads text lines) :
    Reads (printed ++ text) (.define ⟨[], field.1⟩ field.2.value :: lines) := by
  obtain ⟨shown, value, rfl⟩ := Option.map_eq_some_iff.1 print
  have read := readLine_define field.1 value text
  obtain ⟨first, more, key, _, start⟩ := keyPart_eq_cons field.1
  have line : keyPart field.1 ++ " = ".toList ++ shown ++ '\n' :: text =
      first :: (more ++ " = ".toList ++ shown ++ '\n' :: text) := by
    rw [key]
    rfl
  rw [List.append_assoc, List.singleton_append, line]
  rw [line] at read
  refine Reads.cons (fun other => visible_of_key start ?_) read reads
  exact List.mem_append_left ['['] other

/-- Printed fields are read back as their definitions. -/
theorem Reads.fields {fields : List (String × Scalar)} {printed : List (List Char)}
    (print : fields.mapM fieldLine? = some printed) {text : List Char} {lines : List Line}
    (reads : Reads text lines) : Reads (printed.flatten ++ text) (fieldLines fields ++ lines) := by
  induction fields generalizing printed with
  | nil =>
      cases print
      exact reads
  | cons field fields inductionHypothesis =>
      simp only [List.mapM_cons, Option.bind_eq_bind, Option.pure_def, Option.bind_eq_some_iff,
        Option.some.injEq] at print
      obtain ⟨shown, line, later, others, rfl⟩ := print
      rw [List.flatten_cons, List.append_assoc]
      exact (inductionHypothesis others).field line

/-- A printed section is read back as its header and its definitions. -/
theorem Reads.section_ {section_ : Section} (named : section_.IsNamed) {printed : List Char}
    (print : section_.text? = some printed) {text : List Char} {lines : List Line}
    (reads : Reads text lines) : Reads (printed ++ text) (section_.lines ++ lines) := by
  obtain ⟨path, fields⟩ := section_
  obtain ⟨present, short⟩ := named
  dsimp only at present short
  simp only [Section.text?, Option.bind_eq_bind, Option.pure_def, Option.bind_eq_some_iff,
    Option.some.injEq] at print
  obtain ⟨shown, entries, rfl⟩ := print
  have body := reads.fields entries
  obtain ⟨front, last, rfl⟩ : ∃ front last, path = front ++ [last] :=
    ⟨path.dropLast, path.getLast present, (List.dropLast_append_getLast present).symm⟩
  have header := readLine_header front last
    (by rw [List.length_append] at short; exact short) (shown.flatten ++ text)
  have lines_eq : (⟨front ++ [last], fields⟩ : Section).lines =
      .header ⟨front, last⟩ :: fieldLines fields := by
    simp [Section.lines]
  have text_eq : '[' :: keyText (front ++ [last]) ++ [']', '\n'] ++ shown.flatten ++ text =
      '[' :: ((keyText (front ++ [last]) ++ [']']) ++ '\n' :: (shown.flatten ++ text)) := by
    simp
  have shape : keyText (front ++ [last]) ++ ']' :: '\n' :: (shown.flatten ++ text) =
      (keyText (front ++ [last]) ++ [']']) ++ '\n' :: (shown.flatten ++ text) := by
    simp
  rw [shape] at header
  rw [lines_eq, text_eq]
  exact Reads.cons (by decide) header body

/-- The sections of a document are read as they were. -/
theorem reads_sections {sections : List Section}
    (named : ∀ section_ ∈ sections, section_.IsNamed) {printed : List (List Char)}
    (print : sections.mapM Section.text? = some printed) :
    Reads (List.intercalate ['\n'] printed) (sections.flatMap Section.lines) := by
  induction sections generalizing printed with
  | nil =>
      cases print
      exact reads_nil
  | cons section_ sections inductionHypothesis =>
      simp only [List.mapM_cons, Option.bind_eq_bind, Option.pure_def, Option.bind_eq_some_iff,
        Option.some.injEq] at print
      obtain ⟨shown, first, later, others, rfl⟩ := print
      have rest := inductionHypothesis
        (fun other member => named other (List.mem_cons_of_mem _ member)) others
      have here := named section_ List.mem_cons_self
      cases later with
      | nil => exact rest.section_ here first
      | cons next later =>
          rw [List.intercalate_cons_cons, List.append_assoc, List.singleton_append]
          exact rest.blank.section_ here first

/-- A document starts with a header, not with a byte order mark. -/
theorem withoutMark_sections {sections : List Section} {printed : List (List Char)}
    (print : sections.mapM Section.text? = some printed) :
    withoutMark (List.intercalate ['\n'] printed) = List.intercalate ['\n'] printed := by
  cases sections with
  | nil =>
      cases print
      rfl
  | cons section_ sections =>
      simp only [List.mapM_cons, Option.bind_eq_bind, Option.pure_def, Option.bind_eq_some_iff,
        Option.some.injEq] at print
      obtain ⟨shown, first, later, _, rfl⟩ := print
      simp only [Section.text?, Option.bind_eq_bind, Option.pure_def, Option.bind_eq_some_iff,
        Option.some.injEq] at first
      obtain ⟨_, _, rfl⟩ := first
      cases later with
      | nil =>
          rw [List.intercalate_singleton]
          rfl
      | cons next later =>
          rw [List.intercalate_cons_cons]
          rfl

/-- A printed document is read as the table that its lines describe. -/
theorem readDocument?_print {sections : List Section}
    (named : ∀ section_ ∈ sections, section_.IsNamed) {text : List Char}
    (print : print? sections = some text) :
    readDocument? (String.ofList text) = assemble? (sections.flatMap Section.lines) := by
  obtain ⟨printed, shown, rfl⟩ := Option.map_eq_some_iff.1 print
  have reads := reads_sections named shown
  unfold readDocument?
  rw [String.toList_ofList, withoutMark_sections shown]
  dsimp only
  rw [reads _ (Nat.lt_succ_self _)]
  rfl

end Sections

section Limits

/-- A conversion of all elements fails exactly if it fails for one of them. -/
theorem mapM_eq_none_iff {α β : Type} {convert : α → Option β} {elements : List α} :
    elements.mapM convert = none ↔ ∃ element ∈ elements, convert element = none := by
  induction elements with
  | nil => simp
  | cons element elements inductionHypothesis =>
      rw [List.mapM_cons]
      cases first : convert element with
      | none => simp [first]
      | some value =>
          cases later : elements.mapM convert with
          | none =>
              obtain ⟨other, member, missing⟩ := inductionHypothesis.1 later
              exact iff_of_true rfl ⟨other, List.mem_cons_of_mem _ member, missing⟩
          | some values =>
              refine iff_of_false nofun ?_
              rintro ⟨other, member, missing⟩
              rcases List.mem_cons.1 member with rfl | member
              · rw [first] at missing
                cases missing
              · rw [inductionHypothesis.2 ⟨other, member, missing⟩] at later
                cases later

/-- The number that is printed, if the value is a whole number. -/
def Scalar.natural? : Scalar → Option Nat
  | .natural number => some number
  | _ => none

/-- The whole numbers of a section. -/
def Section.naturals (section_ : Section) : List Nat :=
  section_.fields.filterMap (·.2.natural?)

/-- A scalar cannot be printed exactly if it is an integer that is too large. -/
theorem Scalar.text?_eq_none_iff {scalar : Scalar} :
    scalar.text? = none ↔ ∃ number, scalar.natural? = some number ∧ integerLimit ≤ number := by
  cases scalar with
  | natural number => simp [text?, natural?]
  | float number => simp [text?, natural?]
  | truth flag => simp [text?, natural?]
  | text content => simp [text?, natural?]

/-- A section cannot be printed exactly if it has an integer that is too large. -/
theorem Section.text?_eq_none_iff {section_ : Section} :
    section_.text? = none ↔ ∃ number ∈ section_.naturals, integerLimit ≤ number := by
  have entries : section_.fields.mapM fieldLine? = none ↔
      ∃ field ∈ section_.fields, fieldLine? field = none := mapM_eq_none_iff
  simp only [fieldLine?, Option.map_eq_none_iff, Scalar.text?_eq_none_iff] at entries
  have same : section_.text? = none ↔ section_.fields.mapM fieldLine? = none := by
    unfold Section.text?
    cases section_.fields.mapM fieldLine? <;> simp
  rw [same, entries]
  simp only [naturals, List.mem_filterMap]
  constructor
  · rintro ⟨field, member, number, natural, large⟩
    exact ⟨number, ⟨field, member, natural⟩, large⟩
  · rintro ⟨number, ⟨field, member, natural⟩, large⟩
    exact ⟨field, member, number, natural, large⟩

/-- A document cannot be printed exactly if one of its numbers is too large. -/
theorem print?_eq_none_iff {sections : List Section} :
    print? sections = none ↔
      ∃ number ∈ sections.flatMap Section.naturals, integerLimit ≤ number := by
  rw [print?, Option.map_eq_none_iff, mapM_eq_none_iff]
  simp only [Section.text?_eq_none_iff, List.mem_flatMap]
  constructor
  · rintro ⟨section_, member, number, natural, large⟩
    exact ⟨number, ⟨section_, member, natural⟩, large⟩
  · rintro ⟨number, ⟨section_, member, natural⟩, large⟩
    exact ⟨section_, member, number, natural, large⟩

end Limits

end PoolArbiter.Toml
