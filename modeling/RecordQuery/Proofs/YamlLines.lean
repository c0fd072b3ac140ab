import RecordQuery.Yaml.Node

/-!
# Mappings written line by line

A mapping can be written with one entry in each line: a word, a colon, and a text in
single quotes. Such lines are read as the mapping that they list, whatever the texts
hold, as long as each of them stays on its line.
-/

namespace RecordQuery.Yaml

/-! ## Lines -/

/-- A text as it stands between single quotes, with every quote doubled. -/
def escaped (text : List Char) : List Char :=
  text.flatMap fun character => if character = '\'' then ['\'', '\''] else [character]

/-- The line of an entry. -/
def line (entry : String × String) : List Char :=
  entry.1.toList ++ ':' :: ' ' :: '\'' :: (escaped entry.2.toList ++ ['\'', '\n'])

/-- The characters that stand for themselves wherever they are. -/
def isWordCharacter (character : Char) : Bool :=
  isAllowed character && !isBlank character && !isBreak character &&
    !isFlowIndicator character &&
      !(indicators ++ ['-', '?', ':', '.', '\uFEFF']).contains character

/-- A key that needs no quotes and is short enough to reach its colon. -/
structure IsWord (text : List Char) : Prop where
  nonempty : text ≠ []
  word : ∀ character ∈ text, isWordCharacter character
  short : (String.ofList text).utf8ByteSize ≤ Scan.keyReach

/-- A text that can be written and has no line break. -/
def OneLine (text : List Char) : Prop :=
  ∀ character ∈ text, isAllowed character ∧ ¬isBreak character

/-- An entry with a line of its own. -/
structure HasLine (entry : String × String) : Prop where
  key : IsWord entry.1.toList
  value : OneLine entry.2.toList

/-! ## Places -/

/-- The place behind a text. -/
def Place.past (place : Place) (text : List Char) : Place := text.foldl Place.after place

@[simp] theorem Place.past_nil (place : Place) : place.past [] = place := rfl

@[simp] theorem Place.past_cons (place : Place) (character : Char) (text : List Char) :
    place.past (character :: text) = (place.after character).past text := rfl

/-- A text without line breaks leads on along its line. -/
theorem Place.past_of_unbroken {text : List Char}
    (unbroken : ∀ character ∈ text, ¬isBreak character) (place : Place) :
    place.past text = ⟨place.line, place.column + text.length,
      place.offset + (String.ofList text).utf8ByteSize⟩ := by
  induction text generalizing place with
  | nil => rfl
  | cons character text ih =>
      obtain ⟨first, rest⟩ := List.forall_mem_cons.1 unbroken
      rw [past_cons, ih rest, Place.after, if_neg first, String.ofList_cons,
        String.utf8ByteSize_append, String.utf8ByteSize_singleton, List.length_cons]
      simp only [Nat.add_assoc, Nat.add_comm 1]

section Word

variable {character : Char} (word : isWordCharacter character)

include word

theorem ne_of_isWordCharacter {other : Char} (notWord : isWordCharacter other = false) :
    character ≠ other := by
  rintro rfl
  rw [word] at notWord
  cases notWord

theorem not_isBreak_of_isWordCharacter : ¬isBreak character := by
  simp only [isWordCharacter, Bool.and_eq_true, Bool.not_eq_true'] at word
  simp [word.1.1.2]

theorem not_isBlank_of_isWordCharacter : ¬isBlank character := by
  simp only [isWordCharacter, Bool.and_eq_true, Bool.not_eq_true'] at word
  simp [word.1.1.1.2]

theorem startsPlain_of_isWordCharacter (rest : List Char) :
    startsPlain false (character :: rest) := by
  simp only [isWordCharacter, indicators, Bool.and_eq_true, Bool.not_eq_true',
    List.contains_eq_mem, decide_eq_false_iff_not, List.mem_append, List.mem_cons, not_or] at word
  simp [startsPlain, indicators, word]

end Word

/-! ## Scalars -/

theorem readPlain?_word {text : List Char} (word : ∀ character ∈ text, isWordCharacter character)
    (margin : Nat) {steps : Nat} (place : Place) (after : List Char)
    (enough : text.length < steps) :
    readPlain? false margin steps .empty ⟨place, text ++ ':' :: ' ' :: after⟩ =
      some (text, .empty, ⟨place.past text, ':' :: ' ' :: after⟩) := by
  induction text generalizing place steps with
  | nil =>
      obtain ⟨steps, rfl⟩ := Nat.exists_eq_add_one.2 enough
      simp [readPlain?, isBlank, isBreak, Gap.empty, Gap.isEmpty, standsAlone]
  | cons character text ih =>
      obtain ⟨steps, rfl⟩ := Nat.exists_eq_add_one.2 (Nat.zero_lt_of_lt enough)
      obtain ⟨first, rest⟩ := List.forall_mem_cons.1 word
      have notColon : character ≠ ':' := ne_of_isWordCharacter first (by decide)
      have later := ih rest (place.after character) (Nat.lt_of_succ_lt_succ enough)
      simp only [Gap.empty] at later
      simp [readPlain?, not_isBlank_of_isWordCharacter first, not_isBreak_of_isWordCharacter first,
        notColon, Gap.empty, Gap.isEmpty, Gap.text, Cursor.next, later]

@[simp] theorem escaped_nil : escaped [] = [] := rfl

theorem escaped_cons (character : Char) (text : List Char) :
    escaped (character :: text) =
      (if character = '\'' then ['\'', '\''] else [character]) ++ escaped text := rfl

theorem Place.column_after {place : Place} {character : Char} (unbroken : ¬isBreak character) :
    (place.after character).column = place.column + 1 := by
  simp [after, unbroken]

/-- Blanks are held back until a visible character or the quote comes. At the start of a
line the characters could be a document marker, which is why the text starts inside one. -/
theorem readQuoted?_escaped {text : List Char} (unbroken : ∀ character ∈ text, ¬isBreak character)
    {steps : Nat} (passed : List Char) {place : Place} (after : List Char)
    (inside : 0 < place.column) (enough : (escaped text).length < steps) :
    readQuoted? .single steps (.blanks passed) ⟨place, escaped text ++ '\'' :: '\n' :: after⟩ =
      some (passed ++ text, ⟨place.past (escaped text ++ ['\'']), '\n' :: after⟩) := by
  induction text generalizing place steps passed with
  | nil =>
      obtain ⟨steps, rfl⟩ := Nat.exists_eq_add_one.2 enough
      simp [readQuoted?, isBlank, isBreak, Cursor.atMarker, Cursor.hasMarks, Gap.text,
        Cursor.next]
  | cons character text ih =>
      obtain ⟨steps, rfl⟩ := Nat.exists_eq_add_one.2 (Nat.zero_lt_of_lt enough)
      obtain ⟨first, rest⟩ := List.forall_mem_cons.1 unbroken
      by_cases quote : character = '\''
      · subst quote
        have insideNext : 0 < ((place.after '\'').after '\'').column := by
          simp [Place.column_after, isBreak]
        have enoughRest : (escaped text).length < steps := by
          simp only [escaped_cons, if_true, List.length_append, List.length_cons] at enough
          omega
        have later := ih rest [] insideNext enoughRest
        simp [escaped_cons, readQuoted?, isBlank, isBreak, Cursor.atMarker, Cursor.hasMarks,
          Gap.text, Cursor.next, Cursor.skip, Gap.empty, later]
      · have single : escaped (character :: text) = character :: escaped text := by
          simp [escaped_cons, quote]
        have insideNext : 0 < (place.after character).column := by simp [Place.column_after first]
        rw [single] at enough ⊢
        have enoughRest : (escaped text).length < steps := Nat.lt_of_succ_lt_succ enough
        by_cases blank : isBlank character
        · have later := ih rest (passed ++ [character]) insideNext enoughRest
          simp [readQuoted?, blank, Gap.pass, first, Cursor.next, later]
        · have later := ih rest [] insideNext enoughRest
          have noMarker : ¬Cursor.atMarker
              ⟨place, character :: (escaped text ++ '\'' :: '\n' :: after)⟩ := by
            simp [Cursor.atMarker, Cursor.hasMarks, Nat.ne_of_gt inside]
          simp [readQuoted?, blank, first, noMarker, Gap.text, Gap.empty, Cursor.skip, Cursor.next,
            quote, later]

theorem passBlanks_of_visible {character : Char} (unbroken : ¬isBreak character)
    (visible : ¬isBlank character) (noMark : character ≠ '\uFEFF') (noComment : character ≠ '#')
    (keyAllowed : Bool) (place : Place) (rest : List Char) :
    passBlanks false keyAllowed false place (character :: rest) =
      (keyAllowed, ⟨place, character :: rest⟩) := by
  simp only [isBlank, Bool.or_eq_true, decide_eq_true_eq, not_or] at visible
  simp [passBlanks, unbroken, visible, noMark, noComment]

/-! ## Tokens -/

namespace Scan

variable {indents : List Nat} {opening : List Token} {scan : Scan}

/-- At the start of a line, outside of all collections but the mapping of the lines. -/
def atLine (indents : List Nat) (tokens : List Token) (place : Place) (text : List Char) : Scan :=
  { cursor := ⟨place, text⟩, tokens, indents }

/-- Behind a word that may turn out to be a key. -/
def behindWord (indents : List Nat) (tokens : List Token) (possible : PossibleKey) (place : Place)
    (text : List Char) : Scan :=
  { cursor := ⟨place, text⟩, tokens, indents, possible := some possible, keyAllowed := false }

/-- Inside a line, where no key can start. -/
def behindKey (tokens : List Token) (place : Place) (text : List Char) : Scan :=
  { cursor := ⟨place, text⟩, tokens, indents := [0], keyAllowed := false }

/-- The open collections at the start of a line, and the token that opens the mapping if
that is still to come. -/
inductive AtMargin : List Nat → List Token → Prop where
  | before : AtMargin [] [.blockMappingStart]
  | inside : AtMargin [0] []

/-- No column is left of the margin. -/
theorem AtMargin.closeBlocks_eq (margin : AtMargin indents opening) (column : Nat)
    (same : scan.indents = indents) : closeBlocks (column < ·) scan = scan := by
  cases margin <;> simp [closeBlocks, same] <;> simp [← same]

/-- Going to the next token only passes over what separates it from the last one. -/
theorem AtMargin.approach?_eq (margin : AtMargin indents opening) (same : scan.indents = indents)
    (outside : scan.outer = []) {keyAllowed : Bool} {cursor : Cursor}
    (passed : passBlanks false scan.keyAllowed false scan.cursor.place scan.cursor.rest =
      (keyAllowed, cursor))
    (kept : reaching? cursor.place scan.possible = some scan.possible) :
    scan.approach? = some { scan with cursor, keyAllowed } := by
  have closed : closeBlocks (cursor.place.column < ·) { scan with cursor, keyAllowed } = _ :=
    margin.closeBlocks_eq _ same
  simpa [approach?, inFlow, outside, passed, kept] using closed

theorem run?_of_readToken? {steps : Nat} {read : Scan} {character : Char} {rest : List Char}
    {approached : Scan} (approach : scan.approach? = some approached)
    (here : approached.cursor.rest = character :: rest)
    (token : approached.readToken? character rest = some read) :
    run? (steps + 1) scan = run? steps read := by
  simp only [run?, approach, here, token, Option.bind_eq_bind, Option.bind_some]

theorem readToken?_of_word {character : Char} (word : isWordCharacter character)
    (rest : List Char) (outside : scan.outer = [])
    (here : scan.cursor.rest = character :: rest) :
    scan.readToken? character rest = scan.readPlainScalar? := by
  have plain := startsPlain_of_isWordCharacter word rest
  simp only [isWordCharacter, indicators, isFlowIndicator, Bool.and_eq_true, Bool.not_eq_true',
    List.contains_eq_mem, decide_eq_false_iff_not, List.mem_append, List.mem_cons, not_or,
    Bool.or_eq_false_iff] at word
  simp [readToken?, Cursor.hasMarks, here, inFlow, outside, plain, word]

theorem run?_word (margin : AtMargin indents opening) (steps : Nat) (tokens : List Token)
    (place : Place) {key : List Char} (word : IsWord key) (after : List Char) :
    ∃ required,
      run? (steps + 1) (atLine indents tokens place (key ++ ':' :: ' ' :: after)) =
        run? steps (behindWord indents (.scalar (String.ofList key) :: tokens)
          ⟨place, tokens.length, required⟩ (place.past key) (':' :: ' ' :: after)) := by
  have whole := readPlain?_word word.word (indents.head?.elim 0 (· + 1)) place after
    (show _ < (key ++ ':' :: ' ' :: after).length + 1 by rw [List.length_append]; omega)
  have scanned : (atLine indents tokens place (key ++ ':' :: ' ' :: after)).readPlainScalar? =
      some (behindWord indents (.scalar (String.ofList key) :: tokens)
        ⟨place, tokens.length, indents.head? == some place.column⟩ (place.past key)
          (':' :: ' ' :: after)) :=
    congrArg (Option.bind · _) whole
  obtain ⟨character, rest, rfl⟩ := List.exists_cons_of_ne_nil word.nonempty
  have wordFirst := word.word character List.mem_cons_self
  have passed := passBlanks_of_visible (not_isBreak_of_isWordCharacter wordFirst)
    (not_isBlank_of_isWordCharacter wordFirst) (ne_of_isWordCharacter wordFirst (by decide))
    (ne_of_isWordCharacter wordFirst (by decide)) true place (rest ++ ':' :: ' ' :: after)
  have approached : (atLine indents tokens place
      (character :: rest ++ ':' :: ' ' :: after)).approach? = _ :=
    margin.approach?_eq rfl rfl passed rfl
  refine ⟨indents.head? == some place.column, run?_of_readToken? approached rfl ?_⟩
  exact (readToken?_of_word wordFirst _ rfl rfl).trans scanned

/-- The colon makes a key of the word before it, and opens the mapping if it is not
open yet. -/
theorem run?_colon (margin : AtMargin indents opening) (steps : Nat) (tokens : List Token)
    (key : String) {place behind : Place} (required : Bool) (first : place.column = 0)
    (sameLine : behind.line = place.line) (reached : behind.offset ≤ place.offset + keyReach)
    (after : List Char) :
    run? (steps + 1) (behindWord indents (.scalar key :: tokens) ⟨place, tokens.length, required⟩
        behind (':' :: ' ' :: after)) =
      run? steps (behindKey (.value :: .scalar key :: .key :: (opening ++ tokens))
        (behind.after ':') (' ' :: after)) := by
  have passed : passBlanks false false false behind (':' :: ' ' :: after) = _ :=
    passBlanks_of_visible (by decide) (by decide) (by decide) (by decide) _ _ _
  have kept : reaching? behind (some ⟨place, tokens.length, required⟩) =
      some (some ⟨place, tokens.length, required⟩) := by
    rw [reaching?, if_neg]
    simp only
    omega
  have newer : tokens.length + 1 + 1 - tokens.length = 2 := by omega
  refine run?_of_readToken? (margin.approach?_eq rfl rfl passed kept) rfl ?_
  cases margin <;>
    simp [behindWord, behindKey, readToken?, Cursor.hasMarks, standsAlone, isBlank, readValue?,
      putIn, openBlock, inFlow, first, newer, allowKey, add, skip, Cursor.skip, Cursor.next]

/-- The quoted text behind the colon. -/
theorem run?_value (steps : Nat) (tokens : List Token) (place : Place) {value : List Char}
    (oneLine : OneLine value) (after : List Char) :
    ∃ behind,
      run? (steps + 1) (behindKey tokens place
          (' ' :: '\'' :: (escaped value ++ '\'' :: '\n' :: after))) =
        run? steps
          (behindKey (.scalar (String.ofList value) :: tokens) behind ('\n' :: after)) := by
  have passed : passBlanks false false false place
      (' ' :: '\'' :: (escaped value ++ '\'' :: '\n' :: after)) =
        (false, ⟨place.after ' ', '\'' :: (escaped value ++ '\'' :: '\n' :: after)⟩) := by
    simp [passBlanks, isBreak]
  have inside : 0 < ((place.after ' ').after '\'').column := by simp [Place.column_after, isBreak]
  have whole := readQuoted?_escaped (fun character member => (oneLine character member).2) []
    after inside (show _ < (escaped value ++ '\'' :: '\n' :: after).length + 1 by
      rw [List.length_append]
      omega)
  refine ⟨((place.after ' ').after '\'').past (escaped value ++ ['\'']),
    run?_of_readToken? (AtMargin.inside.approach?_eq rfl rfl passed rfl) rfl ?_⟩
  exact congrArg (Option.bind · _) whole

/-- Behind a line break it makes no difference what was on the line. -/
theorem run?_lineBreak (steps : Nat) (tokens : List Token) (place : Place) (after : List Char) :
    run? steps (behindKey tokens place ('\n' :: after)) =
      run? steps (atLine [0] tokens (place.after '\n') after) := by
  have passed : passBlanks false false false place ('\n' :: after) =
      passBlanks false true false (place.after '\n') after := by
    simp [passBlanks, isBreak]
  have approached : (behindKey tokens place ('\n' :: after)).approach? =
      (atLine [0] tokens (place.after '\n') after).approach? := by
    simp only [approach?, behindKey, atLine, inFlow, List.isEmpty_nil, Bool.not_true, passed]
  cases steps with
  | zero => rfl
  | succ steps => rw [run?, run?, approached]

/-- The tokens of an entry. -/
def entryTokens (entry : String × String) : List Token :=
  [.key, .scalar entry.1, .value, .scalar entry.2]

theorem run?_line (margin : AtMargin indents opening) (steps : Nat) (tokens : List Token)
    {place : Place} (first : place.column = 0) {entry : String × String} (lined : HasLine entry)
    (after : List Char) :
    ∃ behind : Place, behind.column = 0 ∧
      run? (steps + 3) (atLine indents tokens place (line entry ++ after)) =
        run? steps
          (atLine [0] ((entryTokens entry).reverse ++ (opening ++ tokens)) behind after) := by
  have written : line entry ++ after = entry.1.toList ++ ':' :: ' ' ::
      ('\'' :: (escaped entry.2.toList ++ '\'' :: '\n' :: after)) := by simp [line]
  have moved := Place.past_of_unbroken (fun character member =>
    not_isBreak_of_isWordCharacter (lined.key.word character member)) place
  obtain ⟨required, word⟩ := run?_word margin (steps + 2) tokens place lined.key
    ('\'' :: (escaped entry.2.toList ++ '\'' :: '\n' :: after))
  have sameLine : (place.past entry.1.toList).line = place.line := by rw [moved]
  have reached : (place.past entry.1.toList).offset ≤ place.offset + keyReach := by
    rw [moved]
    exact Nat.add_le_add_left lined.key.short place.offset
  have colon := run?_colon margin (steps + 1) tokens entry.1 required first sameLine reached
    ('\'' :: (escaped entry.2.toList ++ '\'' :: '\n' :: after))
  obtain ⟨behind, value⟩ := run?_value steps
    (.value :: .scalar entry.1 :: .key :: (opening ++ tokens))
    ((place.past entry.1.toList).after ':') lined.value after
  refine ⟨behind.after '\n', by simp [Place.after, isBreak], ?_⟩
  rw [String.ofList_toList] at word value
  rw [written, word, colon, value, run?_lineBreak]
  rfl

theorem run?_lines {entries : List (String × String)} (lined : ∀ entry ∈ entries, HasLine entry)
    (tokens : List Token) {place : Place} (first : place.column = 0) {steps : Nat}
    (enough : 3 * entries.length < steps) :
    run? steps (atLine [0] tokens place (entries.flatMap line)) =
      some (tokens.reverse ++ entries.flatMap entryTokens ++ [.blockEnd]) := by
  induction entries generalizing tokens place steps with
  | nil =>
      obtain ⟨steps, rfl⟩ := Nat.exists_eq_add_one.2 enough
      have approached : (atLine [0] tokens place []).approach? = _ :=
        AtMargin.inside.approach?_eq rfl rfl rfl rfl
      rw [List.flatMap_nil, run?, approached]
      simp [atLine, closeBlocks, inFlow, dropKey?]
  | cons entry entries ih =>
      obtain ⟨here, rest⟩ := List.forall_mem_cons.1 lined
      rw [List.length_cons] at enough
      obtain ⟨left, rfl⟩ := Nat.exists_eq_add_of_le' (show 3 ≤ steps by omega)
      obtain ⟨behind, start, ran⟩ := run?_line .inside left tokens first here
        (entries.flatMap line)
      rw [List.flatMap_cons, ran, ih rest _ start (by omega)]
      simp

end Scan

/-! ## Whole texts -/

/-- A text of characters that are allowed once breaks are line feeds has no other breaks to
replace. -/
theorem lineFeeds_eq {text : List Char} (allowed : ∀ character ∈ text, isAllowed character) :
    lineFeeds text = text := by
  fun_induction lineFeeds text with
  | case1 => rfl
  | case2 rest ih =>
      have first := allowed '\r' List.mem_cons_self
      cases first
  | case3 character rest _ ih =>
      obtain ⟨first, others⟩ := List.forall_mem_cons.1 allowed
      have notReturn : character ≠ '\r' := by
        rintro rfl
        cases first
      have notNextLine : character ≠ '\u0085' := by
        rintro rfl
        cases first
      simp [notReturn, notNextLine, ih others]

theorem isAllowed_escaped {text : List Char} (allowed : ∀ character ∈ text, isAllowed character) :
    ∀ character ∈ escaped text, isAllowed character := by
  intro character member
  obtain ⟨given, held, written⟩ := List.mem_flatMap.1 member
  split at written
  · rename_i quote
    have same : character = given := by simpa [quote] using written
    exact same ▸ allowed given held
  · exact List.mem_singleton.1 written ▸ allowed given held

theorem isAllowed_line {entry : String × String} (lined : HasLine entry) :
    ∀ character ∈ line entry, isAllowed character := by
  have key : ∀ character ∈ entry.1.toList, isAllowed character := by
    intro character member
    have word := lined.key.word character member
    simp only [isWordCharacter, Bool.and_eq_true] at word
    exact word.1.1.1.1
  have value := isAllowed_escaped fun character member => (lined.value character member).1
  simp only [line, List.forall_mem_append, List.forall_mem_cons]
  exact ⟨key, by decide, by decide, by decide, value, by decide, by decide, nofun⟩

theorem length_le_lines (entries : List (String × String)) :
    3 * entries.length ≤ (entries.flatMap line).length := by
  induction entries with
  | nil => exact Nat.le_refl _
  | cons entry entries ih =>
      simp only [List.flatMap_cons, List.length_append, List.length_cons, line]
      omega

theorem Token.ofText?_lines {entries : List (String × String)} (nonempty : entries ≠ [])
    (lined : ∀ entry ∈ entries, HasLine entry) :
    Token.ofText? (entries.flatMap line) =
      some (.blockMappingStart :: entries.flatMap Scan.entryTokens ++ [.blockEnd]) := by
  have allowed : (entries.flatMap line).all isAllowed := by
    refine List.all_eq_true.2 ?_
    intro character member
    obtain ⟨entry, held, written⟩ := List.mem_flatMap.1 member
    exact isAllowed_line (lined entry held) character written
  have enough := length_le_lines entries
  rw [Token.ofText?, if_pos allowed]
  obtain ⟨entry, entries, rfl⟩ := List.exists_cons_of_ne_nil nonempty
  obtain ⟨here, rest⟩ := List.forall_mem_cons.1 lined
  rw [List.length_cons] at enough
  obtain ⟨left, steps_eq⟩ := Nat.exists_eq_add_of_le'
    (show 3 ≤ (List.flatMap line (entry :: entries)).length + 1 by omega)
  obtain ⟨behind, start, ran⟩ :=
    Scan.run?_line .before left [] (show ({} : Place).column = 0 from rfl) here
      (entries.flatMap line)
  rw [steps_eq]
  have started := ran.trans (Scan.run?_lines rest _ start (by omega))
  exact started.trans (by simp)

/-! ## Nodes -/

namespace Node

theorem readBlockEntries?_cons (entry : String × String) (steps : Nat) (rest : List Token) :
    readBlockEntries? (steps + 5) (Scan.entryTokens entry ++ rest) =
      (readBlockEntries? (steps + 4) rest).bind fun read =>
        some ((.scalar entry.1, .scalar entry.2) :: read.1, read.2) := rfl

theorem readBlockEntries?_entryTokens (entries : List (String × String)) {steps : Nat}
    (enough : entries.length + 4 ≤ steps) (rest : List Token) :
    readBlockEntries? steps (entries.flatMap Scan.entryTokens ++ .blockEnd :: rest) =
      some (entries.map fun (key, value) => (.scalar key, .scalar value), rest) := by
  obtain ⟨steps, rfl⟩ := Nat.exists_eq_add_of_le' (show 4 ≤ steps by omega)
  induction entries generalizing steps with
  | nil => rfl
  | cons entry entries ih =>
      rw [List.length_cons] at enough
      obtain ⟨steps, rfl⟩ := Nat.exists_eq_add_one.2 (show 0 < steps by omega)
      rw [List.flatMap_cons, List.append_assoc, readBlockEntries?_cons, ih steps (by omega)]
      rfl

theorem length_entryTokens (entries : List (String × String)) :
    (entries.flatMap Scan.entryTokens).length = 4 * entries.length := by
  induction entries with
  | nil => rfl
  | cons entry entries ih =>
      rw [List.flatMap_cons, List.length_append, ih, List.length_cons, Nat.mul_succ, Nat.add_comm]
      rfl

theorem ofTokens?_entries (entries : List (String × String)) :
    ofTokens? (.blockMappingStart :: entries.flatMap Scan.entryTokens ++ [.blockEnd]) =
      some (.mapping (entries.map fun (key, value) => (.scalar key, .scalar value))) := by
  rw [List.cons_append]
  have enough : entries.length + 4 ≤
      4 * (Token.blockMappingStart :: (entries.flatMap Scan.entryTokens ++ [.blockEnd])).length +
        3 := by
    simp only [List.length_cons, List.length_append, length_entryTokens]
    omega
  simp only [ofTokens?, read?, readBlockEntries?_entryTokens entries enough [], Option.map_some]
  rfl

/-- Lines are read as the mapping that they list. -/
theorem ofText?_lines {entries : List (String × String)} (nonempty : entries ≠ [])
    (lined : ∀ entry ∈ entries, HasLine entry) :
    ofText? (String.ofList (entries.flatMap line)) =
      some (.mapping (entries.map fun (key, value) => (.scalar key, .scalar value))) := by
  have allowed : ∀ character ∈ entries.flatMap line, isAllowed character := by
    intro character member
    obtain ⟨entry, held, written⟩ := List.mem_flatMap.1 member
    exact isAllowed_line (lined entry held) character written
  rw [ofText?, String.toList_ofList, lineFeeds_eq allowed, Token.ofText?_lines nonempty lined,
    Option.bind_some, ofTokens?_entries]

end Node

end RecordQuery.Yaml
