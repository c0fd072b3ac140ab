import RecordQuery.Proofs.Negation

/-!
# Patterns without case

A pattern and the text searched for it are lowered apart from each other. That finds
every pattern the plain search finds, but for one letter: a capital sigma is lowered by
what stands around it, which inside a text is not what stands around it in the pattern.
The patterns this can go wrong for are those with a capital sigma at an edge.
-/

namespace RecordQuery

namespace Text

variable {before after text pattern left right : List Char}

/-! ## What a letter with case is followed by -/

theorem startsCased_append (text after : List Char) :
    startsCased (text ++ after) =
      if text.all isIgnorable then startsCased after else startsCased text := by
  induction text with
  | nil => rfl
  | cons character rest ih =>
      rw [List.cons_append, List.all_cons]
      unfold startsCased at ih ⊢
      by_cases skipped : isIgnorable character
      · rw [List.dropWhile_cons_of_pos skipped, List.dropWhile_cons_of_pos skipped, ih, skipped,
          Bool.true_and]
      · rw [List.dropWhile_cons_of_neg skipped, List.dropWhile_cons_of_neg skipped]
        simp [skipped]

theorem startsCased_of_all_isIgnorable (ignorable : text.all isIgnorable) :
    startsCased text = false := by
  have nothing := startsCased_append text []
  rwa [if_pos ignorable, List.append_nil] at nothing

theorem not_isIgnorable_sigma : ¬isIgnorable 'Σ' := by decide +kernel

theorem isCased_sigma : isCased 'Σ' := by decide +kernel

theorem startsCased_sigma (rest : List Char) : startsCased ('Σ' :: rest) = true := by
  rw [startsCased, List.dropWhile_cons_of_neg not_isIgnorable_sigma]
  exact isCased_sigma

/-- A capital sigma is a letter with case, so what stands behind it does not matter. -/
theorem startsCased_append_sigma (text rest : List Char) :
    startsCased (text ++ 'Σ' :: rest) = (text.all isIgnorable || startsCased text) := by
  rw [startsCased_append, startsCased_sigma]
  split <;> simp [*]

/-! ## Lowering between two texts -/

/-- Whether a capital sigma between two texts, the first one backwards, ends a word. -/
def endsWord (before after : List Char) : Bool := startsCased before && !startsCased after

/-- The lower-case form of a capital sigma between two texts. -/
def lowerSigma (before after : List Char) : List Char :=
  if endsWord before after then ['ς'] else ['σ']

/-- The lower-case form of a text between two others, the first one backwards. -/
def lowerBetween (before after : List Char) : List Char → List Char
  | [] => []
  | character :: rest =>
      (if character = 'Σ' then lowerSigma before (rest ++ after) else lowerCharacter character) ++
        lowerBetween (character :: before) after rest

theorem lowerAfter_append (before text after : List Char) :
    lowerAfter before (text ++ after) =
      lowerBetween before after text ++ lowerAfter (text.reverse ++ before) after := by
  induction text generalizing before with
  | nil => rfl
  | cons character rest ih =>
      simp only [List.cons_append, lowerAfter, ih, lowerBetween, List.reverse_cons,
        List.append_assoc, List.nil_append]
      rfl

theorem lowerAfter_eq (before text : List Char) :
    lowerAfter before text = lowerBetween before [] text := by
  have appended := lowerAfter_append before text []
  rwa [List.append_nil, lowerAfter, List.append_nil] at appended

theorem toLower_eq (text : List Char) : toLower text = lowerBetween [] [] text :=
  lowerAfter_eq [] text

theorem lowerBetween_append (before text rest after : List Char) :
    lowerBetween before after (text ++ rest) =
      lowerBetween before (rest ++ after) text ++
        lowerBetween (text.reverse ++ before) after rest := by
  induction text generalizing before with
  | nil => rfl
  | cons character text ih =>
      simp only [List.cons_append, lowerBetween, ih, List.reverse_cons, List.append_assoc,
        List.nil_append]

/-- A text is lowered by what its capital sigmas stand between. -/
theorem lowerBetween_congr {otherBefore otherAfter : List Char}
    (same : ∀ left right, text = left ++ 'Σ' :: right →
      endsWord (left.reverse ++ before) (right ++ after) =
        endsWord (left.reverse ++ otherBefore) (right ++ otherAfter)) :
    lowerBetween before after text = lowerBetween otherBefore otherAfter text := by
  induction text generalizing before otherBefore with
  | nil => rfl
  | cons character rest ih =>
      have restSame : lowerBetween (character :: before) after rest =
          lowerBetween (character :: otherBefore) otherAfter rest := by
        apply ih
        intro left right parted
        have placed := same (character :: left) right (by rw [parted, List.cons_append])
        simpa only [List.reverse_cons, List.append_assoc, List.singleton_append] using placed
      rw [lowerBetween, lowerBetween, restSame]
      split
      case isTrue sigma =>
        have placed := same [] rest (by rw [sigma, List.nil_append])
        rw [lowerSigma, lowerSigma, show endsWord before (rest ++ after) = _ from placed]
        rfl
      case isFalse => rfl

/-! ## Capital sigmas that are lowered otherwise inside a text -/

/-- Some capital sigma of a text ends a word on its own but not between the two others,
or the other way round. -/
def Turns (before text after : List Char) : Prop :=
  ∃ left right, text = left ++ 'Σ' :: right ∧
    endsWord (left.reverse ++ before) (right ++ after) ≠ endsWord left.reverse right

theorem lowerBetween_of_not_turns (steady : ¬Turns before text after) :
    lowerBetween before after text = toLower text := by
  rw [toLower_eq]
  apply lowerBetween_congr
  intro left right parted
  rw [List.append_nil, List.append_nil]
  exact Classical.byContradiction fun differs => steady ⟨left, right, parted, differs⟩

/-- Where no capital sigma turns, lowering finds the pattern again. -/
theorem toLower_infix (steady : ¬Turns before.reverse pattern after) :
    toLower pattern <:+: toLower (before ++ pattern ++ after) := by
  refine ⟨lowerBetween [] (pattern ++ after) before,
    lowerAfter (pattern.reverse ++ before.reverse) after, ?_⟩
  rw [← lowerBetween_of_not_turns steady, List.append_assoc, List.append_assoc]
  simp only [toLower, lowerAfter_append, List.append_nil]

/-- What follows a capital sigma that is the first character that counts. -/
def afterSigma? (text : List Char) : Option (List Char) :=
  match text.dropWhile isIgnorable with
  | [] => none
  | character :: rest => if character = 'Σ' then some rest else none

theorem afterSigma?_eq_some_iff :
    afterSigma? text = some right ↔ ∃ left, text = left ++ 'Σ' :: right ∧ left.all isIgnorable := by
  constructor
  · intro found
    refine ⟨text.takeWhile isIgnorable, ?_, List.all_takeWhile⟩
    have counted : text.dropWhile isIgnorable = 'Σ' :: right := by
      unfold afterSigma? at found
      split at found
      · cases found
      · split at found
        · cases found
          simp [*]
        · cases found
    rw [← counted, List.takeWhile_append_dropWhile]
  · rintro ⟨left, rfl, ignorable⟩
    rw [afterSigma?, List.dropWhile_append_of_pos (List.all_eq_true.mp ignorable),
      List.dropWhile_cons_of_neg not_isIgnorable_sigma]
    rfl

/-- Whether a text has a capital sigma at an edge: one with nothing that counts before it
and no letter with case after it, or the other way round. -/
def sigmaAtEdge (text : List Char) : Bool :=
  (afterSigma? text).any (!startsCased ·) || (afterSigma? text.reverse).any startsCased

/-- The two edges. -/
theorem sigmaAtEdge_iff :
    sigmaAtEdge text ↔ ∃ left right, text = left ++ 'Σ' :: right ∧
      (left.all isIgnorable ∧ startsCased right = false ∨
        right.all isIgnorable ∧ startsCased left.reverse) := by
  simp only [sigmaAtEdge, Bool.or_eq_true, Option.any_eq_true, afterSigma?_eq_some_iff,
    Bool.not_eq_true']
  constructor
  · rintro (⟨right, ⟨left, parted, ignorable⟩, uncased⟩ | ⟨left, ⟨right, parted, ignorable⟩, cased⟩)
    · exact ⟨left, right, parted, .inl ⟨ignorable, uncased⟩⟩
    · refine ⟨left.reverse, right.reverse, ?_, .inr ⟨?_, ?_⟩⟩
      · rw [← List.reverse_reverse text, parted]
        simp
      · rwa [List.all_reverse]
      · rwa [List.reverse_reverse]
  · rintro ⟨left, right, rfl, ⟨ignorable, uncased⟩ | ⟨ignorable, cased⟩⟩
    · exact .inl ⟨right, ⟨left, rfl, ignorable⟩, uncased⟩
    · refine .inr ⟨left.reverse, ⟨right.reverse, ?_, ?_⟩, cased⟩
      · simp
      · rwa [List.all_reverse]

/-- Only a capital sigma at an edge can turn: a character that counts on both sides
decides. -/
theorem sigmaAtEdge_of_turns (turns : Turns before text after) : sigmaAtEdge text := by
  obtain ⟨left, right, parted, differs⟩ := turns
  refine sigmaAtEdge_iff.mpr ⟨left, right, parted, ?_⟩
  rw [endsWord, endsWord, startsCased_append, startsCased_append, List.all_reverse] at differs
  cases leftIgnorable : left.all isIgnorable with
  | true =>
      have uncased := startsCased_of_all_isIgnorable (List.all_reverse.trans leftIgnorable)
      refine .inl ⟨rfl, ?_⟩
      cases rightIgnorable : right.all isIgnorable with
      | true => exact startsCased_of_all_isIgnorable rightIgnorable
      | false =>
          rw [uncased, rightIgnorable, if_neg Bool.false_ne_true, Bool.false_and] at differs
          cases cased : startsCased right with
          | false => rfl
          | true => simp [cased] at differs
  | false =>
      rw [leftIgnorable, if_neg Bool.false_ne_true] at differs
      cases rightIgnorable : right.all isIgnorable with
      | true =>
          refine .inr ⟨rfl, ?_⟩
          cases cased : startsCased left.reverse with
          | true => rfl
          | false => simp [cased] at differs
      | false => simp [rightIgnorable] at differs

/-! ## Texts around a capital sigma at an edge -/

/-- Behind a capital sigma nothing matters to what stands before it. -/
theorem lowerBetween_until_sigma (before text after otherAfter : List Char) :
    lowerBetween before ('Σ' :: after) text = lowerBetween before ('Σ' :: otherAfter) text := by
  apply lowerBetween_congr
  intro left right _
  rw [endsWord, endsWord, startsCased_append_sigma, startsCased_append_sigma]

/-- Before a capital sigma nothing matters to what stands behind it. -/
theorem lowerBetween_from_sigma (before otherBefore text after : List Char) :
    lowerBetween ('Σ' :: before) after text = lowerBetween ('Σ' :: otherBefore) after text := by
  apply lowerBetween_congr
  intro left right _
  rw [endsWord, endsWord, startsCased_append_sigma, startsCased_append_sigma]

theorem lowerBetween_append_sigma (before left right after : List Char) :
    lowerBetween before after (left ++ 'Σ' :: right) =
      lowerBetween before ['Σ'] left ++
        (lowerSigma (left.reverse ++ before) (right ++ after) ++
          lowerBetween ['Σ'] after right) := by
  rw [lowerBetween_append, lowerBetween, if_pos rfl, List.cons_append,
    lowerBetween_until_sigma before left (right ++ after) [],
    lowerBetween_from_sigma (left.reverse ++ before) [] right after]

/-- No character that does not count is a capital sigma. -/
theorem lowerBetween_of_all_isIgnorable (ignorable : text.all isIgnorable)
    (otherBefore otherAfter : List Char) :
    lowerBetween before after text = lowerBetween otherBefore otherAfter text := by
  apply lowerBetween_congr
  rintro left right rfl
  exact absurd (List.all_eq_true.mp ignorable 'Σ' (by simp)) not_isIgnorable_sigma

/-- Exchanging a character for one of another kind loses an occurrence. -/
theorem not_infix_exchanged {front back : List Char} {character other : Char}
    (frontApart : character ∉ front) (backApart : character ∉ back) (apart : other ≠ character) :
    ¬left ++ ([character] ++ right) <:+: front ++ (left ++ ([other] ++ right)) ++ back := by
  intro occurs
  have otherApart : character ∉ [other] := fun member => apart (List.mem_singleton.mp member).symm
  -- The two sides differ in length, but an occurrence keeps every count.
  have counted := occurs.sublist.count_le character
  simp only [List.count_append, List.count_eq_zero_of_not_mem frontApart,
    List.count_eq_zero_of_not_mem backApart, List.count_singleton_self,
    List.count_eq_zero_of_not_mem otherApart] at counted
  omega

theorem startsCased_alpha : startsCased ['α'] := by decide +kernel

theorem lowerCharacter_alpha : lowerCharacter 'α' = ['α'] := by decide +kernel

/-- Behind a letter with case the first edge ends a word. -/
theorem not_infix_behind_alpha (ignorable : left.all isIgnorable)
    (uncased : startsCased right = false) :
    ¬toLower (left ++ 'Σ' :: right) <:+: toLower ('α' :: (left ++ 'Σ' :: right)) := by
  have backIgnorable : left.reverse.all isIgnorable := List.all_reverse.trans ignorable
  have alone : lowerSigma left.reverse right = ['σ'] := by
    rw [lowerSigma, endsWord, startsCased_of_all_isIgnorable backIgnorable]
    rfl
  have behind : lowerSigma (left.reverse ++ ['α']) right = ['ς'] := by
    rw [lowerSigma, endsWord, startsCased_append, if_pos backIgnorable, startsCased_alpha, uncased]
    rfl
  have apart : 'σ' ∉ ['α'] := by decide
  rw [toLower_eq, toLower_eq, lowerBetween, if_neg (by decide), lowerCharacter_alpha,
    lowerBetween_append_sigma, lowerBetween_append_sigma, List.append_nil, List.append_nil, alone,
    behind, lowerBetween_of_all_isIgnorable ignorable ['α'] ['Σ']]
  simpa using not_infix_exchanged apart List.not_mem_nil (show 'ς' ≠ 'σ' by decide)

/-- Before a letter with case the last edge does not end a word. -/
theorem not_infix_before_alpha (ignorable : right.all isIgnorable)
    (cased : startsCased left.reverse) :
    ¬toLower (left ++ 'Σ' :: right) <:+: toLower ((left ++ 'Σ' :: right) ++ ['α']) := by
  have alone : lowerSigma left.reverse right = ['ς'] := by
    rw [lowerSigma, endsWord, cased, startsCased_of_all_isIgnorable ignorable]
    rfl
  have before : lowerSigma left.reverse (right ++ ['α']) = ['σ'] := by
    rw [lowerSigma, endsWord, startsCased_append, if_pos ignorable, startsCased_alpha, cased]
    rfl
  have apart : 'ς' ∉ ['α'] := by decide
  rw [toLower_eq, toLower_eq, lowerBetween_append [] _ ['α'], lowerBetween, if_neg (by decide),
    lowerCharacter_alpha, lowerBetween, List.append_nil, lowerBetween_append_sigma,
    lowerBetween_append_sigma, List.append_nil, List.append_nil, alone, before,
    lowerBetween_of_all_isIgnorable ignorable ['Σ'] ['α']]
  simpa using not_infix_exchanged List.not_mem_nil apart (show 'σ' ≠ 'ς' by decide)

/-- A pattern with a capital sigma at an edge is lost in some text. -/
theorem exists_text_of_sigmaAtEdge (edge : sigmaAtEdge pattern) :
    ∃ text, pattern <:+: text ∧ ¬toLower pattern <:+: toLower text := by
  obtain ⟨left, right, rfl, ⟨ignorable, uncased⟩ | ⟨ignorable, cased⟩⟩ := sigmaAtEdge_iff.mp edge
  · exact ⟨_, (List.suffix_cons 'α' _).isInfix, not_infix_behind_alpha ignorable uncased⟩
  · exact ⟨_, (List.prefix_append _ ['α']).isInfix, not_infix_before_alpha ignorable cased⟩

end Text

/-! ## A row for every path -/

/-- Objects in objects with a value at the end of the given segments. -/
def Value.nested (inner : Value) : List String → Value
  | [] => inner
  | segment :: rest => .object [(segment, nested inner rest)]

theorem Value.reach_nested (inner : Value) (segments : List String) :
    (nested inner segments).reach segments = .single (some inner) := by
  induction segments with
  | nil => rfl
  | cons segment rest ih =>
      have found (field : Value) : Keyed.get? [(segment, field)] segment = some field := by
        simp [Keyed.get?]
      rw [reach, nested, descend, found]
      exact ih

/-- Any value can be what a path with segments reaches. -/
theorem Path.exists_resolve_eq {path : Path} (nonempty : path.segments ≠ []) (value : Value) :
    ∃ row, (path.resolve row).leaves = [some value] := by
  obtain ⟨_ | ⟨first, rest⟩⟩ := path
  · exact absurd rfl nonempty
  · refine ⟨[(first, value.nested rest)], ?_⟩
    rw [Path.resolve_eq_reach nonempty]
    exact congrArg Reached.leaves (value.reach_nested (first :: rest))

namespace Condition

variable {path : Path} {operator other : Operator} {value : Value} {quantifier : Option Quantifier}
  {row : Record} {pattern : String}

/-- Whatever the quantifier, what holds of more places holds of more rows. -/
theorem holds_of_matchesLeaf
    (weaker : ∀ leaf ∈ (path.resolve row).leaves,
      (of path operator value).matchesLeaf leaf → (of path other value).matchesLeaf leaf)
    (held : holds ⟨path, operator, value, quantifier⟩ row) :
    holds ⟨path, other, value, quantifier⟩ row := by
  have somewhere : holds ⟨path, operator, value, some .any⟩ row →
      holds ⟨path, other, value, some .any⟩ row := by
    rw [holds_any_iff, holds_any_iff]
    rintro ⟨leaf, member, matched⟩
    exact ⟨leaf, member, weaker leaf member matched⟩
  rcases quantifier with _ | _ | _
  · exact somewhere held
  · exact somewhere held
  · rw [holds_all_iff] at held ⊢
    exact fun leaf member => weaker leaf member (held leaf member)

theorem holdsPattern_text_iff {fold : List Char → List Char} {field : Value} :
    holdsPattern fold field (.text pattern) ↔
      ∃ text, field = .text text ∧ fold pattern.toList <:+: fold text.toList := by
  cases field <;> simp [holdsPattern, Value.asText?, Text.occursIn_iff]

theorem matchesLeaf_like_iff {leaf : Leaf} :
    (of path .like (.text pattern)).matchesLeaf leaf ↔
      ∃ text, leaf = some (.text text) ∧ pattern.toList <:+: text.toList := by
  cases leaf with
  | none => simp [matchesLeaf, of]
  | some field =>
      simp only [Option.some.injEq]
      exact holdsPattern_text_iff

theorem matchesLeaf_ilike_iff {leaf : Leaf} :
    (of path .ilike (.text pattern)).matchesLeaf leaf ↔
      ∃ text, leaf = some (.text text) ∧
        Text.toLower pattern.toList <:+: Text.toLower text.toList := by
  cases leaf with
  | none => simp [matchesLeaf, of]
  | some field =>
      simp only [Option.some.injEq]
      exact holdsPattern_text_iff

/-- A row found by case is found without it, where the texts with the pattern have it in
a place in which no capital sigma turns. -/
theorem holds_ilike_of_holds_like
    (steady : ∀ text, some (.text text) ∈ (path.resolve row).leaves →
      pattern.toList <:+: text.toList →
        ∃ before after, text.toList = before ++ pattern.toList ++ after ∧
          ¬Text.Turns before.reverse pattern.toList after)
    (held : holds ⟨path, .like, .text pattern, quantifier⟩ row) :
    holds ⟨path, .ilike, .text pattern, quantifier⟩ row := by
  apply holds_of_matchesLeaf _ held
  intro leaf member matched
  obtain ⟨text, rfl, occurs⟩ := matchesLeaf_like_iff.mp matched
  obtain ⟨before, after, parted, stays⟩ := steady text member occurs
  have lowered := Text.toLower_infix stays
  rw [← parted] at lowered
  exact matchesLeaf_ilike_iff.mpr ⟨text, rfl, lowered⟩

/-- The patterns that are found without case in every row where they are found with it
are those without a capital sigma at an edge. Along the empty path nothing is found. -/
theorem ilike_of_like_iff (path : Path) (quantifier : Option Quantifier) (pattern : String) :
    (∀ row, holds ⟨path, .like, .text pattern, quantifier⟩ row →
      holds ⟨path, .ilike, .text pattern, quantifier⟩ row) ↔
        path.segments = [] ∨ ¬Text.sigmaAtEdge pattern.toList := by
  constructor
  · intro weaker
    by_cases empty : path.segments = []
    · exact .inl empty
    · refine .inr fun edge => ?_
      obtain ⟨text, occurs, lost⟩ := Text.exists_text_of_sigmaAtEdge edge
      obtain ⟨row, reached⟩ := Path.exists_resolve_eq empty (.text (String.ofList text))
      have found := weaker row
      rw [holds_of_single reached, holds_of_single reached, matchesLeaf_like_iff,
        matchesLeaf_ilike_iff] at found
      obtain ⟨_, ⟨⟩, lowered⟩ := found ⟨_, rfl, by rwa [String.toList_ofList]⟩
      rw [String.toList_ofList] at lowered
      exact lost lowered
  · rintro (empty | interior) row held
    · have missing : (path.resolve row).leaves = [none] := by
        rw [Path.resolve, empty]
        rfl
      rw [holds_of_single missing] at held
      cases held
    · refine holds_ilike_of_holds_like (fun text _ occurs => ?_) held
      obtain ⟨before, after, parted⟩ := occurs
      exact ⟨before, after, parted.symm, fun turns => interior (Text.sigmaAtEdge_of_turns turns)⟩

/-- The end of a word in the pattern is not one in the text, so the pattern is found with
case but not without. -/
theorem not_ilike_of_like :
    let row : Record := [("title", .text "ΟΔΥΣΣΕΥΣ")]
    holds ⟨⟨["title"]⟩, .like, .text "ΟΔΥΣ", none⟩ row ∧
      ¬holds ⟨⟨["title"]⟩, .ilike, .text "ΟΔΥΣ", none⟩ row := by
  decide +kernel

end Condition

end RecordQuery
