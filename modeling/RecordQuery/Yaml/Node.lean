import RecordQuery.Yaml.Token

/-!
# YAML nodes

What a document stands for: scalars, sequences and mappings. Scalars are texts
whatever they look like, and mappings keep every entry, also under repeated keys.
-/

namespace RecordQuery.Yaml

/-- A node. The empty node stands where nothing is written. -/
inductive Node where
  | empty
  | scalar (text : String)
  | sequence (items : List Node)
  | mapping (entries : List (Node × Node))

namespace Node

/-- The text of a scalar. The empty node has the empty text. -/
def text? : Node → Option String
  | .empty => some ""
  | .scalar text => some text
  | _ => none

/-- Whether the next token ends a part of a block collection. -/
def endsBlockPart (tokens : List Token) : Bool :=
  tokens.head?.any fun token => token = .key || token = .value || token = .blockEnd

/-- Whether the next token is one of the given ones. -/
def isNext (expected : List Token) (tokens : List Token) : Bool :=
  tokens.head?.any expected.contains

/-- What stands behind the comma at the start of a list of tokens. -/
def afterComma? : List Token → Option (List Token)
  | .flowEntry :: rest => some rest
  | _ => none

mutual

/-- The node at the start of a list of tokens, in at most `steps` steps. The
entries of a sequence inside a mapping need not be further in than its keys,
which `indentless` says. -/
def read? (indentless : Bool) : (steps : Nat) → List Token → Option (Node × List Token)
  | 0, _ => none
  | steps + 1, tokens =>
      match tokens with
      | .scalar text :: rest => some (.scalar text, rest)
      | .flowSequenceStart :: rest =>
          (readFlowItems? true steps rest).map fun (items, after) => (.sequence items, after)
      | .flowMappingStart :: rest =>
          (readFlowEntries? true steps rest).map fun (entries, after) => (.mapping entries, after)
      | .blockSequenceStart :: rest =>
          (readBlockItems? steps rest).map fun (items, after) => (.sequence items, after)
      | .blockMappingStart :: rest =>
          (readBlockEntries? steps rest).map fun (entries, after) => (.mapping entries, after)
      | .blockEntry :: rest =>
          if indentless then
            (readIndentless? steps (.blockEntry :: rest)).map fun (items, after) =>
              (.sequence items, after)
          else none
      | _ => none

/-- A node, or the empty one where nothing is written. -/
def readUnless? (absent indentless : Bool) : (steps : Nat) → List Token →
    Option (Node × List Token)
  | 0, _ => none
  | steps + 1, tokens => if absent then some (.empty, tokens) else read? indentless steps tokens

/-- The items of a block sequence. -/
def readBlockItems? : (steps : Nat) → List Token → Option (List Node × List Token)
  | 0, _ => none
  | steps + 1, tokens =>
      match tokens with
      | .blockEntry :: rest => do
          let absent := isNext [.blockEntry, .blockEnd] rest
          let (item, after) ← readUnless? absent false steps rest
          let (items, final) ← readBlockItems? steps after
          return (item :: items, final)
      | .blockEnd :: rest => some ([], rest)
      | _ => none

/-- The items of a block sequence that has no indentation of its own. It ends
where no further entry starts. -/
def readIndentless? : (steps : Nat) → List Token → Option (List Node × List Token)
  | 0, _ => none
  | steps + 1, tokens =>
      match tokens with
      | .blockEntry :: rest => do
          let absent := isNext [.blockEntry, .key, .value, .blockEnd] rest
          let (item, after) ← readUnless? absent false steps rest
          let (items, final) ← readIndentless? steps after
          return (item :: items, final)
      | rest => some ([], rest)

/-- The value of an entry of a block mapping. -/
def readBlockValue? : (steps : Nat) → List Token → Option (Node × List Token)
  | 0, _ => none
  | steps + 1, tokens =>
      match tokens with
      | .value :: rest => readUnless? (endsBlockPart rest) true steps rest
      | rest => some (.empty, rest)

/-- The entries of a block mapping. -/
def readBlockEntries? : (steps : Nat) → List Token → Option (List (Node × Node) × List Token)
  | 0, _ => none
  | steps + 1, tokens =>
      match tokens with
      | .key :: rest => do
          let (key, afterKey) ← readUnless? (endsBlockPart rest) true steps rest
          let (value, after) ← readBlockValue? steps afterKey
          let (entries, final) ← readBlockEntries? steps after
          return ((key, value) :: entries, final)
      | .blockEnd :: rest => some ([], rest)
      | _ => none

/-- The value of an entry of a flow collection that ends with a given token. -/
def readFlowValue? (ending : Token) : (steps : Nat) → List Token → Option (Node × List Token)
  | 0, _ => none
  | steps + 1, tokens =>
      match tokens with
      | .value :: rest => readUnless? (isNext [.flowEntry, ending] rest) false steps rest
      | rest => some (.empty, rest)

/-- A mapping of one entry that is written as an item of a flow sequence. Where
its key is left out, so is the token in its place. -/
def readFlowPair? : (steps : Nat) → List Token → Option (Node × List Token)
  | 0, _ => none
  | steps + 1, tokens => do
      let (key, afterKey) ←
        if isNext [.value, .flowEntry, .flowSequenceEnd] tokens then
          some (.empty, tokens.drop 1)
        else read? false steps tokens
      let (value, after) ← readFlowValue? .flowSequenceEnd steps afterKey
      return (.mapping [(key, value)], after)

/-- The items of a flow sequence. All but the first one follow a comma, and a
comma may stand behind the last one. -/
def readFlowItems? (isFirst : Bool) : (steps : Nat) → List Token →
    Option (List Node × List Token)
  | 0, _ => none
  | steps + 1, tokens =>
      match tokens with
      | .flowSequenceEnd :: rest => some ([], rest)
      | _ =>
          match if isFirst then some tokens else afterComma? tokens with
          | some (.flowSequenceEnd :: rest) => some ([], rest)
          | some item => do
              let (node, after) ←
                match item with
                | .key :: rest => readFlowPair? steps rest
                | _ => read? false steps item
              let (items, final) ← readFlowItems? false steps after
              return (node :: items, final)
          | none => none

/-- The entries of a flow mapping. What is not a key stands for a key without a
value. -/
def readFlowEntries? (isFirst : Bool) : (steps : Nat) → List Token →
    Option (List (Node × Node) × List Token)
  | 0, _ => none
  | steps + 1, tokens =>
      match tokens with
      | .flowMappingEnd :: rest => some ([], rest)
      | _ =>
          match if isFirst then some tokens else afterComma? tokens with
          | some (.flowMappingEnd :: rest) => some ([], rest)
          | some (.key :: rest) => do
              let absent := isNext [.value, .flowEntry, .flowMappingEnd] rest
              let (key, afterKey) ← readUnless? absent false steps rest
              let (value, after) ← readFlowValue? .flowMappingEnd steps afterKey
              let (entries, final) ← readFlowEntries? false steps after
              return ((key, value) :: entries, final)
          | some entry => do
              let (key, after) ← read? false steps entry
              let (entries, final) ← readFlowEntries? false steps after
              return ((key, .empty) :: entries, final)
          | none => none

end

/-- The node of a whole list of tokens: one document, its markers optional. Where
there is no document, or an empty one, nothing is written. -/
def ofTokens? (tokens : List Token) : Option Node :=
  let steps := 4 * tokens.length + 4
  let content : Option (Node × List Token) :=
    match tokens with
    | [] => some (.empty, [])
    | .documentStart :: rest =>
        readUnless? (rest.isEmpty || isNext [.documentStart, .documentEnd] rest) false steps rest
    | rest => read? false steps rest
  match content with
  | some (node, rest) =>
      if (rest.dropWhile (· = Token.documentEnd)).isEmpty then some node else none
  | none => none

/-- The node that a text stands for. -/
def ofText? (text : String) : Option Node :=
  (Token.ofText? (lineFeeds text.toList)).bind ofTokens?

end Node

end RecordQuery.Yaml
