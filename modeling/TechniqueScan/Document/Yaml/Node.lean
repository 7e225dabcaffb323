import TechniqueScan.Document.Value
import TechniqueScan.Document.Yaml.Token

/-!
The tree of a YAML document, built from its tokens. Aliases are replaced by what they stand for,
and tags decide which scalars keep their spelling for a reader to type.
-/

namespace TechniqueScan.Document.Yaml

/-- A value under construction: what it is, what comes after it, and the anchors known by then. -/
structure Built (α : Type) where
  value : α
  rest : List Token
  anchors : List (String × Option Value)

/-- The properties in front of a node. -/
structure Properties where
  anchor : Option String := none
  /-- Handle and suffix of a tag. -/
  tag : Option (String × String) := none

/-- The properties at the beginning of some tokens: an anchor and a tag, in either order. -/
def properties (tokens : List Token) : Properties × List Token :=
  match tokens with
  | .anchor a :: .tag h s :: rest => (⟨some a, some (h, s)⟩, rest)
  | .tag h s :: .anchor a :: rest => (⟨some a, some (h, s)⟩, rest)
  | .anchor a :: rest => (⟨some a, none⟩, rest)
  | .tag h s :: rest => (⟨none, some (h, s)⟩, rest)
  | _ => ({}, tokens)

/-- The leads that handles of tags stand for. -/
abbrev Handles : Type := List (String × String)

/-- The full tag of a node; the outer `none` if its handle means nothing. -/
def fullTag? (handles : Handles) : Option (String × String) → Option (Option String)
  | none => some none
  | some ("", suffix) => some (if suffix = "!" then none else some suffix)
  | some (handle, suffix) =>
    match handles.lookup handle with
    | some lead => some (some (lead ++ suffix))
    | none =>
      if handle = "!!" then some (some ("tag:yaml.org,2002:" ++ suffix))
      else if handle = "!" then some (some ("!" ++ suffix))
      else none

/-- What a tag says about a scalar. -/
def markOf : Option String → Mark
  | none => .unmarked
  | some "tag:yaml.org,2002:null" => .null
  | some "tag:yaml.org,2002:bool" => .bool
  | some "tag:yaml.org,2002:int" => .integer
  | some "tag:yaml.org,2002:float" => .real
  | some other =>
    match other.toList with
    | '!' :: name => .variant (String.ofList name)
    | _ => .foreign

/-- A scalar with its tag. A text in quotes without a tag is nothing but a text. -/
def scalarOf (tag : Option String) (style : Style) (text : String) : Value :=
  match style, markOf tag with
  | .plain, mark => .scalar (.spelt .plain mark text)
  | _, .unmarked => .text text
  | style, mark => .scalar (.spelt style mark text)

/-- The scalar that stands where nothing is written. -/
def emptyNode : Value := .plain ""

/-- Whether a list of tokens begins with one of some tokens. -/
def startsWithAny (tokens : List Token) (wanted : List Token) : Bool :=
  match tokens with
  | t :: _ => wanted.contains t
  | [] => true

mutual

/--
A node. Inside block collections it may be one itself; as the value of a key it may be a sequence
that is not indented.
-/
def node (handles : Handles) (block indentless : Bool) :
    (fuel : Nat) → List Token → List (String × Option Value) → Option (Built Value)
  | 0, _, _ => none
  | fuel + 1, tokens, anchors =>
    match tokens with
    | .alias name :: rest =>
      match anchors.lookup name with
      | some (some v) => some ⟨v, rest, anchors⟩
      | _ => none
    | _ =>
      let (props, tokens) := properties tokens
      match fullTag? handles props.tag with
      | none => none
      | some tag =>
        let opened := match props.anchor with
          | some a => (a, none) :: anchors
          | none => anchors
        let built? : Option (Built Value) :=
          match tokens with
          | .scalar style text :: rest => some ⟨scalarOf tag style text, rest, opened⟩
          | .flowSequenceStart :: rest =>
            (flowItems handles fuel true [] rest opened).map fun b =>
              ⟨.items b.value, b.rest, b.anchors⟩
          | .flowMappingStart :: rest =>
            (flowEntries handles fuel true [] rest opened).map fun b =>
              ⟨.table b.value, b.rest, b.anchors⟩
          | .blockSequenceStart :: rest =>
            if block then
              (blockItems handles fuel false [] rest opened).map fun b =>
                ⟨.items b.value, b.rest, b.anchors⟩
            else none
          | .blockMappingStart :: rest =>
            if block then
              (blockEntries handles fuel [] rest opened).map fun b =>
                ⟨.table b.value, b.rest, b.anchors⟩
            else none
          | .blockEntry :: _ =>
            if indentless then
              (blockItems handles fuel true [] tokens opened).map fun b =>
                ⟨.items b.value, b.rest, b.anchors⟩
            else if props.anchor.isSome || props.tag.isSome then
              some ⟨scalarOf tag .plain "", tokens, opened⟩
            else none
          | _ =>
            if props.anchor.isSome || props.tag.isSome then
              some ⟨scalarOf tag .plain "", tokens, opened⟩
            else none
        match props.anchor with
        | none => built?
        | some a => built?.map fun b => { b with anchors := (a, some b.value) :: b.anchors }

/-- The items of a block sequence; one that is not indented ends without a mark. -/
def blockItems (handles : Handles) :
    (fuel : Nat) → (indentless : Bool) → (done : List Value) → List Token →
    List (String × Option Value) → Option (Built (List Value))
  | 0, _, _, _, _ => none
  | fuel + 1, indentless, done, tokens, anchors =>
    match tokens with
    | .blockEntry :: rest =>
      let stops : List Token :=
        if indentless then [.blockEntry, .key, .value, .blockEnd] else [.blockEntry, .blockEnd]
      if startsWithAny rest stops then
        blockItems handles fuel indentless (emptyNode :: done) rest anchors
      else
        match node handles true false fuel rest anchors with
        | some b => blockItems handles fuel indentless (b.value :: done) b.rest b.anchors
        | none => none
    | _ =>
      if indentless then some ⟨done.reverse, tokens, anchors⟩
      else
        match tokens with
        | .blockEnd :: rest => some ⟨done.reverse, rest, anchors⟩
        | _ => none

/-- The entries of a block mapping. -/
def blockEntries (handles : Handles) :
    (fuel : Nat) → (done : List (Value × Value)) → List Token →
    List (String × Option Value) → Option (Built (List (Value × Value)))
  | 0, _, _, _ => none
  | fuel + 1, done, tokens, anchors =>
    let stops : List Token := [.key, .value, .blockEnd]
    match tokens with
    | .key :: rest =>
      let key? : Option (Built Value) :=
        if startsWithAny rest stops then some ⟨emptyNode, rest, anchors⟩
        else node handles true true fuel rest anchors
      match key? with
      | none => none
      | some k =>
        let value? : Option (Built Value) :=
          match k.rest with
          | .value :: rest =>
            if startsWithAny rest stops then some ⟨emptyNode, rest, k.anchors⟩
            else node handles true true fuel rest k.anchors
          | rest => some ⟨emptyNode, rest, k.anchors⟩
        match value? with
        | none => none
        | some v => blockEntries handles fuel ((k.value, v.value) :: done) v.rest v.anchors
    | .blockEnd :: rest => some ⟨done.reverse, rest, anchors⟩
    | _ => none

/-- The items of a flow sequence; a single pair of key and value is an item as well. -/
def flowItems (handles : Handles) :
    (fuel : Nat) → (first : Bool) → (done : List Value) → List Token →
    List (String × Option Value) → Option (Built (List Value))
  | 0, _, _, _, _ => none
  | fuel + 1, first, done, tokens, anchors =>
    match tokens with
    | .flowSequenceEnd :: rest => some ⟨done.reverse, rest, anchors⟩
    | _ =>
      let item? : Option (List Token) :=
        if first then some tokens
        else
          match tokens with
          | .flowEntry :: rest => some rest
          | _ => none
      match item? with
      | none => none
      | some (.flowSequenceEnd :: rest) => some ⟨done.reverse, rest, anchors⟩
      | some (.key :: rest) =>
        let stops : List Token := [.value, .flowEntry, .flowSequenceEnd]
        let key? : Option (Built Value) :=
          if startsWithAny rest stops then some ⟨emptyNode, rest.drop 1, anchors⟩
          else node handles false false fuel rest anchors
        match key? with
        | none => none
        | some k =>
          let value? : Option (Built Value) :=
            match k.rest with
            | .value :: rest =>
              if startsWithAny rest [.flowEntry, .flowSequenceEnd] then
                some ⟨emptyNode, rest, k.anchors⟩
              else node handles false false fuel rest k.anchors
            | rest => some ⟨emptyNode, rest, k.anchors⟩
          match value? with
          | none => none
          | some v =>
            flowItems handles fuel false (.table [(k.value, v.value)] :: done) v.rest v.anchors
      | some rest =>
        match node handles false false fuel rest anchors with
        | some b => flowItems handles fuel false (b.value :: done) b.rest b.anchors
        | none => none

/-- The entries of a flow mapping. -/
def flowEntries (handles : Handles) :
    (fuel : Nat) → (first : Bool) → (done : List (Value × Value)) → List Token →
    List (String × Option Value) → Option (Built (List (Value × Value)))
  | 0, _, _, _, _ => none
  | fuel + 1, first, done, tokens, anchors =>
    match tokens with
    | .flowMappingEnd :: rest => some ⟨done.reverse, rest, anchors⟩
    | _ =>
      let separated : Option (List Token) :=
        if first then some tokens
        else
          match tokens with
          | .flowEntry :: rest => some rest
          | _ => none
      match separated with
      | none => none
      | some (.flowMappingEnd :: rest) => some ⟨done.reverse, rest, anchors⟩
      | some (.key :: rest) =>
        let key? : Option (Built Value) :=
          if startsWithAny rest [.value, .flowEntry, .flowMappingEnd] then
            some ⟨emptyNode, rest, anchors⟩
          else node handles false false fuel rest anchors
        match key? with
        | none => none
        | some k =>
          let value? : Option (Built Value) :=
            match k.rest with
            | .value :: rest =>
              if startsWithAny rest [.flowEntry, .flowMappingEnd] then
                some ⟨emptyNode, rest, k.anchors⟩
              else node handles false false fuel rest k.anchors
            | rest => some ⟨emptyNode, rest, k.anchors⟩
          match value? with
          | none => none
          | some v => flowEntries handles fuel false ((k.value, v.value) :: done) v.rest v.anchors
      | some rest =>
        match node handles false false fuel rest anchors with
        | some b => flowEntries handles fuel false ((b.value, emptyNode) :: done) b.rest b.anchors
        | none => none

end

/-- What a text holds. -/
inductive Text where
  /-- Nothing but blanks and comments. -/
  | empty
  | document (v : Value)

/-- The handles that directives declare, and the tokens behind the directives. -/
def directives : List Token → Handles × List Token
  | .versionDirective :: rest => directives rest
  | .tagDirective handle lead :: rest =>
    let (handles, rest) := directives rest
    ((handle, lead) :: handles, rest)
  | rest => ([], rest)

/-- The document that begins with some tokens. Nothing but marks of its end may come after it. -/
def documentOf? (tokens : List Token) : Option Text :=
  let (handles, rest) := directives tokens
  let hasDirectives := rest.length < tokens.length
  let content? : Option (List Token) :=
    match rest with
    | .documentStart :: rest => some rest
    | rest => if hasDirectives then none else some rest
  match content? with
  | none => none
  | some content =>
    let built? : Option (Built Value) :=
      match content with
      | [] => some ⟨emptyNode, [], []⟩
      | .documentStart :: _ => some ⟨emptyNode, content, []⟩
      | .documentEnd :: _ => some ⟨emptyNode, content, []⟩
      | .versionDirective :: _ => some ⟨emptyNode, content, []⟩
      | .tagDirective .. :: _ => some ⟨emptyNode, content, []⟩
      | _ => node handles true false (3 * content.length + 3) content []
    built?.bind fun b =>
      if (b.rest.dropWhile (· == .documentEnd)).isEmpty then some (.document b.value) else none

/-- Reads characters that spell at most one document. -/
def readCharacters? (text : List Char) : Option Text :=
  (tokens? text).bind fun tokens =>
    if tokens.isEmpty then some .empty else documentOf? tokens.toList

/-- Reads a text that holds at most one document. -/
def read? (s : String) : Option Text := readCharacters? s.toList

end TechniqueScan.Document.Yaml
