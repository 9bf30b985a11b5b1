import ConfigGate.Yaml.Token

/-!
# YAML nodes

The tree that the tokens of a document spell. Aliases stay in the tree as the number of an anchor;
`Graph.follow` finds the node that owns it.

A new anchor gets the number of distinct anchor names used so far, so a name that is used again may
share its number with the next new name. A number belongs to the last node that got it.
-/

namespace ConfigGate.Yaml

/-- A node. Tags are in full; a scalar with the bare tag `!` has none. -/
inductive Node where
  | scalar (tag : Option String) (style : Style) (text : String)
  | sequence (tag : Option String) (items : List Node)
  | mapping (tag : Option String) (pairs : List (Node × Node))
  | alias (anchor : Nat)
deriving Inhabited

/-- The node of nothing: an empty plain scalar. -/
def Node.empty : Node := .scalar none .plain ""

/-- The node that owns an anchor number, and how many nodes began before it. -/
structure Owner where
  number : Nat
  start : Nat
  node : Node

/-- A document: its root, unless the text is empty, its anchors, and how many starts and ends of
nodes it has. -/
structure Graph where
  root : Option Node
  owners : List Owner
  events : Nat

namespace Graph

/-- The last node in the text that got an anchor number. -/
def owner (graph : Graph) (number : Nat) : Node :=
  let later (best : Option Owner) (owner : Owner) : Option Owner :=
    if owner.number = number && best.all (·.start < owner.start) then some owner else best
  ((graph.owners.foldl later none).map (·.node)).getD .empty

/-- The node itself, or what an alias stands for. -/
def follow (graph : Graph) : Node → Node
  | .alias number => graph.owner number
  | node => node

/-- How many aliases are passed when the tree is read `depth` levels deep. -/
def aliasVisits (graph : Graph) : Nat → Node → Nat
  | 0, _ => 0
  | _ + 1, .scalar _ _ _ => 0
  | depth + 1, .sequence _ items => (items.map (graph.aliasVisits depth)).sum
  | depth + 1, .mapping _ pairs =>
      (pairs.map fun pair => graph.aliasVisits depth pair.1 + graph.aliasVisits depth pair.2).sum
  | depth + 1, .alias number => 1 + graph.aliasVisits depth (graph.owner number)

end Graph

/-! ## From tokens to nodes -/

/-- The tokens that remain, the tag handles, the anchors by name, and what was built. -/
structure Builder where
  tokens : List Token
  handles : List (String × String)
  names : List (String × Nat)
  owners : List Owner
  events : Nat

namespace Builder

/-- Drops the next token. -/
def skip (builder : Builder) : Builder := { builder with tokens := builder.tokens.drop 1 }

/-- Counts starts and ends of nodes. -/
def count (builder : Builder) (events : Nat) : Builder :=
  { builder with events := builder.events + events }

/-- An empty node where one is left out. -/
def leftOut (builder : Builder) : Node × Builder := (.empty, builder.count 1)

/-- The full text of a tag; an undefined handle is a fault. -/
def fullTag? (builder : Builder) (handle suffix : String) : Option String :=
  if handle.isEmpty then some suffix
  else ((builder.handles.find? fun entry => entry.1 == handle).map (·.2)).map (· ++ suffix)

/-- The anchor and tag in front of a node, in either order. -/
def properties (builder : Builder) : Option (Option String × Option String × Builder) :=
  match builder.tokens with
  | .anchor name :: .tag handle suffix :: rest =>
      (builder.fullTag? handle suffix).map fun tag =>
        (some name, some tag, { builder with tokens := rest })
  | .tag handle suffix :: .anchor name :: rest =>
      (builder.fullTag? handle suffix).map fun tag =>
        (some name, some tag, { builder with tokens := rest })
  | .anchor name :: rest => some (some name, none, { builder with tokens := rest })
  | .tag handle suffix :: rest =>
      (builder.fullTag? handle suffix).map fun tag =>
        (none, some tag, { builder with tokens := rest })
  | _ => some (none, none, builder)

/-- Gives an anchor its number; the owner's node is not known yet. -/
def claim (builder : Builder) (anchor : Option String) : Builder × Option (Nat × Nat) :=
  match anchor with
  | none => (builder, none)
  | some name =>
      let number := builder.names.length
      let others := builder.names.filter fun entry => entry.1 != name
      ({ builder with names := (name, number) :: others }, some (number, builder.events))

/-- Records the node that owns a claimed number. -/
def own (builder : Builder) (claimed : Option (Nat × Nat)) (node : Node) : Node × Builder :=
  match claimed with
  | none => (node, builder)
  | some (number, start) =>
      (node, { builder with owners := ⟨number, start, node⟩ :: builder.owners })

/-- Whether a block item or key may be left out in front of the next token. -/
def atBlockGap (sequence : Bool) : List Token → Bool
  | .blockEnd :: _ => true
  | .entry :: _ => sequence
  | .key :: _ => !sequence
  | .value :: _ => !sequence
  | _ => false

/-- Whether an item of a block sequence without indentation may be left out. -/
def atLooseGap : List Token → Bool
  | .blockEnd :: _ => true
  | .entry :: _ => true
  | .key :: _ => true
  | .value :: _ => true
  | _ => false

/-- Whether a part of a pair in a flow collection may be left out. -/
def atFlowGap (close : Token) (asKey : Bool) : List Token → Bool
  | .comma :: _ => true
  | .value :: _ => asKey
  | token :: _ => token == close
  | [] => false

mutual

/-- Reads a node. `block` permits block collections, `loose` a sequence without indentation of its
own. -/
def node : Nat → Bool → Bool → Builder → Option (Node × Builder)
  | 0, _, _, _ => none
  | fuel + 1, block, loose, builder =>
      match builder.tokens with
      | .alias name :: _ =>
          match builder.names.find? fun entry => entry.1 == name with
          | none => none
          | some (_, number) => some (.alias number, builder.skip.count 1)
      | _ =>
          match builder.properties with
          | none => none
          | some (anchor, tag, builder) =>
              let (builder, claimed) := builder.claim anchor
              match builder.tokens with
              | .scalar style text :: _ =>
                  let tag := if tag == some "!" then none else tag
                  some ((builder.skip.count 1).own claimed (.scalar tag style text))
              | .flowSequence :: _ =>
                  (flowItems fuel true (builder.skip.count 2)).map fun (items, builder) =>
                    builder.own claimed (.sequence tag items)
              | .flowMapping :: _ =>
                  (flowPairs fuel true (builder.skip.count 2)).map fun (pairs, builder) =>
                    builder.own claimed (.mapping tag pairs)
              | .entry :: _ =>
                  if loose then
                    (looseItems fuel (builder.count 2)).map fun (items, builder) =>
                      builder.own claimed (.sequence tag items)
                  else nothing claimed anchor tag builder
              | .blockSequence :: _ =>
                  if block then
                    (blockItems fuel (builder.skip.count 2)).map fun (items, builder) =>
                      builder.own claimed (.sequence tag items)
                  else nothing claimed anchor tag builder
              | .blockMapping :: _ =>
                  if block then
                    (blockPairs fuel (builder.skip.count 2)).map fun (pairs, builder) =>
                      builder.own claimed (.mapping tag pairs)
                  else nothing claimed anchor tag builder
              | _ => nothing claimed anchor tag builder

/-- A node with an anchor or a tag and no content. -/
def nothing (claimed : Option (Nat × Nat)) (anchor tag : Option String) (builder : Builder) :
    Option (Node × Builder) :=
  if anchor.isSome || tag.isSome then
    some ((builder.count 1).own claimed (.scalar tag .plain ""))
  else none

/-- Reads the items of a block sequence. -/
def blockItems : Nat → Builder → Option (List Node × Builder)
  | 0, _ => none
  | fuel + 1, builder =>
      match builder.tokens with
      | .blockEnd :: _ => some ([], builder.skip)
      | .entry :: rest =>
          let item :=
            if atBlockGap true rest then some builder.skip.leftOut
            else node fuel true false builder.skip
          match item with
          | none => none
          | some (item, builder) =>
              (blockItems fuel builder).map fun (items, builder) => (item :: items, builder)
      | _ => none

/-- Reads the items of a block sequence that is not indented deeper than its key. -/
def looseItems : Nat → Builder → Option (List Node × Builder)
  | 0, _ => none
  | fuel + 1, builder =>
      match builder.tokens with
      | .entry :: rest =>
          let item :=
            if atLooseGap rest then some builder.skip.leftOut
            else node fuel true false builder.skip
          match item with
          | none => none
          | some (item, builder) =>
              (looseItems fuel builder).map fun (items, builder) => (item :: items, builder)
      | _ => some ([], builder)

/-- Reads the pairs of a block mapping. -/
def blockPairs : Nat → Builder → Option (List (Node × Node) × Builder)
  | 0, _ => none
  | fuel + 1, builder =>
      match builder.tokens with
      | .blockEnd :: _ => some ([], builder.skip)
      | .key :: rest =>
          let key :=
            if atBlockGap false rest then some builder.skip.leftOut
            else node fuel true true builder.skip
          match key with
          | none => none
          | some (key, builder) =>
              let value :=
                match builder.tokens with
                | .value :: rest =>
                    if atBlockGap false rest then some builder.skip.leftOut
                    else node fuel true true builder.skip
                | _ => some builder.leftOut
              match value with
              | none => none
              | some (value, builder) =>
                  (blockPairs fuel builder).map fun (pairs, builder) =>
                    ((key, value) :: pairs, builder)
      | _ => none

/-- Reads the items of a flow sequence; a pair among them is a mapping of its own. -/
def flowItems : Nat → Bool → Builder → Option (List Node × Builder)
  | 0, _, _ => none
  | fuel + 1, first, builder =>
      match builder.tokens with
      | .flowSequenceEnd :: _ => some ([], builder.skip)
      | head :: _ =>
          if !first && head != .comma then none
          else
            let builder := if first then builder else builder.skip
            match builder.tokens with
            | .flowSequenceEnd :: _ => some ([], builder.skip)
            | tokens =>
                let item :=
                  match tokens with
                  | .key :: _ => flowPair fuel (builder.skip.count 2)
                  | _ => node fuel false false builder
                match item with
                | none => none
                | some (item, builder) =>
                    (flowItems fuel false builder).map fun (items, builder) =>
                      (item :: items, builder)
      | [] => none

/-- Reads the pair of a flow sequence behind its key mark. -/
def flowPair : Nat → Builder → Option (Node × Builder)
  | 0, _ => none
  | fuel + 1, builder =>
      let key :=
        if atFlowGap .flowSequenceEnd true builder.tokens then some builder.skip.leftOut
        else node fuel false false builder
      match key with
      | none => none
      | some (key, builder) =>
          (flowValue fuel .flowSequenceEnd builder).map fun (value, builder) =>
            (.mapping none [(key, value)], builder)

/-- Reads the value of a flow pair, if there is one. -/
def flowValue : Nat → Token → Builder → Option (Node × Builder)
  | 0, _, _ => none
  | fuel + 1, close, builder =>
      match builder.tokens with
      | .value :: rest =>
          if atFlowGap close false rest then some builder.skip.leftOut
          else node fuel false false builder.skip
      | _ => some builder.leftOut

/-- Reads the pairs of a flow mapping; a key may stand without a value. -/
def flowPairs : Nat → Bool → Builder → Option (List (Node × Node) × Builder)
  | 0, _, _ => none
  | fuel + 1, first, builder =>
      match builder.tokens with
      | .flowMappingEnd :: _ => some ([], builder.skip)
      | head :: _ =>
          if !first && head != .comma then none
          else
            let builder := if first then builder else builder.skip
            match builder.tokens with
            | .flowMappingEnd :: _ => some ([], builder.skip)
            | .key :: rest =>
                let key :=
                  if atFlowGap .flowMappingEnd true rest then some builder.skip.leftOut
                  else node fuel false false builder.skip
                match key with
                | none => none
                | some (key, builder) =>
                    match flowValue fuel .flowMappingEnd builder with
                    | none => none
                    | some (value, builder) =>
                        (flowPairs fuel false builder).map fun (pairs, builder) =>
                          ((key, value) :: pairs, builder)
            | _ =>
                match node fuel false false builder with
                | none => none
                | some (key, builder) =>
                    let (value, builder) := builder.leftOut
                    (flowPairs fuel false builder).map fun (pairs, builder) =>
                      ((key, value) :: pairs, builder)
      | [] => none

end

end Builder

/-! ## Documents -/

/-- The tag handles that need no directive. -/
def defaultHandles : List (String × String) := [("!", "!"), ("!!", "tag:yaml.org,2002:")]

/-- Reads directives: at most one version, 1.1 or 1.2, and each tag handle at most once. -/
def readDirectives : Bool → List (String × String) → List Token →
    Option (List (String × String) × List Token)
  | versionSeen, handles, .version major minor :: rest =>
      if versionSeen || major != 1 || (minor != 1 && minor != 2) then none
      else readDirectives true handles rest
  | versionSeen, handles, .tagHandle handle leader :: rest =>
      if handles.any fun entry => entry.1 == handle then none
      else readDirectives versionSeen (handles ++ [(handle, leader)]) rest
  | _, handles, rest => some (handles, rest)

/-- Whether a document that has begun has no content. -/
def atDocumentGap : List Token → Bool
  | [] => true
  | .version _ _ :: _ => true
  | .tagHandle _ _ :: _ => true
  | .documentStart :: _ => true
  | .documentEnd :: _ => true
  | _ => false

/-- The document that is spelled by all of the tokens; there may be one at most. -/
def Graph.ofTokens? (tokens : List Token) : Option Graph :=
  if tokens.isEmpty then some ⟨none, [], 1⟩
  else
    let fuel := 2 * tokens.length + 8
    let begin (handles : List (String × String)) (tokens : List Token) : Builder :=
      ⟨tokens, handles ++ defaultHandles, [], [], 0⟩
    let content : Option (Node × Builder) :=
      match readDirectives false [] tokens with
      | none => none
      | some (handles, .documentStart :: rest) =>
          if atDocumentGap rest then some (begin handles rest).leftOut
          else (begin handles rest).node fuel true false
      | some (handles, rest) =>
          if rest.length = tokens.length then (begin handles tokens).node fuel true false else none
    match content with
    | none => none
    | some (root, builder) =>
        if builder.tokens.all (· == .documentEnd) then
          some ⟨some root, builder.owners, builder.events⟩
        else none

/-- The document of a text. -/
def Graph.read (text : String) : Option Graph := (Token.scan text).bind Graph.ofTokens?

end ConfigGate.Yaml
