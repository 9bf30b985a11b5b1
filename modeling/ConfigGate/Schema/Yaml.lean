import ConfigGate.Failure
import ConfigGate.Schema.Document
import ConfigGate.Yaml.Core
import ConfigGate.Yaml.Node
import ConfigGate.Yaml.Writer

/-!
# Schema documents in YAML

Where a text is expected any scalar counts by its spelling, except in a clause, where a scalar must
not spell null, a truth value or a number. An empty value stands for an empty collection. Members
must be known and must not be repeated; of a repeated key in a map the last value counts.
-/

namespace ConfigGate

open Yaml

/-! ## Parts of a document -/

/-- The text of a scalar. -/
def scalarText? (graph : Graph) (node : Node) : Option String :=
  match graph.follow node with
  | .scalar _ _ text => some text
  | _ => none

/-- Whether a node is an empty plain scalar. -/
def isLeftOut : Node → Bool
  | .scalar _ style text => style = .plain && text.isEmpty
  | _ => false

/-- The items of a sequence; an empty value has none. -/
def sequenceItems? (graph : Graph) (node : Node) : Option (List Node) :=
  match graph.follow node with
  | .sequence _ items => some items
  | other => if isLeftOut other then some [] else none

/-- The pairs of a mapping, keys as texts; an empty value has none. -/
def mappingPairs? (graph : Graph) (node : Node) : Option (List (String × Node)) :=
  match graph.follow node with
  | .mapping _ pairs =>
      pairs.mapM fun pair => (scalarText? graph pair.1).map fun key => (key, pair.2)
  | other => if isLeftOut other then some [] else none

/-- The members of a mapping that has only known members, each at most once. -/
def members? (graph : Graph) (known : List String) (node : Node) :
    Option (List (String × Node)) :=
  (mappingPairs? graph node).bind fun pairs =>
    let names := pairs.map (·.1)
    if names.all known.contains && names.eraseDups.length = names.length then some pairs else none

/-- Reads the member `name` if there is one. -/
def memberOr {α : Type} (pairs : List (String × Node)) (name : String) (fallback : α)
    (read : Node → Option α) : Option α :=
  match pairs.find? fun pair => pair.1 == name with
  | none => some fallback
  | some (_, node) => read node

/-- Reads every value of a map. -/
def readMap {α : Type} (graph : Graph) (read : Node → Option α) (node : Node) :
    Option (SortedMap α) :=
  (mappingPairs? graph node).bind fun pairs =>
    (pairs.mapM fun pair => (read pair.2).map fun value => (pair.1, value)).map SortedMap.ofList

/-- Reads a list of texts. -/
def readTexts (graph : Graph) (node : Node) : Option (List String) :=
  (sequenceItems? graph node).bind fun items => items.mapM (scalarText? graph)

/-- Reads a truth value, which must be written plain. -/
def readBool (graph : Graph) (node : Node) : Option Bool :=
  match graph.follow node with
  | .scalar tag style text =>
      if style = .plain || (style = .literal && tag == some boolTag) then boolWord? text else none
  | _ => none

/-- Reads the kind of a key: its word, or a tag of that name without content. -/
def readKind (graph : Graph) (node : Node) : Option KeyKind :=
  match graph.follow node with
  | .scalar tag style text =>
      match localName? tag with
      | none => KeyKind.ofWord? text
      | some name =>
          if style = .plain && (text.isEmpty || isNullWord text) then KeyKind.ofWord? name else none
  | _ => none

/-- Reads a text of a clause. -/
def readClauseText (graph : Graph) (node : Node) : Option String :=
  match graph.follow node with
  | .scalar tag style text =>
      if (localName? tag).isSome then none
      else if [boolTag, intTag, floatTag, nullTag].any (tag == some ·) then none
      else if style = .plain && tag.isNone && coreValue text != .text then none
      else some text
  | _ => none

/-- Reads the values of a clause: one text or a list of texts. -/
def readClause (graph : Graph) (node : Node) : Option ClauseValues :=
  match graph.follow node with
  | .sequence tag items =>
      if (localName? tag).isSome then none
      else (items.mapM (readClauseText graph)).map .list
  | other => (readClauseText graph other).map .single

/-! ## Documents -/

/-- Reads the declaration of a key. -/
def readDecl (graph : Graph) (node : Node) : Option KeyDecl := do
  let pairs ← members? graph ["type", "required", "values"] node
  let kind ← memberOr pairs "type" .string (readKind graph)
  let required ← memberOr pairs "required" false (readBool graph)
  let values ← memberOr pairs "values" [] (readTexts graph)
  some ⟨kind, required, values⟩

/-- Reads an invariant, whose name and rule must be there. -/
def readInvariantEntry (graph : Graph) (node : Node) : Option InvariantEntry := do
  let pairs ← members? graph ["name", "rule"] node
  let text (name : String) : Option String :=
    (pairs.find? fun pair => pair.1 == name).bind fun pair => scalarText? graph pair.2
  let name ← text "name"
  let rule ← text "rule"
  some ⟨name, rule⟩

/-- Reads a contract. -/
def readContractEntry (graph : Graph) (node : Node) : Option ContractEntry := do
  let pairs ← members? graph ["allow", "deny"] node
  let allow ← memberOr pairs "allow" .empty (readMap graph (readClause graph))
  let deny ← memberOr pairs "deny" .empty (readMap graph (readClause graph))
  some ⟨allow, deny⟩

/-- How many levels of nodes a schema has at most, aliases included. -/
def documentDepth : Nat := 16

namespace Document

/-- The document that a YAML tree holds. Reading it may pass at most a hundred aliases for every
start and end of a node in the text. -/
def ofGraph? (graph : Graph) : Option Document := do
  let root := graph.root.getD .empty
  let pairs ← members? graph ["config", "invariants", "environments"] root
  let config ← memberOr pairs "config" .empty (readMap graph (readDecl graph))
  let invariants ← memberOr pairs "invariants" [] fun node =>
    (sequenceItems? graph node).bind fun items => items.mapM (readInvariantEntry graph)
  let environments ← memberOr pairs "environments" .empty
    (readMap graph (readContractEntry graph))
  if graph.events * 100 < graph.aliasVisits documentDepth root then none
  else some ⟨config, invariants, environments⟩

/-- The document of a YAML text. -/
def read (text : String) : Option Document := (Graph.read text).bind ofGraph?

end Document

/-- The schema of a YAML text. -/
def Schema.read (wording : Wording) (text : String) : Except SchemaError Schema :=
  match Document.read text with
  | none => .error (.notYaml (wording.schema text))
  | some document => Schema.ofDocument document

/-! ## Writing -/

namespace Document

/-- An entry of a map, unless the value is an empty list. -/
def listEntry (name : String) (items : List Tree) : List (String × Tree) :=
  if items.isEmpty then [] else [(name, .list items)]

/-- An entry of a map, unless the value is an empty map. -/
def mapEntry (name : String) (entries : List (String × Tree)) : List (String × Tree) :=
  if entries.isEmpty then [] else [(name, .map entries)]

/-- The tree of a key's declaration. -/
def declTree (decl : KeyDecl) : Tree :=
  .map ([("type", .text decl.kind.word), ("required", .bool decl.required)] ++
    listEntry "values" (decl.values.map .text))

/-- The tree of an invariant. -/
def invariantTree (entry : InvariantEntry) : Tree :=
  .map [("name", .text entry.name), ("rule", .text entry.rule)]

/-- The tree of a clause's values. -/
def clauseTree : ClauseValues → Tree
  | .single value => .text value
  | .list values => .list (values.map .text)

/-- The tree of a contract. -/
def contractTree (entry : ContractEntry) : Tree :=
  let side (clauses : SortedMap ClauseValues) : List (String × Tree) :=
    clauses.entries.map fun clause => (clause.1, clauseTree clause.2)
  .map (mapEntry "allow" (side entry.allow) ++ mapEntry "deny" (side entry.deny))

/-- The tree of a document: keys are always written, other parts when there are any. -/
def toTree (document : Document) : Tree :=
  .map ([("config", .map (document.config.entries.map fun entry => (entry.1, declTree entry.2)))] ++
    listEntry "invariants" (document.invariants.map invariantTree) ++
    mapEntry "environments"
      (document.environments.entries.map fun entry => (entry.1, contractTree entry.2)))

/-- The YAML text of a document. -/
def write (document : Document) : String := document.toTree.write

end Document

/-- The YAML text of a schema whose invariants refer to declared keys only. -/
def Schema.write (schema : Schema) : Except SchemaError String :=
  match schema.toDocument? with
  | .error error => .error error
  | .ok document => .ok document.write

end ConfigGate
