import SchemaPages.Data.Yaml.Token
/-!
# YAML nodes

The tree of a document, with every alias replaced by the node that it stands for.

* `Node`;
* `Composed`: a node with its depth and the number of aliases met when it is walked through, both
  known without walking through it;
* `Node.ofTokens?`: the document of a list of tokens.
-/

namespace SchemaPages.Yaml

/-- A node of a document. -/
inductive Node where
  | scalar (tag : Option String) (style : ScalarStyle) (text : String)
  | list (tag : Option String) (items : List Node)
  | mapping (tag : Option String) (entries : List (Node × Node))
  deriving Repr

/-- A node and how far it reaches. -/
structure Composed where
  node : Node
  /-- How deep lists and mappings are nested in it. -/
  depth : Nat := 0
  /-- How many aliases it expands, those in other aliases' nodes included. -/
  aliases : Nat := 0
  deriving Repr

namespace Composed

/-- A scalar. -/
def scalar (tag : Option String) (style : ScalarStyle) (text : String) : Composed :=
  { node := .scalar tag style text }

/-- A list of nodes. -/
def list (tag : Option String) (items : List Composed) : Composed where
  node := .list tag (items.map Composed.node)
  depth := (items.foldl (fun d c => max d c.depth) 0) + 1
  aliases := items.foldl (fun n c => n + c.aliases) 0

/-- A mapping of nodes to nodes. -/
def mapping (tag : Option String) (entries : List (Composed × Composed)) : Composed where
  node := .mapping tag (entries.map fun (k, v) => (k.node, v.node))
  depth := (entries.foldl (fun d (k, v) => max d (max k.depth v.depth)) 0) + 1
  aliases := entries.foldl (fun n (k, v) => n + k.aliases + v.aliases) 0

end Composed

/-- What composing depends on. -/
structure Composer where
  rest : List Token
  /-- What the handles of tags stand for. -/
  handles : List (String × String) := []
  /-- Names with the numbers of the nodes that they were given to, latest first. -/
  anchors : List (String × Nat) := []
  /-- The numbered nodes that are complete. -/
  complete : List (Nat × Composed) := []
  /-- How many nodes have begun or ended. -/
  events : Nat := 0
  deriving Repr

/-- Composing reads tokens and may fail. -/
abbrev Compose := StateT Composer (Except SyntaxError)

namespace Compose

/-- The next token. -/
def peek : Compose (Option Token) := return (← get).rest.head?

/-- Passes over a token. -/
def skip : Compose Unit := modify fun c => { c with rest := c.rest.tail }

/-- Counts what begins or ends. -/
def count (n : Nat) : Compose Unit := modify fun c => { c with events := c.events + n }

/-- The tag of a handle and suffix. -/
def resolveTag (handle suffix : String) : Compose String := do
  if handle = "" then return suffix
  match (← get).handles.lookup handle with
  | some expansion => return expansion ++ suffix
  | none =>
    if handle = "!" then return "!" ++ suffix
    else if handle = "!!" then return "tag:yaml.org,2002:" ++ suffix
    else throw (.undefinedTagHandle handle)

/-- The anchor that may come next. -/
def anchor : Compose (Option String) := do
  match ← peek with
  | some (.anchor name) => skip; return some name
  | _ => return none

/-- The tag that may come next. -/
def tag : Compose (Option String) := do
  match ← peek with
  | some (.tag handle suffix) => skip; return some (← resolveTag handle suffix)
  | _ => return none

/-- The anchor and tag of a node, in either order. -/
def properties : Compose (Option String × Option String) := do
  match ← anchor with
  | some name => return (some name, ← tag)
  | none => do
    match ← tag with
    | some t => return (← anchor, some t)
    | none => return (none, none)

/-- An empty scalar. -/
def empty (tag : Option String) : Compose Composed := do
  count 1
  return .scalar tag .plain ""

/-- The node of an alias, which has to be complete. -/
def ofAlias (name : String) : Compose Composed := do
  count 1
  let c ← get
  match c.anchors.lookup name with
  | none => throw (.unknownAnchor name)
  | some n =>
    match c.complete.lookup n with
    | none => throw (.endlessNode name)
    | some target => return { target with aliases := target.aliases + 1 }

/-- Gives a node a name from its beginning on. -/
def named (name : Option String) (compose : Compose Composed) : Compose Composed := do
  match name with
  | none => compose
  | some name =>
    let n := (← get).anchors.length
    modify fun c => { c with anchors := (name, n) :: c.anchors }
    let composed ← compose
    modify fun c => { c with complete := (n, composed) :: c.complete }
    return composed

/-- Whether the next token is one of the given ones; the end of all tokens is `none`. -/
def nextIsOneOf (tokens : List (Option Token)) : Compose Bool := return tokens.contains (← peek)

/-- The tag of a scalar: the mark that asks for no resolution says nothing about a scalar. -/
def scalarTag (tag : Option String) : Option String := if tag = some "!" then none else tag

/-- Whether a token begins a node. -/
def beginsNode (block indentless : Bool) : Option Token → Bool
  | some (.scalar _ _) | some .openList | some .openMapping => true
  | some .blockList | some .blockMapping => block
  | some .dash => indentless
  | _ => false

mutual

/-- A node. Blocks are read only where they may stand; a list in a mapping need not be indented. -/
def node (block indentless : Bool) : Nat → Compose Composed
  | 0 => throw .badStructure
  | bound + 1 => do
    match ← peek with
    | some (.alias name) => skip; ofAlias name
    | _ =>
      let (name, tag) ← properties
      let token ← peek
      if beginsNode block indentless token then named name (content tag bound)
      else if name.isNone ∧ tag.isNone then throw .badStructure
      else named name (empty tag)

/-- A node behind its properties. -/
def content (tag : Option String) : Nat → Compose Composed
  | 0 => throw .badStructure
  | bound + 1 => do
    match ← peek with
    | some (.scalar style text) => skip; count 1; return .scalar (scalarTag tag) style text
    | some .openList => skip; count 2; return .list tag (← bracketItems true bound)
    | some .openMapping => skip; count 2; return .mapping tag (← bracketEntries true bound)
    | some .blockList => skip; count 2; return .list tag (← blockItems bound)
    | some .blockMapping => skip; count 2; return .mapping tag (← blockEntries bound)
    | _ => count 2; return .list tag (← dashes bound)

/-- A node, or an empty scalar before the given tokens. -/
def nodeUnless (stops : List (Option Token)) (block indentless : Bool) : Nat → Compose Composed
  | 0 => throw .badStructure
  | bound + 1 => do
    if ← nextIsOneOf stops then empty none else node block indentless bound

/-- The items of a block list. -/
def blockItems : Nat → Compose (List Composed)
  | 0 => throw .badStructure
  | bound + 1 => do
    match ← peek with
    | some .dash =>
      skip
      let item ← nodeUnless [some .dash, some .blockEnd] true false bound
      return item :: (← blockItems bound)
    | some .blockEnd => skip; return []
    | _ => throw .badStructure

/-- The items of a list that is not indented under its key. -/
def dashes : Nat → Compose (List Composed)
  | 0 => throw .badStructure
  | bound + 1 => do
    match ← peek with
    | some .dash =>
      skip
      let item ← nodeUnless [some .dash, some .key, some .value, some .blockEnd] true false bound
      return item :: (← dashes bound)
    | _ => return []

/-- The entries of a block mapping. -/
def blockEntries : Nat → Compose (List (Composed × Composed))
  | 0 => throw .badStructure
  | bound + 1 => do
    let stops := [some Token.key, some .value, some .blockEnd]
    match ← peek with
    | some .key =>
      skip
      let key ← nodeUnless stops true true bound
      let value ← match ← peek with
        | some .value => do skip; nodeUnless stops true true bound
        | _ => empty none
      return (key, value) :: (← blockEntries bound)
    | some .blockEnd => skip; return []
    | _ => throw .badStructure

/-- The items of a list in brackets. An item with a colon is a mapping of one entry. -/
def bracketItems (first : Bool) : Nat → Compose (List Composed)
  | 0 => throw .badStructure
  | bound + 1 => do
    if ← nextIsOneOf [some .closeList] then skip; return []
    if !first then
      if ← nextIsOneOf [some .comma] then skip else throw .badStructure
    match ← peek with
    | some .closeList => skip; return []
    | some .key =>
      skip
      count 2
      let key ← singleKey bound
      let value ← match ← peek with
        | some .value => do
          skip
          nodeUnless [some .comma, some .closeList] false false bound
        | _ => empty none
      return .mapping none [(key, value)] :: (← bracketItems false bound)
    | _ =>
      let item ← node false false bound
      return item :: (← bracketItems false bound)

/-- The key of a mapping of one entry. Without a key the mark behind it is passed over. -/
def singleKey : Nat → Compose Composed
  | 0 => throw .badStructure
  | bound + 1 => do
    if ← nextIsOneOf [some .value, some .comma, some .closeList] then skip; empty none
    else node false false bound

/-- The entries of a mapping in brackets. -/
def bracketEntries (first : Bool) : Nat → Compose (List (Composed × Composed))
  | 0 => throw .badStructure
  | bound + 1 => do
    if ← nextIsOneOf [some .closeMapping] then skip; return []
    if !first then
      if ← nextIsOneOf [some .comma] then skip else throw .badStructure
    match ← peek with
    | some .closeMapping => skip; return []
    | some .key =>
      skip
      let key ← nodeUnless [some .value, some .comma, some .closeMapping] false false bound
      let value ← match ← peek with
        | some .value => do
          skip
          nodeUnless [some .comma, some .closeMapping] false false bound
        | _ => empty none
      return (key, value) :: (← bracketEntries false bound)
    | _ =>
      let key ← node false false bound
      let value ← empty none
      return (key, value) :: (← bracketEntries false bound)

end

/-- The directives before a document. -/
def directives (versionSeen : Bool) : Nat → Compose Unit
  | 0 => throw .badStructure
  | bound + 1 => do
    match ← peek with
    | some (.version major minor) =>
      if versionSeen ∨ major ≠ 1 ∨ (minor ≠ 1 ∧ minor ≠ 2) then throw .badDirective
      skip
      directives true bound
    | some (.tagHandle handle expansion) =>
      if ((← get).handles.lookup handle).isSome then throw .badDirective
      modify fun c => { c with handles := (handle, expansion) :: c.handles }
      skip
      directives versionSeen bound
    | _ => return ()

/-- Whether a token begins a document explicitly. -/
def beginsDocument : Option Token → Bool
  | some .documentStart | some (.version _ _) | some (.tagHandle _ _) => true
  | _ => false

/-- Passes over the marks of a document's end. -/
def skipEnds : Nat → Compose Unit
  | 0 => return ()
  | bound + 1 => do
    if ← nextIsOneOf [some .documentEnd] then skip; skipEnds bound

/-- The only document, or nothing where there is none. -/
def document (bound : Nat) : Compose (Option Composed) := do
  let first ← peek
  if first.isNone then return none
  let composed ←
    if beginsDocument first then do
      directives false bound
      if !(← nextIsOneOf [some .documentStart]) then throw .badStructure
      skip
      let next ← peek
      if next.isNone ∨ next = some .documentEnd ∨ beginsDocument next then empty none
      else node true false bound
    else node true false bound
  skipEnds bound
  if (← peek).isSome then throw .severalDocuments
  return some composed

end Compose

/-- How deep a document may be. -/
def maxDepth : Nat := 128

/-- The document of a list of tokens, if there is one. Each token lets composing go on by a few
steps, so that the number of tokens bounds the steps. -/
def Node.ofTokens? (tokens : List Token) : Except SyntaxError (Option Node) := do
  let (composed, c) ← (Compose.document (4 * tokens.length + 4)).run { rest := tokens }
  match composed with
  | none => return none
  | some composed =>
    if maxDepth < composed.depth then throw .tooDeep
    if 100 * c.events < composed.aliases then throw .tooManyAliases
    return some composed.node

/-- The document of a text, if there is one. -/
def Node.read? (text : String) : Except SyntaxError (Option Node) := do
  Node.ofTokens? (← tokens text)

end SchemaPages.Yaml
