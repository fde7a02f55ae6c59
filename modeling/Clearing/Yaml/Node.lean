import Clearing.Yaml.Token

/-!
# Nodes

A YAML text holds one node: a scalar, a sequence, a mapping, or an alias for a node that carries an anchor. An
alias may stand inside the node it stands for, so what the aliases stand for is kept beside the node. An anchor
bears the number of the different names that were given before it, and of two with one number the later counts.
-/

namespace Clearing.Yaml

/-- A node of a text; an alias gives the number of an anchor. -/
inductive Node where
  | alias (number : Nat)
  | scalar (style : ScalarStyle) (tag : Option Address) (text : String)
  | sequence (items : List Node)
  | mapping (entries : List (Node × Node))

namespace Node

/-- What stands where a node is left out. -/
def empty : Node := .scalar .plain none ""

/-! ## Reading tokens -/

/-- The tokens that are left, the shorthands for tags, the names of the anchors so far with their numbers, and
the anchors in the order in which they stand, with their numbers and nodes. -/
structure Source where
  tokens : List Token
  shorthands : List (String × Address) := []
  names : List (String × Nat) := []
  anchored : Array (Nat × Node) := #[]

/-- What is read from tokens, if they are in order. -/
abbrev Reader := StateT Source Option

/-- The next token. -/
def peek : Reader (Option Token) := do return (← get).tokens.head?

/-- Leaves the next token behind. -/
def skip : Reader Unit := modify fun s => { s with tokens := s.tokens.drop 1 }

/-- Whether one of these tokens comes next. -/
def isNext (ts : List Token) : Reader Bool := do return (← peek).any ts.contains

/-- Leaves the next token behind if it is this one, and tells whether it was. -/
def accept (t : Token) : Reader Bool := do
  if ← isNext [t] then
    skip
    return true
  else return false

/-- Leaves the next token behind, which has to be this one. -/
def expect (t : Token) : Reader Unit := do
  if ← accept t then return () else failure

/-! ## Properties -/

/-- An anchor in front of a node. -/
def anchor? : Reader (Option String) := do
  match ← peek with
  | some (.anchor name) =>
    skip
    return some name
  | _ => return none

/-- The whole address of a tag, whose handle may be a shorthand. -/
def address? (shorthands : List (String × Address)) (handle : String) (rest : Address) : Option Address :=
  if handle.isEmpty then some rest else (shorthands.lookup handle).map (· ++ rest)

/-- A tag in front of a node. -/
def tag? : Reader (Option Address) := do
  match ← peek with
  | some (.tag handle rest) =>
    skip
    match address? (← get).shorthands handle rest with
    | some address => return some address
    | none => failure
  | _ => return none

/-- Enters an anchor, as an alias of itself until its node has been read, and gives its place. -/
def enter (name : String) : Reader Nat := modifyGet fun s =>
  let number := s.names.length
  (s.anchored.size, { s with
    names := (name, number) :: s.names.filter (·.1 != name)
    anchored := s.anchored.push (number, .alias number) })

/-- Gives the anchor at a place its node. -/
def settle (place : Nat) (node : Node) : Reader Unit := modify fun s =>
  { s with anchored := s.anchored.modify place fun (number, _) => (number, node) }

/-- The alias for the last anchor with a name. -/
def alias? (name : String) : Reader Node := do
  match (← get).names.lookup name with
  | some number => return .alias number
  | none => failure

/-! ## Nodes

What may be left out is left out where one of the tokens comes that may follow it. All readers run on fuel, which
the number of tokens bounds. -/

/-- The value of an entry behind its key, if a colon stands there; it is left out before `followers`. -/
def valueBefore (followers : List Token) (read : Reader Node) : Reader Node := do
  if ← accept .value then
    if ← isNext followers then return empty else read
  else return empty

mutual

/-- Reads a node. Whether it may be a collection by indentation, and whether a sequence may stand at the column of
the keys around it, depends on where it stands. -/
def read : (fuel : Nat) → (block level : Bool) → Reader Node
  | 0, _, _ => failure
  | fuel + 1, block, level => do
    match ← peek with
    | some (.alias name) =>
      skip
      alias? name
    | _ =>
      let before ← anchor?
      let tag ← tag?
      let anchor ← if before.isSome then pure before else anchor?
      let place ← anchor.mapM enter
      let node ← content fuel block level tag anchor.isSome
      place.forM (settle · node)
      return node

/-- Reads what stands behind the properties of a node. It may be left out if there are properties. -/
def content : (fuel : Nat) → (block level : Bool) → (tag : Option Address) → (anchored : Bool) → Reader Node
  | 0, _, _, _, _ => failure
  | fuel + 1, block, level, tag, anchored => do
    match ← peek, block, level with
    | some .entry, _, true => return .sequence (← levelItems fuel)
    | some (.scalar style text), _, _ =>
      skip
      return .scalar style tag text
    | some .flowSequenceStart, _, _ =>
      skip
      return .sequence (← flowItems fuel true)
    | some .flowMappingStart, _, _ =>
      skip
      return .mapping (← flowEntries fuel true)
    | some .sequenceStart, true, _ =>
      skip
      return .sequence (← blockItems fuel)
    | some .mappingStart, true, _ =>
      skip
      return .mapping (← blockEntries fuel)
    | _, _, _ => if anchored || tag.isSome then return .scalar .plain tag "" else failure

/-- Reads the items of a sequence by indentation. -/
def blockItems : (fuel : Nat) → Reader (List Node)
  | 0 => failure
  | fuel + 1 => do
    if ← accept .entry then
      let item ← if ← isNext [.entry, .blockEnd] then pure empty else read fuel true false
      return item :: (← blockItems fuel)
    else
      expect .blockEnd
      return []

/-- Reads the items of a sequence at the column of the keys around it, which nothing closes. -/
def levelItems : (fuel : Nat) → Reader (List Node)
  | 0 => failure
  | fuel + 1 => do
    if ← accept .entry then
      let item ←
        if ← isNext [.entry, .key, .value, .blockEnd] then pure empty else read fuel true false
      return item :: (← levelItems fuel)
    else return []

/-- Reads the entries of a mapping by indentation. -/
def blockEntries : (fuel : Nat) → Reader (List (Node × Node))
  | 0 => failure
  | fuel + 1 => do
    if ← accept .key then
      let followers := [.key, .value, .blockEnd]
      let key ← if ← isNext followers then pure empty else read fuel true true
      let value ← valueBefore followers (read fuel true true)
      return (key, value) :: (← blockEntries fuel)
    else
      expect .blockEnd
      return []

/-- Reads the items of a sequence in brackets. A key among them makes a mapping of one entry. -/
def flowItems : (fuel : Nat) → (first : Bool) → Reader (List Node)
  | 0, _ => failure
  | fuel + 1, first => do
    if ← accept .flowSequenceEnd then return []
    else
      if !first then expect .separator
      if ← accept .flowSequenceEnd then return []
      else
        let item ← if ← accept .key then flowPair fuel else read fuel false false
        return item :: (← flowItems fuel false)

/-- Reads an entry that stands in a sequence in brackets. Where the key is left out, the token there is too. -/
def flowPair : (fuel : Nat) → Reader Node
  | 0 => failure
  | fuel + 1 => do
    let key ←
      if ← isNext [.value, .separator, .flowSequenceEnd] then do
        skip
        pure empty
      else read fuel false false
    let value ← valueBefore [.separator, .flowSequenceEnd] (read fuel false false)
    return .mapping [(key, value)]

/-- Reads the entries of a mapping in braces. A node without a key mark is a key without a value. -/
def flowEntries : (fuel : Nat) → (first : Bool) → Reader (List (Node × Node))
  | 0, _ => failure
  | fuel + 1, first => do
    if ← accept .flowMappingEnd then return []
    else
      if !first then expect .separator
      if ← accept .flowMappingEnd then return []
      else
        let entry ←
          if ← accept .key then do
            let key ←
              if ← isNext [.value, .separator, .flowMappingEnd] then pure empty
              else read fuel false false
            let value ← valueBefore [.separator, .flowMappingEnd] (read fuel false false)
            pure (key, value)
          else do
            let key ← read fuel false false
            pure (key, empty)
        return entry :: (← flowEntries fuel false)

end

end Node

/-! ## The text -/

/-- The shorthands that hold without being declared. -/
def commonShorthands : List (String × Address) := [("!", .nonSpecific), ("!!", .common "")]

/-- Splits off the directives: at most one version, which has to be 1.1 or 1.2, and shorthands, each of which may
be declared once. -/
def directives? : (versioned : Bool) → (shorthands : List (String × Address)) → List Token →
    Option (List (String × Address) × List Token)
  | versioned, shorthands, .version major minor :: rest =>
    if versioned || major != 1 || !(minor == 1 || minor == 2) then none
    else directives? true shorthands rest
  | versioned, shorthands, .shorthand handle expansion :: rest =>
    if (shorthands.lookup handle).isSome then none
    else directives? versioned ((handle, expansion) :: shorthands) rest
  | _, shorthands, tokens => some (shorthands, tokens)

/-- Whether a document has no content: its end, the next document or the end of the text follows its start. -/
def isBare : List Token → Bool
  | [] | .documentStart :: _ | .documentEnd :: _ | .version .. :: _ | .shorthand .. :: _ => true
  | _ => false

end Yaml

/-- A node of a text, with what the aliases stand for. -/
structure Yaml where
  root : Yaml.Node
  anchored : List (Nat × Yaml.Node)

namespace Yaml

/-- The node of a document without directives, of which the tokens are given. -/
def ofContent? (shorthands : List (String × Address)) (tokens : List Token) : Option Yaml := do
  let (root, rest) ← (Node.read (3 * tokens.length + 8) true false).run {
    tokens, shorthands := shorthands ++ commonShorthands }
  if rest.tokens.all (· == .documentEnd) then some { root, anchored := rest.anchored.toList.reverse }
  else none

/-- The node of a text, of which the tokens are given. A document with directives has to be marked where it
starts, and no other document may follow. -/
def ofTokens? (tokens : List Token) : Option Yaml := do
  let (shorthands, rest) ← directives? false [] tokens
  match rest with
  | .documentStart :: rest =>
    if isBare rest then
      if rest.all (· == .documentEnd) then some { root := .empty, anchored := [] } else none
    else ofContent? shorthands rest
  | rest =>
    if rest.length < tokens.length then none
    else if rest.isEmpty then some { root := .empty, anchored := [] }
    else ofContent? [] rest

/-- The node of a text. -/
def ofText? (text : String) : Option Yaml := (tokens? text).bind ofTokens?

end Yaml
end Clearing
