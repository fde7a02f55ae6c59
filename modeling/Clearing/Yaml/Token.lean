import Clearing.Yaml.Address
import Clearing.Yaml.Scalar

/-!
# Tokens

A YAML text is a list of tokens: scalars, properties of nodes, and the marks between which collections stand.
Collections by indentation get marks too: a column deeper than the last one opens a collection, and a line that
is less deep closes it. Whether a scalar is a key shows only at the colon behind it. Until then it is a
candidate, and its marks are inserted in front of it afterwards.
-/

namespace Clearing.Yaml

/-- A token of a YAML text. -/
inductive Token where
  | version (major minor : Nat)
  | shorthand (handle : String) (expansion : Address)
  | documentStart
  | documentEnd
  | sequenceStart
  | mappingStart
  | blockEnd
  | flowSequenceStart
  | flowSequenceEnd
  | flowMappingStart
  | flowMappingEnd
  | entry
  | separator
  | key
  | value
  | alias (name : String)
  | anchor (name : String)
  | tag (handle : String) (suffix : Address)
  | scalar (style : ScalarStyle) (text : String)
deriving DecidableEq

/-! ## Reading a text -/

/-- What may turn out to be a key: the number of tokens before it, where it begins, and whether nothing else can
stand there. -/
structure KeyCandidate where
  position : Nat
  mark : Mark
  required : Bool

/-- The state of reading: the place in the text, the tokens so far, the columns of the open collections from the
innermost (the outermost is no collection), whether a key may begin, and the candidates for keys: one for the
innermost pair of brackets and one for each level around it. -/
structure Reading where
  cursor : Cursor
  tokens : Array Token := #[]
  indent : Int := -1
  outerIndents : List Int := []
  keyAllowed : Bool := true
  candidate : Option KeyCandidate := none
  outerCandidates : List (Option KeyCandidate) := []

namespace Reading

/-- Whether the place is inside brackets. -/
def inFlow (r : Reading) : Bool := !r.outerCandidates.isEmpty

/-- The column of the place. -/
def column (r : Reading) : Nat := r.cursor.mark.column

/-- The state with one more token, read up to a place. -/
def emit (r : Reading) (t : Token) (c : Cursor) : Reading := { r with tokens := r.tokens.push t, cursor := c }

/-- The state with one more token of so many characters. -/
def emitMark (r : Reading) (t : Token) (width : Nat := 1) : Reading := r.emit t (r.cursor.skip width)

/-! ## Candidates for keys -/

/-- Gives up the candidate; one that has to be a key may not be given up. -/
def dropCandidate? (r : Reading) : Option Reading :=
  if r.candidate.any (·.required) then none else some { r with candidate := none }

/-- Takes the place as a candidate, if a key may begin there. It has to be one at the column of the collection. -/
def takeCandidate? (r : Reading) : Option Reading :=
  if r.keyAllowed then do
    let r ← r.dropCandidate?
    some { r with candidate := some {
      position := r.tokens.size
      mark := r.cursor.mark
      required := !r.inFlow && r.indent == r.column } }
  else some r

/-- The longest distance between the start of a key and its colon, in bytes. -/
def maxKeyLength : Nat := 1024

/-- What is left of a candidate at a place: nothing on another line or too far away, where a candidate that has
to be a key may not lie. -/
def stillCandidate? (m : Mark) : Option KeyCandidate → Option (Option KeyCandidate)
  | none => some none
  | some k =>
    if k.mark.line < m.line ∨ k.mark.bytes + maxKeyLength < m.bytes then
      if k.required then none else some none
    else some (some k)

/-- Gives up all candidates that can no longer be keys. -/
def dropStale? (r : Reading) : Option Reading := do
  let candidate ← stillCandidate? r.cursor.mark r.candidate
  let outerCandidates ← r.outerCandidates.mapM (stillCandidate? r.cursor.mark)
  some { r with candidate, outerCandidates }

/-! ## Collections by indentation -/

/-- Closes the collections that are indented deeper than a column. -/
def closeFrom (column : Int) : (indent : Int) → List Int → Array Token → Int × List Int × Array Token
  | indent, [], tokens => (indent, [], tokens)
  | indent, outer :: rest, tokens =>
    if column < indent then closeFrom column outer rest (tokens.push .blockEnd)
    else (indent, outer :: rest, tokens)

/-- Closes the collections that are indented deeper than a column; inside brackets there are none. -/
def closeTo (r : Reading) (column : Int) : Reading :=
  if r.inFlow then r
  else
    let (indent, outerIndents, tokens) := closeFrom column r.indent r.outerIndents r.tokens
    { r with indent, outerIndents, tokens }

/-- Opens a collection at a column deeper than the last one, with its mark in front of the token at `position`. -/
def openAt (r : Reading) (start : Token) (column position : Nat) : Reading :=
  if r.inFlow || decide ((column : Int) ≤ r.indent) then r
  else { r with
    indent := column
    outerIndents := r.indent :: r.outerIndents
    tokens := r.tokens.insertIdxIfInBounds position start }

/-! ## Between tokens -/

/-- Skips blanks, comments and line ends. A line end allows a key outside brackets; tabs are skipped only where
no key may begin; a byte order mark may begin a line. Tells whether a key may begin, and where. -/
def skipGaps (inFlow keyAllowed comment : Bool) (m : Mark) : List Char → Bool × Cursor
  | [] => (keyAllowed, { mark := m, rest := [] })
  | '\r' :: '\n' :: rest => skipGaps inFlow (keyAllowed || !inFlow) false m.nextLine rest
  | c :: rest =>
    if isBreak c then skipGaps inFlow (keyAllowed || !inFlow) false m.nextLine rest
    else if comment || c == '#' then skipGaps inFlow keyAllowed true (m.next c) rest
    else if c == ' ' || (c == '\t' && (inFlow || !keyAllowed)) || (c == '\ufeff' && m.column == 0) then
      skipGaps inFlow keyAllowed false (m.next c) rest
    else (keyAllowed, { mark := m, rest := c :: rest })

/-- The state at the next token. -/
def toToken (r : Reading) : Reading :=
  let (keyAllowed, cursor) := skipGaps r.inFlow r.keyAllowed false r.cursor.mark r.cursor.rest
  { r with keyAllowed, cursor }

/-! ## Marks -/

/-- Reads a mark that starts or ends a document. -/
def documentMark? (r : Reading) (t : Token) : Option Reading := do
  let r ← (r.closeTo (-1)).dropCandidate?
  some { r.emitMark t 3 with keyAllowed := false }

/-- Reads an opening bracket. -/
def open? (r : Reading) (t : Token) : Option Reading := do
  let r ← r.takeCandidate?
  some { r.emitMark t with
    keyAllowed := true, candidate := none, outerCandidates := r.candidate :: r.outerCandidates }

/-- Reads a closing bracket. -/
def close? (r : Reading) (t : Token) : Option Reading := do
  let r ← r.dropCandidate?
  match r.outerCandidates with
  | [] => some { r.emitMark t with keyAllowed := false }
  | candidate :: rest =>
    some { r.emitMark t with keyAllowed := false, candidate, outerCandidates := rest }

/-- Reads a comma between members. -/
def separator? (r : Reading) : Option Reading := do
  let r ← r.dropCandidate?
  some { r.emitMark .separator with keyAllowed := true }

/-- Opens a collection at the place, where outside brackets a key has to be allowed. -/
def openHere? (r : Reading) (start : Token) : Option Reading :=
  if r.inFlow then some r
  else if r.keyAllowed then some (r.openAt start r.column r.tokens.size)
  else none

/-- Reads a dash in front of an item. -/
def entry? (r : Reading) : Option Reading := do
  let r ← (← r.openHere? .sequenceStart).dropCandidate?
  some { r.emitMark .entry with keyAllowed := true }

/-- Reads a question mark in front of a key. -/
def key? (r : Reading) : Option Reading := do
  let r ← (← r.openHere? .mappingStart).dropCandidate?
  some { r.emitMark .key with keyAllowed := !r.inFlow }

/-- Reads a colon in front of a value. The candidate, if there is one, is its key. -/
def value? (r : Reading) : Option Reading :=
  match r.candidate with
  | some k =>
    let r := { r with tokens := r.tokens.insertIdxIfInBounds k.position .key, candidate := none }
    some { (r.openAt .mappingStart k.mark.column k.position).emitMark .value with keyAllowed := false }
  | none => do
    let r ← r.openHere? .mappingStart
    some { r.emitMark .value with keyAllowed := !r.inFlow }

/-! ## Properties -/

/-- Characters that may follow the name of an anchor. -/
def endsName (cs : List Char) : Bool :=
  startsGap cs || cs.head?.any fun c => ['?', ':', ',', ']', '\x7d', '%', '@', '\x60'].contains c

/-- Reads an anchor or an alias. -/
def anchor? (r : Reading) (token : String → Token) : Option Reading := do
  let r ← r.takeCandidate?
  let c := r.cursor.skip 1
  let name := c.rest.takeWhile isNameChar
  let c := c.skip name.length
  if name.isEmpty || !endsName c.rest then none
  else some { r.emit (token (String.ofList name)) c with keyAllowed := false }

/-- The address of a tag, with what stands before it, and the place behind it. It may not be empty. -/
def tagAddress? (verbatim : Bool) (head : List Char) (c : Cursor) : Option (Address × Cursor) := do
  let raw := c.rest.takeWhile (Address.isTagChar verbatim)
  if head.isEmpty && raw.isEmpty then none
  else some (← Address.read? (head.drop 1 ++ raw), c.skip raw.length)

/-- The handle of a tag: an exclamation mark, a name, and an exclamation mark if one follows. -/
def tagHandle? (c : Cursor) : Option (List Char × Cursor) :=
  match c.rest with
  | '!' :: rest =>
    let name := rest.takeWhile isNameChar
    let closing := (rest.drop name.length).head? == some '!'
    let handle := '!' :: name ++ (if closing then ['!'] else [])
    some (handle, c.skip handle.length)
  | _ => none

/-- Whether a handle is one of its own, and not the start of an address. -/
def isHandle (cs : List Char) : Bool := 1 < cs.length && cs.getLast? == some '!'

/-- The handle and the rest of a tag, and the place behind it. A tag of which nothing is left is an exclamation
mark. -/
def tagParts? (c : Cursor) : Option (String × Address × Cursor) := do
  match c.rest with
  | '!' :: '<' :: _ =>
    let (address, c) ← tagAddress? true [] (c.skip 2)
    if c.rest.head? == some '>' then some ("", address, c.skip 1) else none
  | _ =>
    let (handle, c) ← tagHandle? c
    if isHandle handle then
      let (address, c) ← tagAddress? false [] c
      some (String.ofList handle, address, c)
    else
      let (address, c) ← tagAddress? false handle c
      if address.isEmpty then some ("", .nonSpecific, c) else some ("!", address, c)

/-- Reads a tag. -/
def tag? (r : Reading) : Option Reading := do
  let r ← r.takeCandidate?
  let (handle, suffix, c) ← tagParts? r.cursor
  if startsGap c.rest || (r.inFlow && c.rest.head? == some ',') then
    some { r.emit (.tag handle suffix) c with keyAllowed := false }
  else none

/-! ## Scalars -/

/-- Reads a scalar in quotes. -/
def quotedScalar? (r : Reading) (double : Bool) : Option Reading := do
  let r ← r.takeCandidate?
  let c := r.cursor.skip 1
  let (text, c) ←
    if double then doubleQuoted? [] {} c.mark c.rest else singleQuoted? [] {} c.mark c.rest
  some { r.emit (.scalar .quoted (String.ofList text)) c with keyAllowed := false }

/-- Reads a plain scalar. A line end behind it allows a key. -/
def plainScalar? (r : Reading) : Option Reading := do
  let r ← r.takeCandidate?
  let (text, lineEnded, c) ← plain? r.inFlow (r.indent + 1) [] {} r.cursor.mark r.cursor.rest
  some { r.emit (.scalar .plain (String.ofList text)) c with keyAllowed := lineEnded }

/-- Reads a scalar that is a block of lines. -/
def blockScalar? (r : Reading) (folded : Bool) : Option Reading := do
  let r ← r.dropCandidate?
  let (text, c) ← block? folded r.indent (r.cursor.skip 1)
  let style : ScalarStyle := if folded then .folded else .literal
  some { r.emit (.scalar style (String.ofList text)) c with keyAllowed := true }

/-! ## Directives -/

/-- A number of a version: at most nine digits. -/
def versionNumber? (c : Cursor) : Option (Nat × Cursor) := do
  let ds := c.rest.takeWhile Char.isDigit
  if 9 < ds.length then none else some (← Digits.readNat? ds, c.skip ds.length)

/-- The version that a text has to be read by. -/
def version? (c : Cursor) : Option (Token × Cursor) := do
  let (major, c) ← versionNumber? c.skipBlanks
  if c.rest.head? != some '.' then none
  else
    let (minor, c) ← versionNumber? (c.skip 1)
    some (.version major minor, c)

/-- A shorthand for the addresses of tags. -/
def shorthand? (c : Cursor) : Option (Token × Cursor) := do
  let (handle, c) ← tagHandle? c.skipBlanks
  if !(isHandle handle || handle == ['!']) || !(c.rest.head?.any isBlank) then none
  else
    let (address, c) ← tagAddress? true [] c.skipBlanks
    if startsGap c.rest then some (.shorthand (String.ofList handle) address, c) else none

/-- Reads a directive, which takes a line of its own. -/
def directive? (r : Reading) : Option Reading := do
  let r ← (r.closeTo (-1)).dropCandidate?
  let c := r.cursor.skip 1
  let name := c.rest.takeWhile isNameChar
  let c := c.skip name.length
  if !startsGap c.rest then none
  else
    let (token, c) ← match String.ofList name with
      | "YAML" => version? c
      | "TAG" => shorthand? c
      | _ => none
    if c.endsLine then some { r.emit token c with keyAllowed := false } else none

/-! ## All tokens -/

/-- Reads the next token, which begins with the first of these characters. -/
def step? (r : Reading) : List Char → Option Reading
  | [] => none
  | c :: rest =>
    if r.column = 0 && c == '%' then r.directive?
    else if r.column = 0 && startsMarker (c :: rest) then
      r.documentMark? (if c == '-' then .documentStart else .documentEnd)
    else
      let spaced := startsGap rest
      match c with
      | '[' => r.open? .flowSequenceStart
      | '\x7b' => r.open? .flowMappingStart
      | ']' => r.close? .flowSequenceEnd
      | '\x7d' => r.close? .flowMappingEnd
      | ',' => r.separator?
      | '*' => r.anchor? .alias
      | '&' => r.anchor? .anchor
      | '!' => r.tag?
      | '\'' => r.quotedScalar? false
      | '"' => r.quotedScalar? true
      | _ =>
        if c == '-' && spaced then r.entry?
        else if c == '?' && (r.inFlow || spaced) then r.key?
        else if c == ':' && (r.inFlow || spaced) then r.value?
        else if (c == '|' || c == '>') && !r.inFlow then r.blockScalar? (c == '>')
        else if mayBeginPlain r.inFlow (c :: rest) then r.plainScalar?
        else none

/-- Reads all tokens; `fuel` exceeds their number. -/
def readAll? : (fuel : Nat) → Reading → Option (Array Token)
  | 0, _ => none
  | fuel + 1, r => do
    let r ← r.toToken.dropStale?
    let r := r.closeTo r.column
    if r.cursor.rest.isEmpty then return (← (r.closeTo (-1)).dropCandidate?).tokens
    else readAll? fuel (← r.step? r.cursor.rest)

end Reading

/-- The tokens of a text. -/
def tokens? (text : String) : Option (List Token) :=
  let cs := text.toList
  if cs.all isPrintable then
    (Reading.readAll? (cs.length + 1) { cursor := { rest := cs } }).map Array.toList
  else none

end Clearing.Yaml
