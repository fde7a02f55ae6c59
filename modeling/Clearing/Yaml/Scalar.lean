import Clearing.Digits
import Clearing.Yaml.Cursor

/-!
# Scalars

A scalar is a text written plainly, in single or double quotes, or as a block of lines behind a bar or an angle
bracket. Inside the first three a run of blanks and line ends is folded: blanks alone stay, one line end becomes
a space, and further line ends are kept. Each reader gives the text and where it goes on.
-/

namespace Clearing.Yaml

/-- How a scalar is written. -/
inductive ScalarStyle where
  | plain
  | quoted
  | literal
  | folded
deriving DecidableEq

/-! ## Gaps between words -/

/-- A run of blanks and line ends: the blanks before its first line end, that line end, and those after it. -/
structure Gap where
  blanks : List Char := []
  first : Option (List Char) := none
  more : List Char := []

namespace Gap

/-- The run with one blank more; only those before a line end matter. -/
def addBlank (g : Gap) (c : Char) : Gap := if g.first.isSome then g else { g with blanks := g.blanks ++ [c] }

/-- The run with one line end more. -/
def addBreak (g : Gap) (kept : Char) : Gap :=
  match g.first with
  | none => { first := some [kept] }
  | some _ => { g with more := g.more ++ [kept] }

/-- The run that begins with a line end behind a backslash, which leaves nothing. -/
def escaped : Gap := { first := some [] }

/-- Whether there is nothing in the run. -/
def isEmpty (g : Gap) : Bool := g.blanks.isEmpty && g.first.isNone

/-- What stands for the run in the scalar. -/
def text (g : Gap) : List Char :=
  match g.first with
  | none => g.blanks
  | some ['\n'] => if g.more.isEmpty then [' '] else g.more
  | some first => first ++ g.more

/-- A text from its end, with what stands for the run behind it. -/
def behind (g : Gap) (back : List Char) : List Char := g.text.reverseAux back

end Gap

/-! ## Quoted scalars -/

/-- Reads on in a single-quoted scalar, behind a text, given from its end, and a run of blanks and line ends. Two
quotes stand for one; a mark of a document may not begin a line. -/
def singleQuoted? (back : List Char) (gap : Gap) (m : Mark) : List Char → Option (List Char × Cursor)
  | [] => none
  | '\r' :: '\n' :: rest => singleQuoted? back (gap.addBreak '\n') m.nextLine rest
  | '\'' :: '\'' :: rest => singleQuoted? ('\'' :: gap.behind back) {} (m.past ['\'', '\'']) rest
  | c :: rest =>
    if m.column = 0 && startsMarker (c :: rest) then none
    else if isBlank c then singleQuoted? back (gap.addBlank c) (m.next c) rest
    else if isBreak c then singleQuoted? back (gap.addBreak (keptBreak c)) m.nextLine rest
    else if c == '\'' then some ((gap.behind back).reverse, { mark := m.next c, rest })
    else singleQuoted? (c :: gap.behind back) {} (m.next c) rest

/-- The character behind a backslash, for the escapes of one letter. -/
def escapeLetter? : Char → Option Char
  | '0' => some '\x00'
  | 'a' => some '\x07'
  | 'b' => some '\x08'
  | 't' | '\t' => some '\t'
  | 'n' => some '\n'
  | 'v' => some '\x0b'
  | 'f' => some '\x0c'
  | 'r' => some '\r'
  | 'e' => some '\x1b'
  | ' ' => some ' '
  | '"' => some '"'
  | '/' => some '/'
  | '\\' => some '\\'
  | 'N' => some '\u0085'
  | '_' => some '\u00a0'
  | 'L' => some '\u2028'
  | 'P' => some '\u2029'
  | _ => none

/-- The number of hexadecimal digits behind the letter of an escape by code. -/
def codeLength : Char → Nat
  | 'x' => 2
  | 'u' => 4
  | 'U' => 8
  | _ => 0

/-- The character with a code, if there is one. -/
def charOfCode? (code : Nat) : Option Char := if code.isValidChar then some (Char.ofNat code) else none

/-- The character that a letter behind a backslash stands for, with the digits that follow it. -/
def escape? (letter : Char) (rest : List Char) : Option Char :=
  match codeLength letter with
  | 0 => escapeLetter? letter
  | n => if rest.length < n then none else (Digits.readHex? (rest.take n)).bind charOfCode?

/-- Reads on in a double-quoted scalar, behind a text, given from its end, and a run of blanks and line ends. -/
def doubleQuoted? (back : List Char) (gap : Gap) (m : Mark) : List Char → Option (List Char × Cursor)
  | [] => none
  | '\r' :: '\n' :: rest => doubleQuoted? back (gap.addBreak '\n') m.nextLine rest
  | '\\' :: '\r' :: '\n' :: rest => doubleQuoted? (gap.behind back) Gap.escaped m.nextLine rest
  | '\\' :: l :: rest =>
    if isBreak l then doubleQuoted? (gap.behind back) Gap.escaped m.nextLine rest
    else
      match escape? l rest with
      | none => none
      | some c =>
        let width := codeLength l
        doubleQuoted? (c :: gap.behind back) {} (m.past ('\\' :: l :: rest.take width)) (rest.drop width)
  | c :: rest =>
    if m.column = 0 && startsMarker (c :: rest) then none
    else if isBlank c then doubleQuoted? back (gap.addBlank c) (m.next c) rest
    else if isBreak c then doubleQuoted? back (gap.addBreak (keptBreak c)) m.nextLine rest
    else if c == '"' then some ((gap.behind back).reverse, { mark := m.next c, rest })
    else if c == '\\' then none
    else doubleQuoted? (c :: gap.behind back) {} (m.next c) rest
termination_by cs => cs.length
decreasing_by all_goals simp only [List.length_cons, List.length_drop]; omega

/-! ## Plain scalars -/

/-- Characters that may begin nothing but a quoted scalar, a collection, a comment or a property. -/
def indicators : List Char :=
  [',', '[', ']', '\x7b', '\x7d', '#', '&', '*', '!', '|', '>', '\'', '"', '%', '@', '\x60']

/-- Whether a plain scalar may begin like this. A dash needs something behind it that is no blank; so do a
question mark and a colon, and in brackets they may not begin one. -/
def mayBeginPlain (inFlow : Bool) : List Char → Bool
  | [] => false
  | '-' :: rest => !(rest.head?.any isBlank)
  | c :: rest =>
    if c == '?' || c == ':' then !inFlow && !startsGap rest
    else !isGap c && !indicators.contains c

/-- Whether a plain scalar ends before this text: at a colon that ends a key, or at a mark of the brackets. -/
def endsPlain (inFlow : Bool) : List Char → Bool
  | [] => true
  | c :: rest => (c == ':' && startsGap rest) || (inFlow && isFlowIndicator c)

/-- Whether a colon stands before a mark of the brackets around it, where it may not. -/
def isLoneColon (inFlow : Bool) : List Char → Bool
  | ':' :: c :: _ => inFlow && (isFlowIndicator c || c == '?')
  | _ => false

/-- Whether a plain scalar that has come to the end of a gap stops there: at a line that is not indented by
`indent`, at a mark of a document, or at a comment. -/
def stopsBehindGap (inFlow : Bool) (indent : Int) (m : Mark) (cs : List Char) : Bool :=
  (!inFlow && decide ((m.column : Int) < indent)) || (m.column = 0 && startsMarker cs) || cs.head? == some '#'

/-- Reads on in a plain scalar, behind a text, given from its end, and a gap. The truth value tells whether a line
ended behind the scalar. A tab may not stand in the indentation of a line. -/
def plain? (inFlow : Bool) (indent : Int) (back : List Char) (gap : Gap) (m : Mark) :
    List Char → Option (List Char × Bool × Cursor)
  | [] => some (back.reverse, gap.first.isSome, { mark := m, rest := [] })
  | '\r' :: '\n' :: rest => plain? inFlow indent back (gap.addBreak '\n') m.nextLine rest
  | c :: rest =>
    if isBlank c then
      if c == '\t' && gap.first.isSome && decide ((m.column : Int) < indent) then none
      else plain? inFlow indent back (gap.addBlank c) (m.next c) rest
    else if isBreak c then plain? inFlow indent back (gap.addBreak (keptBreak c)) m.nextLine rest
    else if !gap.isEmpty && stopsBehindGap inFlow indent m (c :: rest) then
      some (back.reverse, gap.first.isSome, { mark := m, rest := c :: rest })
    else if isLoneColon inFlow (c :: rest) then none
    else if endsPlain inFlow (c :: rest) then
      some (back.reverse, gap.first.isSome, { mark := m, rest := c :: rest })
    else plain? inFlow indent (c :: gap.behind back) {} (m.next c) rest

/-! ## Blocks of lines -/

/-- What becomes of the line ends at the end of a block: none, one or all of them are kept. -/
inductive Chomping where
  | strip
  | clip
  | keep
deriving DecidableEq

/-- Splits off a sign that says what becomes of the last line ends. -/
def takeChomping : List Char → Option Chomping × List Char
  | '+' :: rest => (some .keep, rest)
  | '-' :: rest => (some .strip, rest)
  | cs => (none, cs)

/-- Splits off a digit that says how far a block is indented; it may not be zero. -/
def takeIndentation? : List Char → Option (Option Nat × List Char)
  | [] => some (none, [])
  | c :: rest =>
    if c == '0' then none
    else if c.isDigit then some (some (c.toNat - '0'.toNat), rest)
    else some (none, c :: rest)

/-- Reads what stands behind the bar or bracket of a block: the two marks in either order. -/
def blockHeader? (cs : List Char) : Option (Chomping × Option Nat × List Char) :=
  match takeChomping cs with
  | (some chomping, rest) => do
    let (indentation, rest) ← takeIndentation? rest
    some (chomping, indentation, rest)
  | (none, _) => do
    match ← takeIndentation? cs with
    | (none, rest) => some (.clip, none, rest)
    | (some n, rest) =>
      let (chomping, rest) := takeChomping rest
      some (chomping.getD .clip, some n, rest)

/-- Reads line ends and the spaces that indent lines, up to `indent` of them, or all while it is zero. Gives the
widest indentation, the line ends, and where the next line with content begins. -/
def blockBreaks? (indent widest : Nat) (breaks : List Char) (m : Mark) :
    List Char → Option (Nat × List Char × Cursor)
  | [] => some (max widest m.column, breaks, { mark := m, rest := [] })
  | '\r' :: '\n' :: rest =>
    blockBreaks? indent (max widest m.column) (breaks ++ ['\n']) m.nextLine rest
  | c :: rest =>
    let short := indent == 0 || decide (m.column < indent)
    if c == ' ' && short then blockBreaks? indent widest breaks (m.next c) rest
    else if c == '\t' && short then none
    else if isBreak c then
      blockBreaks? indent (max widest m.column) (breaks ++ [keptBreak c]) m.nextLine rest
    else some (max widest m.column, breaks, { mark := m, rest := c :: rest })

/-- The lines of a block that were read: their text, the end of the last one, the empty lines after it, and
whether it begins with a blank. -/
structure BlockLines where
  text : List Char := []
  ending : List Char := []
  more : List Char := []
  indented : Bool := false

namespace BlockLines

/-- What stands between the lines that were read and the next one. In a folded block one line end becomes a
space, unless one of the lines around it begins with a blank. -/
def joint (b : BlockLines) (folded nextIndented : Bool) : List Char :=
  if folded && b.ending == ['\n'] && !b.indented && !nextIndented then
    if b.more.isEmpty then [' '] else b.more
  else b.ending ++ b.more

/-- The text with the line ends that are kept. -/
def chomped (b : BlockLines) : Chomping → List Char
  | .strip => b.text
  | .clip => b.text ++ b.ending
  | .keep => b.text ++ b.ending ++ b.more

end BlockLines

/-- Reads the lines that are indented by `indent`; `fuel` exceeds their number. -/
def blockLines? (folded : Bool) (indent : Nat) :
    (fuel : Nat) → BlockLines → Cursor → Option (BlockLines × Cursor)
  | 0, _, _ => none
  | fuel + 1, b, c =>
    if c.mark.column ≠ indent ∨ c.rest.isEmpty then some (b, c)
    else do
      let indented := c.rest.head?.any isBlank
      let line := c.rest.takeWhile (!isBreak ·)
      let (ending, c) := (c.skip line.length).takeBreak
      let (_, more, c) ← blockBreaks? indent 0 [] c.mark c.rest
      let text := b.text ++ b.joint folded indented ++ line
      blockLines? folded indent fuel { text, ending, more, indented } c

/-- Reads a block scalar behind its bar or bracket, inside a collection that is indented by `outer`. -/
def block? (folded : Bool) (outer : Int) (c : Cursor) : Option (List Char × Cursor) := do
  let (chomping, indentation, rest) ← blockHeader? c.rest
  let c := c.skip (c.rest.length - rest.length)
  if !c.endsLine then none
  else
    let (_, c) := (c.skipWhile (!isBreak ·)).takeBreak
    let given := match indentation with
      | none => 0
      | some n => (max outer 0).toNat + n
    let (widest, more, c) ← blockBreaks? given 0 [] c.mark c.rest
    let indent := if given = 0 then max (max widest (outer + 1).toNat) 1 else given
    let (b, c) ← blockLines? folded indent (c.rest.length + 1) { more } c
    some (b.chomped chomping, c)

end Clearing.Yaml
