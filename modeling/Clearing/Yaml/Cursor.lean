/-!
# Places in a YAML text

A YAML text is read from the left. A cursor is a place in it: its line, how far it is from the start of that
line, and what follows. Blanks are spaces and tabs; five characters end a line, and a carriage return before a
line feed belongs to it.
-/

namespace Clearing.Yaml

/-! ## Characters -/

/-- Whether a character may stand in a text: of the control characters only tabs and line ends. -/
def isPrintable (c : Char) : Bool :=
  let n := c.toNat
  n == 0x09 || n == 0x0a || n == 0x0d || (0x20 ≤ n && n ≤ 0x7e) || n == 0x85
    || (0xa0 ≤ n && n ≤ 0xd7ff) || (0xe000 ≤ n && n ≤ 0xfffd) || 0x10000 ≤ n

/-- Whether a character is a blank. -/
def isBlank (c : Char) : Bool := c == ' ' || c == '\t'

/-- Whether a character ends a line. -/
def isBreak (c : Char) : Bool := c == '\n' || c == '\r' || c == '\u0085' || c == '\u2028' || c == '\u2029'

/-- What stands in a scalar for a line end: a separator for lines or paragraphs itself, a line feed for others. -/
def keptBreak (c : Char) : Char := if c == '\u2028' || c == '\u2029' then c else '\n'

/-- Whether a character separates words. -/
def isGap (c : Char) : Bool := isBlank c || isBreak c

/-- Whether a text is over or goes on with a blank or a line end. -/
def startsGap : List Char → Bool
  | [] => true
  | c :: _ => isGap c

/-- Whether a text begins with a mark that starts or ends a document. -/
def startsMarker : List Char → Bool
  | '-' :: '-' :: '-' :: rest => startsGap rest
  | '.' :: '.' :: '.' :: rest => startsGap rest
  | _ => false

/-- Whether a character stands in names: letters, digits, hyphens and underscores of ASCII. -/
def isNameChar (c : Char) : Bool := c.isAlphanum || c == '-' || c == '_'

/-- Whether a character begins or ends a collection in brackets, or separates its members. -/
def isFlowIndicator (c : Char) : Bool := c == ',' || c == '[' || c == ']' || c == '\x7b' || c == '\x7d'

/-! ## Cursors -/

/-- A distance from the start of a text: the number of line ends, and what stands behind the last one, counted in
characters and in bytes of UTF-8. -/
structure Mark where
  line : Nat := 0
  column : Nat := 0
  bytes : Nat := 0

namespace Mark

/-- The mark behind the next character, which ends no line. -/
def next (m : Mark) (c : Char) : Mark := { m with column := m.column + 1, bytes := m.bytes + c.utf8Size }

/-- The mark behind characters, none of which ends a line. -/
def past (m : Mark) (cs : List Char) : Mark := cs.foldl next m

/-- The start of the next line. -/
def nextLine (m : Mark) : Mark := { line := m.line + 1 }

end Mark

/-- A mark and the text behind it. -/
structure Cursor where
  mark : Mark := {}
  rest : List Char

namespace Cursor

/-- The cursor so many characters further on the line. -/
def skip (c : Cursor) (n : Nat) : Cursor := { mark := c.mark.past (c.rest.take n), rest := c.rest.drop n }

/-- The cursor behind the characters that have a property, none of which ends a line. -/
def skipWhile (c : Cursor) (p : Char → Bool) : Cursor := c.skip (c.rest.takeWhile p).length

/-- The cursor behind the blanks that follow. -/
def skipBlanks (c : Cursor) : Cursor := c.skipWhile isBlank

/-- The line end that follows, as it is kept, and the cursor behind it; nothing if there is none. -/
def takeBreak (c : Cursor) : List Char × Cursor :=
  match c.rest with
  | '\r' :: '\n' :: rest => (['\n'], { mark := c.mark.nextLine, rest })
  | b :: rest =>
    if isBreak b then ([keptBreak b], { mark := c.mark.nextLine, rest }) else ([], c)
  | [] => ([], c)

/-- Whether nothing but blanks and a comment follows on the line. -/
def endsLine (c : Cursor) : Bool :=
  match c.skipBlanks.rest with
  | [] => true
  | d :: _ => isBreak d || d == '#'

end Cursor
end Clearing.Yaml
