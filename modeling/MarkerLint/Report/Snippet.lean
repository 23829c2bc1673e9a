import MarkerLint.Text.Bytes
import MarkerLint.Text.DisplayWidth
import MarkerLint.Text.Span

namespace MarkerLint.Report

structure RegionScan where
  offset : Nat := 0
  -- Starts of the lines before the span that are to be shown, oldest first.
  before : List Nat := []
  lineStart : Nat := 0
  ends : Nat := 0
  passed : Bool := false
  lineEnded : Bool := false
  skippedLines : Nat := 0
  column : Nat := 0
  stopped : Bool := false
  deriving Inhabited, Repr

namespace RegionScan

-- The offset of the last byte of a span, or of where an empty span is.
def lastByte (span : Span) : Nat :=
  span.start + span.length - 1

-- Counts a byte; behind the span, and behind enough lines, it is the last one.
def countByte (context : Nat) (span : Span) (s : RegionScan) : RegionScan :=
  if lastByte span ≤ s.offset then
    { s with passed := true, offset := s.offset + 1, stopped := context ≤ s.ends }
  else
    { s with offset := s.offset + 1 }

def endLine (context : Nat) (span : Span) (s : RegionScan) : RegionScan :=
  let s :=
    if s.offset < span.start then
      let before := s.before ++ [s.lineStart]
      if context < before.length then
        { s with column := 0, before := before.drop 1, skippedLines := s.skippedLines + 1 }
      else
        { s with column := 0, before }
    else if span.start + (span.length - 1) ≤ s.offset && s.passed then
      let s := if s.lineEnded then { s with ends := s.ends + 1 } else { s with lineEnded := true }
      { s with column := 0, stopped := context ≤ s.ends }
    else
      s
  if s.stopped then
    { s with offset := s.offset + 1 }
  else
    countByte context span { s with lineStart := s.offset + 1 }

def plainByte (context : Nat) (span : Span) (s : RegionScan) : RegionScan :=
  countByte context span (if s.offset < span.start then { s with column := s.column + 1 } else s)

def plainBytes (context : Nat) (span : Span) : Nat → RegionScan → RegionScan
  | 0, s => s
  | n + 1, s => if s.stopped then s else plainBytes context span n (plainByte context span s)

def run (context : Nat) (span : Span) : List Char → RegionScan → RegionScan
  | [], s => s
  | c :: '\n' :: rest, s =>
    if s.stopped then s
    else if c = '\r' then run context span rest (endLine context span { s with offset := s.offset + 1 })
    else if c = '\n' then run context span ('\n' :: rest) (endLine context span s)
    else run context span ('\n' :: rest) (plainBytes context span c.utf8Size s)
  | c :: rest, s =>
    if s.stopped then s
    else if c = '\r' || c = '\n' then run context span rest (endLine context span s)
    else run context span rest (plainBytes context span c.utf8Size s)

end RegionScan

structure Region where
  span : Span
  skippedLines : Nat
  column : Nat
  deriving Inhabited, Repr

-- The lines of a span with some more around it. There are none if the span goes beyond the text.
def Region.around? (context : Nat) (span : Span) (text : List Char) : Option Region :=
  let s := RegionScan.run context span text {}
  if RegionScan.lastByte span ≤ s.offset then
    let start := s.before.head?.getD (if context = 0 then span.start else 0)
    some ⟨⟨start, s.offset⟩, s.skippedLines, s.column⟩
  else
    none

structure Line where
  number : Nat
  span : Span
  text : List Char
  deriving Inhabited, Repr

-- Cuts a text into lines at `\n` and `\r\n`. What is left at the end is a line unless it is empty.
def linesOf (number offset : Nat) (start : Nat) (read : List Char) : List Char → List Line
  | [] => []
  | '\n' :: rest =>
    ⟨number, ⟨start, offset + 1⟩, read.reverse⟩ :: linesOf (number + 1) (offset + 1) (offset + 1) [] rest
  | '\r' :: '\n' :: rest =>
    ⟨number, ⟨start, offset + 2⟩, read.reverse⟩ :: linesOf (number + 1) (offset + 2) (offset + 2) [] rest
  -- A carriage return that ends the text does not begin a line of its own number.
  | ['\r'] => [⟨number - 1, ⟨start, offset + 1⟩, ('\r' :: read).reverse⟩]
  | [c] => [⟨number, ⟨start, offset + c.utf8Size⟩, (c :: read).reverse⟩]
  | c :: rest => linesOf number (offset + c.utf8Size) start (c :: read) rest

namespace Line

def touches (line : Line) (span : Span) : Bool :=
  let stop := if span.start = span.stop then span.start + 1 else span.stop
  (line.span.start ≤ span.start && span.start < line.span.stop) ||
    (span.start < line.span.start && line.span.stop < stop) ||
    (line.span.start < stop && stop ≤ line.span.stop)

def holds (line : Line) (span : Span) : Bool :=
  line.span.start ≤ span.start && span.stop ≤ line.span.stop

end Line

def tabWidth : Nat := 4

-- The column behind a text that begins at a column. Escape sequences of terminals take no room.
def columnAfter (column : Nat) (escaped : Bool) : List Char → Nat
  | [] => column
  | c :: rest =>
    if escaped then columnAfter column (c != 'm') rest
    else if c = '\t' then columnAfter (column + (tabWidth - column % tabWidth)) false rest
    else if c = '\x1b' then columnAfter column true rest
    else columnAfter (column + Text.displayWidth c) false rest

def expandTabs (column : Nat) (escaped : Bool) : List Char → List Char
  | [] => []
  | c :: rest =>
    if escaped then c :: expandTabs column (c != 'm') rest
    else if c = '\t' then
      let width := tabWidth - column % tabWidth
      List.replicate width ' ' ++ expandTabs (column + width) false rest
    else if c = '\x1b' then c :: expandTabs column true rest
    else c :: expandTabs (column + Text.displayWidth c) false rest

-- The characters that begin before a number of bytes; with `whole`, only those that also end there.
def takeBytes (whole : Bool) : Nat → List Char → List Char
  | 0, _ => []
  | _ + 1, [] => []
  | n + 1, c :: cs =>
    if whole && n + 1 < c.utf8Size then [] else c :: takeBytes whole (n + 1 - c.utf8Size) cs

-- The column of an offset in a line. A cut character counts for an end, but not for a start, and an offset in the
-- line break is one column behind the text.
def Line.column (line : Line) (offset : Nat) (isStart : Bool) : Nat :=
  let index := offset - line.span.start
  let width := columnAfter 0 false (takeBytes isStart index line.text)
  if Text.bytes line.text < index then width + 1 else width

end MarkerLint.Report
