import MarkerLint.Script.Grammar.Markup
import MarkerLint.Script.Grammar.Modules

namespace MarkerLint.Script

namespace Grammar

-- The grammar of phrases that are nested less than `depth` deep. A level is made only where a phrase is read.
def level : Nat → Grammar
  | 0 => empty
  | depth + 1 =>
    { statement := fun c s => (level depth).anyStatement c s
      assignment := fun returnType c s => (level depth).anyAssignment returnType c s
      binary := fun strength c s => (level depth).anyBinary strength c s
      unary := fun c s => (level depth).anyUnary c s
      constructed := fun c s => (level depth).anyConstructed c s
      type := fun c s => (level depth).anyType c s
      binding := fun c s => (level depth).anyBinding c s
      parameters := fun c s => (level depth).anyParameters c s
      markup := fun c s => (level depth).anyMarkup c s
      classTail := fun start c s => (level depth).anyClassTail start c s }

end Grammar

structure Parsed where
  program : Program
  recovered : Bool

def Grammar.script (g : Grammar) : Reader (List Stmt) :=
  Reader.many do
    if (← Reader.peek) == .eof then
      return none
    else
      return some (← g.statement)

-- Reads a script. No phrase is nested deeper than the script has characters, a few of its phrases apart that start
-- at the same one.
def parse (language : Language) (text : List Char) : Except SyntaxError Parsed :=
  let size := Text.bytes text
  let cursor := (Cursor.ofText text).skipHashbang
  let g := Grammar.level (8 * (text.length + 1))
  match g.script { language } { size, behind := cursor, next := cursor.next } with
  | .error e => .error e
  | .ok (statements, state) => .ok ⟨⟨⟨0, size⟩, Grammar.dropDirectives statements⟩, state.recovered⟩

end MarkerLint.Script
