/-!
# Writing indented source text

A writer collects lines at a depth of nested blocks.  Each level of depth indents by four
spaces, an empty line is left without indentation, and the text is complete only when every
block has been closed.
-/

namespace BindingGen

/-- The characters that end every line of a generated file. -/
inductive LineEnding where
  | lf
  | crlf
  deriving DecidableEq, Repr, Inhabited

def LineEnding.text : LineEnding → String
  | lf => "\n"
  | crlf => "\r\n"

structure Writer where
  ending : LineEnding
  depth : Nat
  text : String
  deriving DecidableEq, Repr

namespace Writer

inductive Fault where
  /-- A block was closed that is not open. -/
  | underflow
  /-- The text ended inside this many blocks. -/
  | unbalanced (depth : Nat)
  deriving DecidableEq, Repr

def Fault.message : Fault → String
  | .underflow => "indentation popped below zero"
  | .unbalanced depth => s!"output ended with {depth} unclosed indentation level(s)"

/-- The writer of an empty text. -/
def empty (ending : LineEnding) : Writer :=
  ⟨ending, 0, ""⟩

/-- The spaces in front of a line at some depth. -/
def indentation (depth : Nat) : String :=
  String.ofList (List.replicate (4 * depth) ' ')

def line (w : Writer) (content : String) : Writer :=
  if content.isEmpty then { w with text := w.text ++ w.ending.text }
  else { w with text := w.text ++ indentation w.depth ++ content ++ w.ending.text }

def openBlock (w : Writer) : Writer :=
  let w := w.line "\x7b"
  { w with depth := w.depth + 1 }

/-- Leaves the innermost block.  The writer that comes with the outcome is the one that a client
has afterwards, also when no block is open. -/
def popIndent (w : Writer) : Except Fault Unit × Writer :=
  match w.depth with
  | 0 => (.error .underflow, w)
  | depth + 1 => (.ok (), { w with depth })

/-- Closes the innermost block of a client's writer. -/
def tryClose (w : Writer) : Except Fault Unit × Writer :=
  match w.popIndent with
  | (.error fault, w) => (.error fault, w)
  | (.ok (), w) => (.ok (), w.line "\x7d")

/-- Closes the innermost block, for a client that gives up when this fails. -/
def closeBlock (w : Writer) : Except Fault Writer :=
  match w.tryClose with
  | (.error fault, _) => .error fault
  | (.ok (), next) => .ok next

/-- The text, once every block is closed. -/
def finish (w : Writer) : Except Fault String :=
  if w.depth = 0 then .ok w.text else .error (.unbalanced w.depth)

end Writer
end BindingGen
