import BindingGen.Text.Literal

/-!
# Log events

What a program notes on its way.  An event is shown when its level is at most the threshold.
-/

namespace BindingGen
namespace Log

/-- Levels from the most to the least important; nothing passes the threshold `off`. -/
inductive Level where
  | off
  | error
  | warn
  | info
  | debug
  | trace
  deriving DecidableEq, Repr, Inhabited

def Level.rank : Level → Nat
  | off => 0
  | error => 1
  | warn => 2
  | info => 3
  | debug => 4
  | trace => 5

def Level.text : Level → String
  | off => "OFF"
  | error => "ERROR"
  | warn => "WARN"
  | info => "INFO"
  | debug => "DEBUG"
  | trace => "TRACE"

structure Event where
  level : Level
  message : String
  fields : List (String × String)
  deriving DecidableEq, Repr

/-- The line of an event. -/
def Event.line (event : Event) : String :=
  event.level.text ++ " " ++ event.message ++
    String.join (event.fields.map fun (name, value) => s!" {name}={value}")

def Event.passes (threshold : Level) (event : Event) : Bool :=
  event.level.rank ≤ threshold.rank

/-- The threshold that a text names: a level in letters of any case or by its rank.  An empty
text names the level of errors, and any other text lets nothing pass. -/
def thresholdOfText (text : String) : Level :=
  let lowered := String.ofList (text.toList.map Char.toLower)
  match [Level.off, .error, .warn, .info, .debug, .trace].find? fun level =>
      String.ofList (level.text.toList.map Char.toLower) == lowered
        || toString level.rank == text with
  | some level => level
  | none => if text.isEmpty then .error else .off

end Log
end BindingGen
