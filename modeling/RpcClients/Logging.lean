import RpcClients.Failure
import RpcClients.Text.Split
import RpcClients.Text.Terminal

/-! # Log lines

What a run logs up to a failure stays logged. -/

namespace RpcClients

inductive LogLevel where
  | debug | info
deriving DecidableEq, Repr

def LogLevel.name : LogLevel → String
  | debug => "DEBUG"
  | info => "INFO"

structure LogLine where
  level : LogLevel
  message : String
deriving DecidableEq, Repr

namespace LogLine

/-- The level in a column of eight characters, and the message beside it. -/
def text (line : LogLine) : String :=
  let name := line.level.name
  let margin := String.ofList (List.replicate 9 ' ')
  name ++ String.ofList (List.replicate (9 - name.length) ' ') ++
    String.intercalate ("\n" ++ margin) (Text.split '\n' (Text.Terminal.shown line.message))

/-- Debug lines are shown on request only. -/
def isShown (verbose : Bool) (line : LogLine) : Bool := verbose || line.level = .info

def shown (verbose : Bool) (lines : List LogLine) : String :=
  String.join ((lines.filter (isShown verbose)).map fun line => line.text ++ "\n")

end LogLine

abbrev Logged := ExceptT Failure (StateM (List LogLine))

namespace Logged

def ofExcept {α : Type} : Except Failure α → Logged α
  | .error failure => throw failure
  | .ok value => return value

def lines (lines : List LogLine) : Logged Unit := modify (· ++ lines)

def debug (message : String) : Logged Unit := lines [⟨.debug, message⟩]

def info (message : String) : Logged Unit := lines [⟨.info, message⟩]

end Logged

/-! ## Loggers -/

def programName : String := "apiclientgen"

/-- The logger of a module: the last part of the module's name under the name of the program. -/
def loggerName : Option String → String
  | none => programName
  | some module =>
    if module = programName then programName
    else programName ++ "." ++ String.ofList (Text.afterLast '.' module.toList)

/-- The settings of the program's logger: its level, the levels of its handlers, and whether its lines
are passed on to other loggers. -/
structure LoggerSettings where
  level : LogLevel
  handlers : List LogLevel
  propagate : Bool
deriving DecidableEq, Repr

/-- One handler, however often the logger was set up before. -/
def LoggerSettings.ofVerbose (verbose : Bool) : LoggerSettings :=
  let level : LogLevel := if verbose then .debug else .info
  { level, handlers := [level], propagate := false }

end RpcClients
