import Rollout.Json.Printer

namespace Rollout

inductive Level where
  | trace
  | debug
  | info
  | warn
  | error
  deriving Repr, DecidableEq

namespace Level

def name : Level → String
  | trace => "TRACE"
  | debug => "DEBUG"
  | info => "INFO"
  | warn => "WARN"
  | error => "ERROR"

def rank : Level → Nat
  | trace => 0
  | debug => 1
  | info => 2
  | warn => 3
  | error => 4

end Level

-- What the program says about what it does.
structure LogEntry where
  level : Level
  message : String
  fields : List (String × String)
  deriving Repr, DecidableEq

-- How log entries are written.
inductive LogFormat where
  | text
  | json
  deriving Repr, DecidableEq

namespace LogFormat

-- Reads the word that the environment gives; text unless it asks for JSON.
def ofEnvironment (word : Option String) : LogFormat :=
  if (word.getD "").toLower = "json" then json else text

-- Writes an entry on one line.
def line (format : LogFormat) (entry : LogEntry) : String :=
  match format with
  | text =>
    " ".intercalate (entry.level.name :: entry.message
      :: entry.fields.map fun (key, value) => s!"{key}={value}")
  | json =>
    let fields := entry.fields.map fun (key, value) => (key, Json.text value)
    (Json.object [("fields", .object (("message", .text entry.message) :: fields)),
      ("level", .text entry.level.name)]).render

end LogFormat

end Rollout
