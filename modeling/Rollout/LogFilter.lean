import Rollout.Log

namespace Rollout

-- Which log entries are shown: for parts of the program, the lowest level that is; none shows
-- nothing.
structure LogFilter where
  rules : List (String × Option Level)
  deriving Repr, DecidableEq

namespace LogFilter

def standard : LogFilter := ⟨[("", some .info)]⟩

def level? (word : String) : Option (Option Level) :=
  match word.toLower with
  | "off" | "0" => some none
  | "error" | "1" => some (some .error)
  | "warn" | "2" => some (some .warn)
  | "info" | "3" => some (some .info)
  | "debug" | "4" => some (some .debug)
  | "trace" | "5" => some (some .trace)
  | _ => none

def isTargetChar (c : Char) : Bool := c.isAlphanum || c = '_' || c = ':' || c = '-'

-- One rule: a level, a part, or a part and its level.
def rule? (text : String) : Option (String × Option Level) :=
  match level? text with
  | some level => some ("", level)
  | none =>
    match text.splitOn "=" with
    | [target] => if target.toList.all isTargetChar then some (target, some .trace) else none
    | [target, level] =>
      if target.toList.all isTargetChar then (level? level).map fun level => (target, level)
      else none
    | _ => none

-- Reads rules between commas; without any only errors are shown.
def parse? (text : String) : Option LogFilter :=
  let parts := (text.splitOn ",").filter fun part => !part.isEmpty
  if parts.isEmpty then some ⟨[("", some .error)]⟩
  else (parts.mapM rule?).map fun rules => ⟨rules⟩

-- Reads the rules that the environment gives, if they are in order.
def ofEnvironment (rules : Option String) : LogFilter :=
  ((rules.bind parse?)).getD standard

-- Whether an entry of a part is shown. The rule for the longest name that the part's name begins
-- with decides, and of several the last.
def shows (filter : LogFilter) (target : String) (level : Level) : Bool :=
  let better (best : Option (String × Option Level)) (rule : String × Option Level) :=
    if target.startsWith rule.1 then
      match best with
      | some old => if old.1.length ≤ rule.1.length then some rule else best
      | none => some rule
    else best
  match filter.rules.foldl better none with
  | some (_, some lowest) => lowest.rank ≤ level.rank
  | _ => false

end LogFilter

end Rollout
