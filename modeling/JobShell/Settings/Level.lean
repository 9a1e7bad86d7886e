namespace JobShell

/-!
# Log levels

How much is logged. A level's name is read without regard to ASCII case, and
any other name means `info`.
-/

/-- A log level, from nothing to everything. -/
inductive Level where
  | off
  | error
  | warn
  | info
  | debug
  | trace
  deriving DecidableEq, Repr

namespace Level

/-- The levels from least to most. -/
def all : List Level := [.off, .error, .warn, .info, .debug, .trace]

/-- The name of a level. -/
def name : Level → String
  | off => "OFF"
  | error => "ERROR"
  | warn => "WARN"
  | info => "INFO"
  | debug => "DEBUG"
  | trace => "TRACE"

/-- The position of a level among `all`. -/
def rank : Level → Nat
  | off => 0
  | error => 1
  | warn => 2
  | info => 3
  | debug => 4
  | trace => 5

/-- The level that a name stands for. -/
def parse (text : String) : Level :=
  let capitals := text.toList.map Char.toUpper
  (all.find? fun level => level.name.toList == capitals).getD .info

/-- A message of this level is logged where the limit is `limit`. -/
def isWithin (level limit : Level) : Bool :=
  level.rank ≤ limit.rank

end Level
end JobShell
