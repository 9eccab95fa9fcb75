/-!
# Log levels
-/

namespace SignatureSnippets

/-- How serious a notice is. -/
inductive LogLevel where
  | debug
  | info
  | warning
  | error
  | critical
  deriving DecidableEq, Repr, Inhabited

namespace LogLevel

/-- All levels, least serious first. -/
def all : List LogLevel := [.debug, .info, .warning, .error, .critical]

/-- The name of a level. -/
def name : LogLevel → String
  | .debug => "DEBUG"
  | .info => "INFO"
  | .warning => "WARNING"
  | .error => "ERROR"
  | .critical => "CRITICAL"

/-- The level of a name, which has to be written exactly. -/
def ofName? (name : String) : Option LogLevel :=
  all.find? fun level => level.name = name

theorem ofName?_eq_some_iff {name : String} {level : LogLevel} :
    ofName? name = some level ↔ name = level.name := by
  constructor
  · intro h
    have hname := List.find?_some h
    exact (of_decide_eq_true hname).symm
  · rintro rfl
    cases level <;> rfl

/-- The pattern that the names of levels follow. -/
def namePattern : String := "^(DEBUG|INFO|WARNING|ERROR|CRITICAL)$"

/-- The rank of a level; a more serious level ranks higher. -/
def rank : LogLevel → Nat
  | .debug => 0
  | .info => 1
  | .warning => 2
  | .error => 3
  | .critical => 4

/-- Whether notices of a level are shown where only those from `least` on are. -/
def shownFrom (level least : LogLevel) : Bool :=
  least.rank ≤ level.rank

end LogLevel

end SignatureSnippets
