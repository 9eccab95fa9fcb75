import SignatureSnippets.Settings.Environment
import SignatureSnippets.Settings.Sources

/-!
# Sessions

Settings are built from the environment and the dotenv file once and then kept: asking
for them again gives the same instance, whatever has become of the environment. Only a
reload builds them anew. A build that fails is not kept, and a reload that fails leaves
nothing, so that the next request builds afresh.
-/

namespace SignatureSnippets

/-- Settings together with the number of the build they came from, counted from
zero. -/
structure Instance where
  number : Nat
  settings : Settings
  deriving DecidableEq, Repr

/-- What settings are built from, and the settings that are kept. -/
structure Session where
  environment : Environment := []
  /-- The content of the dotenv file, which stays as it is. -/
  dotEnv : String := ""
  kept : Option Instance := none
  /-- How many builds have succeeded. -/
  builds : Nat := 0

namespace Session

/-- What can happen in a session. -/
inductive Action where
  /-- Variables are given values. -/
  | set (entries : List (String × String))
  /-- Variables are removed. -/
  | unset (names : List String)
  /-- The settings are asked for. -/
  | get
  /-- The settings are dropped and asked for. -/
  | reload
  deriving Repr

/-- What an action leads to. -/
inductive Answer where
  /-- The environment was changed. -/
  | changed
  /-- A variable could not be set. -/
  | unsettable (fault : VariableFault)
  /-- Settings were given, or could not be built. -/
  | given (settings : Checked Violation Instance)

/-- What settings would be built from. -/
def sources (s : Session) : Sources :=
  { environment := s.environment, dotEnv := s.dotEnv }

/-- Builds settings from the environment as it is, and keeps them if that succeeds. -/
def build (s : Session) : Session × Checked Violation Instance :=
  match s.sources.settings with
  | .ok settings =>
    let made : Instance := ⟨s.builds, settings⟩
    ({ s with kept := some made, builds := s.builds + 1 }, .ok made)
  | .error found => (s, .error found)

/-- The settings that are kept, or else newly built ones. -/
def get (s : Session) : Session × Checked Violation Instance :=
  match s.kept with
  | some made => (s, .ok made)
  | none => s.build

/-- The session after an action, and what the action leads to. -/
def step (s : Session) : Action → Session × Answer
  | .set entries =>
    let (environment, fault) := s.environment.setAll entries
    ({ s with environment }, (fault.map Answer.unsettable).getD .changed)
  | .unset names => ({ s with environment := s.environment.remove names }, .changed)
  | .get => let (s, settings) := s.get; (s, .given settings)
  | .reload => let (s, settings) := { s with kept := none }.get; (s, .given settings)

/-- What the actions of a sequence lead to. -/
def answers (s : Session) : List Action → List Answer
  | [] => []
  | action :: actions => (s.step action).2 :: (s.step action).1.answers actions

end Session

end SignatureSnippets
