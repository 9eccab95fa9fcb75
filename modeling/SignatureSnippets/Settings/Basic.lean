import SignatureSnippets.Log.Level
import SignatureSnippets.Snippet.Style

/-!
# Settings

What can be set, and the values that hold where nothing is set.
-/

namespace SignatureSnippets

/-- The settings of the program. -/
structure Settings where
  /-- The notation of snippets. -/
  style : MarkerStyle := .textmate
  /-- The name of a last parameter that snippets leave out; empty for none. -/
  noise : String := "context"
  /-- Whether a malformed signature stops an expansion. -/
  strict : Bool := false
  /-- The host that the HTTP service binds to. -/
  host : String := "127.0.0.1"
  /-- The port that the HTTP service binds to. -/
  port : Nat := 8542
  /-- The least serious notices that the command line shows. -/
  logLevel : LogLevel := .warning
  deriving DecidableEq, Repr, Inhabited

/-- One of the settings. -/
inductive Setting where
  | style
  | noise
  | strict
  | host
  | port
  | logLevel
  deriving DecidableEq, Repr

namespace Setting

/-- All settings, in the order in which they are checked. -/
def all : List Setting := [.style, .noise, .strict, .host, .port, .logLevel]

/-- The name of a setting. -/
def name : Setting → String
  | .style => "snippet_style"
  | .noise => "trailing_noise_param"
  | .strict => "strict"
  | .host => "api_host"
  | .port => "api_port"
  | .logLevel => "log_level"

end Setting

/-- The noise name as snippets take it: none where it is empty. -/
def Settings.noise? (s : Settings) : Option String :=
  if s.noise = "" then none else some s.noise

end SignatureSnippets
