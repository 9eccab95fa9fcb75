import SignatureSnippets.Settings.Check
import SignatureSnippets.Settings.DotEnv

/-!
# Where settings come from

A setting may be given by the caller, by the environment or by a dotenv file, in this
order of priority, and has a value of its own otherwise. The value that counts is
found first and only that one is checked; every setting is checked, and all violations
are reported in the order of the settings.

Names are compared without regard to case. In the environment and in dotenv files they
carry the name of the program in front.
-/

namespace SignatureSnippets

/-- The values that are given for settings. -/
structure Sources where
  /-- Given by the caller, by the settings' own names. -/
  overrides : List (String × Json) := []
  /-- The environment. -/
  environment : Environment := []
  /-- The content of the dotenv file. -/
  dotEnv : String := ""
  deriving Inhabited

namespace Sources

/-- What stands in front of a setting's name in the environment. -/
def environmentMark : String := "ternexpand_"

/-- The value that counts for a setting, if any is given. Of several spellings of a name
the caller's first one counts, and the last one elsewhere. -/
def effective? (s : Sources) (setting : Setting) : Option Json :=
  let name := environmentMark ++ setting.name
  (Variables.first? setting.name s.overrides).or
    (((Variables.last? name s.environment).or
      (Variables.last? name (DotEnv.assignments s.environment s.dotEnv)).join).map Json.str)

/-- Checks the value that counts for a setting. -/
def read {α : Type} (s : Sources) (setting : Setting) (check : Json → Except Rule α)
    (default : α) : Checked Violation α :=
  match s.effective? setting with
  | none => .ok default
  | some value =>
    match check value with
    | .ok a => .ok a
    | .error rule => .error [⟨rule, [.field setting.name]⟩]

/-- The settings that follow from what is given. -/
def settings (s : Sources) : Checked Violation Settings :=
  let usual : Settings := {}
  (Checked.both (s.read .style Check.style usual.style)
    (Checked.both (s.read .noise Check.text usual.noise)
      (Checked.both (s.read .strict Check.truth usual.strict)
        (Checked.both (s.read .host Check.text usual.host)
          (Checked.both (s.read .port Check.port usual.port)
            (s.read .logLevel Check.logLevel usual.logLevel)))))).map
    fun (style, noise, strict, host, port, logLevel) =>
      { style, noise, strict, host, port, logLevel }

end Sources

end SignatureSnippets
