import SignatureSnippets.Log.Level
import SignatureSnippets.Signature.Parser

/-!
# Notices

What is logged while signatures are read and expanded. A notice is kept as the fact
it reports; its level, its channel and its wording follow from that.
-/

namespace SignatureSnippets

/-- A fact worth logging. -/
inductive Notice where
  /-- A signature ended while function types were open. -/
  | unclosed (count : Nat)
  /-- A signature has no snippet, because it is no function type. -/
  | notAFunction (signature : String)
  /-- A signature was refused and the caller goes on without it. -/
  | malformed (signature : String) (error : StructureError)
  deriving DecidableEq, Repr

namespace Notice

/-- How serious a notice is. -/
def level : Notice → LogLevel
  | .unclosed _ => .debug
  | .notAFunction _ => .debug
  | .malformed .. => .warning

/-- The channel that a notice is logged on. -/
def channel : Notice → String
  | .unclosed _ => "ternexpand.signature.parser"
  | .notAFunction _ => "ternexpand.services.expand_service"
  | .malformed .. => "ternexpand.services.expand_service"

/-- The wording of a notice. -/
def message : Notice → String
  | .unclosed count => "Signature ended with " ++ toString count ++ " unclosed function type(s)"
  | .notAFunction signature => "Not a function type, no snippet: " ++ Text.quoted signature
  | .malformed signature error =>
    "Malformed signature " ++ Text.quoted signature ++ ": " ++ error.message

/-- A notice as a line of a log. -/
def line (n : Notice) : String :=
  n.level.name ++ " " ++ n.channel ++ ": " ++ n.message

end Notice

/-- What is logged when a signature has been read. -/
def Signature.notices (s : Signature) : List Notice :=
  if s.unclosed = 0 then [] else [.unclosed s.unclosed]

/-- A computation that may be stopped by a signature's structure, with what it logged up
to its end. -/
structure Logged (α : Type) where
  result : Except StructureError α
  notices : List Notice

namespace Logged

variable {α β : Type}

/-- Goes on with a result. What was logged before comes first. -/
def bind (x : Logged α) (f : α → Logged β) : Logged β :=
  match x.result with
  | .ok a =>
    let y := f a
    ⟨y.result, x.notices ++ y.notices⟩
  | .error e => ⟨.error e, x.notices⟩

/-- Changes a result and logs nothing. -/
def map (f : α → β) (x : Logged α) : Logged β :=
  ⟨x.result.map f, x.notices⟩

/-- Runs a computation for each element in order, up to the first one that is stopped. -/
def forEach (f : α → Logged β) : List α → Logged (List β)
  | [] => ⟨.ok [], []⟩
  | x :: xs => (f x).bind fun y => (forEach f xs).map (y :: ·)

end Logged

/-- Reads a signature's type and logs what it left open. -/
def Signature.readType (text : String) : Logged (Option SigType) :=
  match Signature.parse text with
  | .ok s => ⟨.ok s.type?, s.notices⟩
  | .error e => ⟨.error e, []⟩

end SignatureSnippets
