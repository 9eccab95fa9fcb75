import SignatureSnippets.Expansion
import SignatureSnippets.Http.Body
import SignatureSnippets.Http.Target
import SignatureSnippets.Json.Encoding
import SignatureSnippets.Json.Printer
import SignatureSnippets.Signature.Printer
import SignatureSnippets.Signature.Record

/-!
# The HTTP service

Answers requests for expansions and for trees of signatures, in JSON. A malformed
signature is answered with status 422 where it stops the request: always when its tree
is asked for, and under the strict policy when it is expanded.
-/

namespace SignatureSnippets.Http

/-- A request, with the text of its body; empty if it has none. -/
structure Request where
  /-- The method, in either case. -/
  method : String
  target : String
  body : String := ""

/-- An answer. -/
structure Response where
  status : Nat
  body : Json

/-- An answer that says what is wrong with the request. -/
def Response.refusal (status : Nat) (detail : Json) : Response :=
  ⟨status, .obj [("detail", detail)]⟩

/-- What the service can be asked for. -/
inductive Endpoint where
  | health
  | expand
  | batch
  | parse
  deriving DecidableEq, Repr

namespace Endpoint

/-- All endpoints. -/
def all : List Endpoint := [.health, .expand, .batch, .parse]

/-- The path of an endpoint. -/
def path : Endpoint → String
  | .health => "/health"
  | .expand => "/expand"
  | .batch => "/expand/batch"
  | .parse => "/parse"

/-- The method that an endpoint is asked with. -/
def method : Endpoint → String
  | .health => "GET"
  | .expand => "POST"
  | .batch => "POST"
  | .parse => "POST"

/-- Whether a path leads to what is known by another one. Slashes at its end make no
difference, and neither does one line feed. -/
def leadsTo (path known : List Char) : Bool :=
  let plain := Text.trimEnd (· = '/') path
  plain = known || plain = known ++ ['\n']

/-- The endpoint at a path. -/
def ofPath? (path : List Char) : Option Endpoint :=
  all.find? fun endpoint => leadsTo path endpoint.path.toList

end Endpoint

/-- The paths of the pages that describe the service. They are no part of it, but like an
endpoint they refuse other methods than theirs. -/
def pagePaths : List String :=
  ["/openapi.json", "/docs", "/docs/oauth2-redirect", "/redoc"]

/-! ## Answers -/

/-- One step of a violation's place. -/
def partJson : Part → Json
  | .field name => .str name
  | .item place => .int place

/-- What is told about a rule beside its code and message. -/
def ruleContext : Rule → List (String × Json)
  | .oneOf words => [("ctx", .obj [("expected", .str words)])]
  | .json reason => [("ctx", .obj [("error", .str reason)])]
  | _ => []

/-- A violation as data. -/
def BodyViolation.toJson (v : BodyViolation) : Json :=
  .obj <|
    [ ("type", .str v.rule.code), ("loc", .arr (v.place.map partJson)),
      ("msg", .str v.rule.message), ("input", v.input) ] ++ ruleContext v.rule

/-- The answer to a request with violations, which lie in the request's body. -/
def violationResponse (found : List BodyViolation) : Response :=
  .refusal 422 (.arr (found.map fun v => (v.within (.field "body")).toJson))

/-- The answer to a request that a malformed signature stops. -/
def structureResponse (e : StructureError) : Response :=
  .refusal 422 (.obj [("message", .str e.summary), ("details", .str e.details)])

/-- The answer that a computation leads to. -/
def loggedResponse {α : Type} (toJson : α → Json) (x : Logged α) : Response × List Notice :=
  match x.result with
  | .ok a => (⟨200, toJson a⟩, x.notices)
  | .error e => (structureResponse e, x.notices)

/-- A type with its text, as the answer to a request for a tree. -/
def treeJson (type : Option SigType) : Json :=
  .obj
    [ ("tree", Json.ofOption SigType.toJson type),
      ("repr", Json.ofOption (fun type => .str type.render) type) ]

/-! ## Requests -/

/-- The answer to a request whose body cannot be read at all. -/
def unreadableResponse : Response :=
  .refusal 400 (.str "There was an error parsing the body")

/-- Reads the body of a request and answers it. -/
def withBody {α : Type} (body : String) (check : Json → Checked BodyViolation α)
    (answer : α → Response × List Notice) : Response × List Notice :=
  if body = "" then
    (violationResponse [{ rule := .required, place := [], input := .null }], [])
  else
    match Json.decode? body with
    | none => (unreadableResponse, [])
    | some cs =>
      match Json.ofChars cs with
      | .error ⟨.tooManyDigits _, _⟩ => (unreadableResponse, [])
      | .error ⟨fault, position⟩ =>
        (violationResponse
          [{ rule := .json fault.message, place := [.item position], input := .obj [] }], [])
      | .ok value =>
        match check value with
        | .ok a => answer a
        | .error found => (violationResponse found, [])

/-- The answer to a request to expand one signature. -/
def expandResponse (settings : Settings) (body : ExpandBody) : Response × List Notice :=
  loggedResponse Expansion.toJson
    ((Expander.ofSettings settings body.style).expand body.signature body.name)

/-- The answer to a request to expand several signatures. -/
def batchResponse (settings : Settings) (body : BatchBody) : Response × List Notice :=
  loggedResponse (fun expansions => .arr (expansions.map Expansion.toJson))
    ((Expander.ofSettings settings body.style).expandAll body.items)

/-- The answer to a request for the tree of a signature. -/
def parseResponse (body : ParseBody) : Response × List Notice :=
  loggedResponse treeJson (Signature.readType body.signature)

/-- The answer to a request that an endpoint takes. -/
def endpointResponse (settings : Settings) (endpoint : Endpoint) (body : String) :
    Response × List Notice :=
  match endpoint with
  | .health =>
    (⟨200, .obj [("status", .str "ok"), ("style", .str settings.style.name)]⟩, [])
  | .expand => withBody body Body.expand (expandResponse settings)
  | .batch => withBody body Body.batch (batchResponse settings)
  | .parse => withBody body Body.parse parseResponse

/-- The answer to a request that is sent to a path, and what is logged on the way. -/
def respond (settings : Settings) (path : List Char) (method body : String) :
    Response × List Notice :=
  match Endpoint.ofPath? path with
  | none =>
    if method ≠ "GET" && pagePaths.any fun page => Endpoint.leadsTo path page.toList then
      (.refusal 405 (.str "Method Not Allowed"), [])
    else (.refusal 404 (.str "Not Found"), [])
  | some endpoint =>
    if endpoint.method = method then endpointResponse settings endpoint body
    else (.refusal 405 (.str "Method Not Allowed"), [])

/-! ## Transfer -/

/-- What can keep a request or its answer from being transferred. -/
inductive TransferFault where
  /-- The target of the request cannot be read. -/
  | target (fault : TargetFault)
  /-- The answer goes without its body, so there is none to be read. -/
  | noBody
  /-- The answer holds a number that is not finite. -/
  | notFinite
  /-- The answer holds a lone surrogate. -/
  | unencodable (error : Text.UnencodableError)
  deriving DecidableEq, Repr

/-- The wording of a fault. -/
def TransferFault.message : TransferFault → String
  | .target fault => fault.message
  | .noBody => "Expecting value: line 1 column 1 (char 0)"
  | .notFinite => "Out of range float values are not JSON compliant"
  | .unencodable error => error.message

/-- An answer, if it can be transferred. -/
def Response.transfer (r : Response) : Except TransferFault Response :=
  if r.body.isFinite then
    match Text.unencodable? r.body.compactText.toList with
    | none => .ok r
    | some error => .error (.unencodable error)
  else .error .notFinite

/-- The exchange of a request and its answer, with what is logged on the way. -/
def exchange (settings : Settings) (request : Request) :
    Except TransferFault (Response × List Notice) := do
  let path ← (Target.path request.target).mapError .target
  let method := request.method.toUpper
  let (response, notices) := respond settings path method request.body
  let response ← response.transfer
  if method = "HEAD" then throw .noBody
  return (response, notices)

end SignatureSnippets.Http
