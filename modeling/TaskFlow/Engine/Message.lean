/-
TaskFlow.Engine.Message — what goes to a function and what comes back.

  §1 Requests  — `Request`.
  §2 Responses — `Response`; a status of 400 or more is an error, described by `failureText`.
-/
import TaskFlow.Json.Print
import TaskFlow.Record

namespace TaskFlow

open TaskFlow.Text

/-- Headers as a value. -/
def headersJson (headers : Dictionary String) : Json :=
  .obj (Dictionary.mapValues Json.str headers)

/-! ## §1 Requests -/

/-- A request to a function route. -/
structure Request where
  body : Json := .null
  headers : Dictionary String := []
  correlationId : String := ""
  flowId : String := ""
  taskName : String := ""
  instanceId : String := ""
deriving DecidableEq, Inhabited

namespace Request

/-- The value of a header. -/
def header? (r : Request) (name : String) : Option String :=
  Dictionary.get? name r.headers

/-- A request as a record. -/
def toJson (r : Request) : Json :=
  .ofFields
    [("body", r.body), ("headers", headersJson r.headers),
     ("correlation_id", .str r.correlationId), ("flow_id", .str r.flowId),
     ("task_name", .str r.taskName), ("instance_id", .str r.instanceId)]

/-- The names of the fields. -/
def fieldNames : List String :=
  ["body", "headers", "correlation_id", "flow_id", "task_name", "instance_id"]

/-- A request from a record; only the headers may be missing. -/
def ofJson? (v : Json) : Option Request := do
  let fields ← Record.fields? fieldNames v
  let body ← Record.required fields "body" Record.any
  let headers ← Record.orElse fields "headers" (Record.dictionary Record.text) []
  let correlationId ← Record.required fields "correlation_id" Record.text
  let flowId ← Record.required fields "flow_id" Record.text
  let taskName ← Record.required fields "task_name" Record.text
  let instanceId ← Record.required fields "instance_id" Record.text
  some { body, headers, correlationId, flowId, taskName, instanceId }

end Request

/-! ## §2 Responses -/

/-- The answer of a function. -/
structure Response where
  status : Nat
  body : Json := .null
  headers : Dictionary String := []
deriving DecidableEq, Inhabited

namespace Response

/-- The status of a successful answer. -/
def statusOk : Nat := 200

/-- A successful answer. -/
def ok (body : Json) : Response := { status := statusOk, body }

/-- The answer with one more header. -/
def withHeader (r : Response) (name value : String) : Response :=
  { r with headers := Dictionary.insert name value r.headers }

/-- The status says that the function failed. -/
def isError (r : Response) : Bool := 400 ≤ r.status

/-- What a failed answer says: a text body, the `message` of an object, the status when there is no
body, else the body as JSON. -/
def failureText (r : Response) : String :=
  match r.body with
  | .str text => text
  | .null => s!"status {natText r.status}"
  | body => ((body.field? "message").bind Json.text?).getD body.text

/-- An answer as a record. -/
def toJson (r : Response) : Json :=
  .ofFields
    [("status", .ofNat r.status), ("body", r.body), ("headers", headersJson r.headers)]

end Response

end TaskFlow
