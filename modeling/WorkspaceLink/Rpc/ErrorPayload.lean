import WorkspaceLink.Decode

/-!
# Error bodies of responses

An error response carries a number, a message and perhaps further data. The number is spelled
`number` or `code`; a body that does not have this form is kept whole as the data of an internal
error, so that nothing the server said is lost.
-/
namespace WorkspaceLink

/-- The numbers reserved by the protocol. -/
inductive StandardError where
  | parse
  | invalidRequest
  | methodNotFound
  | invalidParams
  | internal
  deriving DecidableEq, Repr

def StandardError.number : StandardError → Int
  | .parse => -32700
  | .invalidRequest => -32600
  | .methodNotFound => -32601
  | .invalidParams => -32602
  | .internal => -32603

/-- The body of an error response. -/
structure ErrorPayload where
  number : Int
  message : String := ""
  data : Option Json := none
  deriving DecidableEq, Repr, Inhabited

namespace ErrorPayload

def ofMembers (members : List (String × Json)) : Except DecodeError ErrorPayload := do
  let code ← Decode.field (fun v => (Decode.integer .signed64 v).map some) none
    (members.lookup "code")
  let data ← Decode.optionalField pure (members.lookup "data")
  let message ← Decode.field Decode.text "" (members.lookup "message")
  let number ←
    match code, members.lookup "number" with
    | some _, some _ => throw (.duplicate "number")
    | code, none => pure code
    | none, some value => (Decode.integer .signed64 value).map some
  return { number := ← Decode.required "number" number, message, data }

def ofItems (items : List Json) : Except DecodeError ErrorPayload := do
  let number ←
    match items[0]? with
    | some value => Decode.integer .signed64 value
    | none => throw (.length 0 (.recordOf "RpcErrorPayload" 3))
  let message ← Decode.field Decode.text "" items[1]?
  let data ← Decode.optionalField pure items[2]?
  return { number, message, data }

def decode : Json → Except DecodeError ErrorPayload :=
  Decode.record "RpcErrorPayload" 3 ofMembers ofItems

def toJson (payload : ErrorPayload) : Json :=
  .object ([("number", .num (.int payload.number)), ("message", .str payload.message)] ++
    Encode.optional "data" id payload.data)

/-- What a malformed body says: its message, or the text that it is. -/
def salvagedMessage (value : Json) : String :=
  match (value.get? "message").bind Json.text? with
  | some message => message
  | none => value.text?.getD "malformed error response"

/-- The payload of an error member of any form. -/
def ofWire (value : Json) : ErrorPayload :=
  match decode value with
  | .ok payload => payload
  | .error _ =>
    { number := StandardError.internal.number
      message := salvagedMessage value
      data := some value }

/-- One line for people. -/
def text (payload : ErrorPayload) : String :=
  "[" ++ Json.intText payload.number ++ "] " ++ payload.message

end ErrorPayload

end WorkspaceLink
