import WorkspaceLink.Json.Printer

/-!
# Messages of the protocol

Requests, notifications and responses are JSON objects. A response is recognised by its `id`, which
a server may echo as a text or as a number; a `result` member, even `null`, wins over an `error`.
-/
namespace WorkspaceLink.Message

/-- The version that every frame states. -/
def version : String := "2.0"

/-- The method that asks for the identifier of this connection. -/
def clientIdMethod : String := "websocketIdService/getId"

def subscribeMethod : String := "subscribe"

def unsubscribeMethod : String := "unsubscribe"

/-! ### Frames that are sent -/

/-- The parameters of a frame, left out when there are none. -/
def paramsMember : Option Json → List (String × Json)
  | some params => [("params", params)]
  | none => []

def request (id method : String) (params : Option Json) : Json :=
  .object ([("jsonrpc", .str version), ("id", .str id), ("method", .str method)] ++
    paramsMember params)

/-- A notification: nothing answers it. -/
def notification (method : String) (params : Option Json) : Json :=
  .object ([("jsonrpc", .str version), ("method", .str method)] ++ paramsMember params)

def response (id : String) (result : Json) : Json :=
  .object [("jsonrpc", .str version), ("id", .str id), ("result", result)]

def errorResponse (id : String) (number : Int) (message : String) : Json :=
  .object [("jsonrpc", .str version), ("id", .str id),
    ("error", .object [("number", .num (.int number)), ("message", .str message)])]

/-! ### Frames that arrive -/

/-- How a response settles its request. -/
inductive Body where
  | result (value : Json)
  | error (value : Json)
  | empty
  deriving DecidableEq, Repr

/-- The identifier of a message, a number being taken as its text. -/
def id? (message : Json) : Option String :=
  match message.get? "id" with
  | some (.str s) => some s
  | some (.num n) => some (Json.numberText n)
  | _ => none

def method? (message : Json) : Option String :=
  (message.get? "method").bind Json.text?

/-- The parameters of a notification, `null` if it has none. -/
def params (message : Json) : Json := (message.get? "params").getD .null

def body (message : Json) : Body :=
  match message.get? "result", message.get? "error" with
  | some value, _ => .result value
  | none, some value => .error value
  | none, none => .empty

end WorkspaceLink.Message
