import WorkspaceLink.Id
import WorkspaceLink.Text.Percent

/-!
# Connection URLs

The URL of a connection attempt is the entrypoint with two parameters added to its query: the client
identifier that the server gave, in front of the parameters that are there, and a token, behind
them. Where a URL is shown, its query is cut off, because it may hold a token.
-/
namespace WorkspaceLink.Url

def clientIdParam : String := "clientId"

def tokenParam : String := "token"

/-- The text up to the first question mark, and the text after it if there is one. -/
def splitQuery (url : String) : String × Option String :=
  let cs := url.toList
  (String.ofList (cs.takeWhile (· ≠ '?')),
    match cs.dropWhile (· ≠ '?') with
    | [] => none
    | _ :: query => some (String.ofList query))

/-- A query parameter with its value escaped. -/
def pair (name value : String) : String := name ++ "=" ++ Text.percentEncode value

/-- Put the client identifier in front of the query. -/
def withClientId (entrypoint : String) : Option ClientId → String
  | none => entrypoint
  | some id =>
    let added := pair clientIdParam id.text
    match splitQuery entrypoint with
    | (base, none) => base ++ "?" ++ added
    | (base, some query) =>
      if query.isEmpty then base ++ "?" ++ added else base ++ "?" ++ added ++ "&" ++ query

/-- Put a token behind the query; an empty token counts as none. -/
def withToken (url : String) : Option String → String
  | none => url
  | some token =>
    if token.isEmpty then url
    else
      let separator :=
        match splitQuery url with
        | (_, none) => "?"
        | (_, some query) => if query.isEmpty then "" else "&"
      url ++ separator ++ pair tokenParam token

/-- The URL of a connection attempt. -/
def connection (entrypoint : String) (clientId : Option ClientId) (token : Option String) :
    String :=
  withToken (withClientId entrypoint clientId) token

/-- The URL without its query. -/
def redact (url : String) : String := (splitQuery url).1

end WorkspaceLink.Url
