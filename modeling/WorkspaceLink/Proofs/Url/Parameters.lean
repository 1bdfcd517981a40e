import WorkspaceLink.Proofs.Text.Percent
import WorkspaceLink.Url

/-!
# The parameters of a connection

The query of a URL is a list of parameters with `&` between them. The URL of a connection attempt is
the entrypoint with one parameter put in front of that list and one put behind it, whatever the
entrypoint looks like: without a query, with an empty one, or with further question marks in it. As
the values are escaped, they can be read back, and what was presented is determined by the URL.
-/
namespace WorkspaceLink.Url

/-! ### Queries -/

/-- A URL with the query put behind the text before it, if there is one. -/
def join (base : String) : Option String → String
  | none => base
  | some query => base ++ "?" ++ query

/-- Two lists of parameters with `&` between them, if there is something on both sides. -/
def ampersand (first second : String) : String :=
  if first.isEmpty then second else if second.isEmpty then first else first ++ "&" ++ second

/-- The parameters of a query. An empty query has none. -/
def queryParameters (query : String) : List String :=
  if query.isEmpty then [] else (query.toList.splitOn '&').map String.ofList

def parameters (url : String) : List String := queryParameters ((splitQuery url).2.getD "")

variable {base : String} {query? : Option String}

theorem splitQuery_join (h : '?' ∉ base.toList) (query? : Option String) :
    splitQuery (join base query?) = (base, query?) := by
  have hbase : ∀ c ∈ base.toList, decide (c ≠ '?') = true := by
    intro c hc
    exact decide_eq_true fun hmark => h (hmark ▸ hc)
  have htake (rest : List Char) : (base.toList ++ rest).takeWhile (· ≠ '?') =
      base.toList ++ rest.takeWhile (· ≠ '?') := List.takeWhile_append_of_pos hbase
  have hdrop (rest : List Char) : (base.toList ++ rest).dropWhile (· ≠ '?') =
      rest.dropWhile (· ≠ '?') := List.dropWhile_append_of_pos hbase
  cases query? with
  | none =>
    have hchars : (join base none).toList = base.toList ++ [] := (List.append_nil _).symm
    rw [splitQuery, hchars, htake, hdrop]
    simp
  | some query =>
    have hchars : (join base (some query)).toList = base.toList ++ '?' :: query.toList := by
      simp [join]
    rw [splitQuery, hchars, htake, hdrop]
    simp

theorem not_mem_base (url : String) : '?' ∉ (splitQuery url).1.toList := by
  intro hmem
  rw [splitQuery, String.toList_ofList] at hmem
  have hkept := List.all_eq_true.mp List.all_takeWhile _ hmem
  simp at hkept

/-- A URL is what it is split into. -/
theorem join_splitQuery (url : String) : join (splitQuery url).1 (splitQuery url).2 = url := by
  have hchars := List.takeWhile_append_dropWhile (p := fun c : Char => decide (c ≠ '?'))
    (l := url.toList)
  apply String.toList_injective
  rw [splitQuery]
  split
  next hrest =>
    rw [hrest, List.append_nil] at hchars
    simpa [join] using hchars
  next mark query hrest =>
    have hmark : mark = '?' := by
      have hhead := List.head?_dropWhile_not (fun c : Char => decide (c ≠ '?')) url.toList
      rw [hrest] at hhead
      simpa using hhead
    rw [hrest, hmark] at hchars
    simpa [join] using hchars

/-! ### Lists of parameters -/

@[simp] theorem queryParameters_empty : queryParameters "" = [] := rfl

@[simp] theorem ampersand_empty_left (query : String) : ampersand "" query = query := rfl

@[simp] theorem ampersand_empty_right (query : String) : ampersand query "" = query := by
  unfold ampersand
  split
  next h => exact (String.isEmpty_iff.mp h).symm
  next => rfl

/-- The parameters on both sides of an ampersand. -/
theorem queryParameters_ampersand (first second : String) :
    queryParameters (ampersand first second) = queryParameters first ++ queryParameters second := by
  by_cases hfirst : first = ""
  · simp [hfirst]
  · by_cases hsecond : second = ""
    · simp [hsecond]
    · have hboth : ampersand first second = first ++ "&" ++ second := by
        simp [ampersand, hfirst, hsecond]
      have hchars : (first ++ "&" ++ second).toList = first.toList ++ '&' :: second.toList := by
        simp
      have hsome : first ++ "&" ++ second ≠ "" := by simp [hfirst]
      rw [hboth, queryParameters, queryParameters, queryParameters, hchars,
        List.splitOn_append_cons_self]
      simp [hfirst, hsecond]

theorem queryParameters_of_not_mem {parameter : String} (hsome : parameter ≠ "")
    (h : '&' ∉ parameter.toList) : queryParameters parameter = [parameter] := by
  simp [queryParameters, hsome, List.splitOn_eq_singleton h]

/-! ### What is presented -/

def idParameters (clientId : Option ClientId) : List String :=
  clientId.toList.map fun id => "clientId=" ++ Text.percentEncode id.text

/-- A token that counts; an empty one does not. -/
def presented (token : Option String) : Option String := token.filter fun text => text ≠ ""

def tokenParameters (token : Option String) : List String :=
  (presented token).toList.map fun text => "token=" ++ Text.percentEncode text

theorem pair_ne_empty (name value : String) : pair name value ≠ "" := by
  simp [pair]

/-- A character that is neither unreserved nor a percent sign stands in no escaped value. -/
theorem not_mem_percentEncode {c : Char} (hreserved : Text.isUnreserved c = false)
    (hmark : c ≠ '%') (value : String) : c ∉ (Text.percentEncode value).toList := by
  intro hmem
  rcases (Text.escaped_percentEncode value).isUnreserved_or_mark c hmem with h | h
  · simp [hreserved] at h
  · exact hmark h

theorem queryParameters_pair {name : String} (hname : '&' ∉ name.toList) (value : String) :
    queryParameters (pair name value) = [pair name value] := by
  apply queryParameters_of_not_mem (pair_ne_empty name value)
  have hvalue := not_mem_percentEncode (c := '&') (by decide) (by decide) value
  simp [pair, hname, hvalue]

theorem withClientId_join (h : '?' ∉ base.toList) (id : ClientId) :
    withClientId (join base query?) (some id) =
      join base (some (ampersand (pair clientIdParam id.text) (query?.getD ""))) := by
  have hsome := pair_ne_empty clientIdParam id.text
  rw [withClientId, splitQuery_join h]
  cases query? with
  | none => simp [join]
  | some query =>
    by_cases hquery : query = ""
    · simp [hquery, join]
    · simp [ampersand, hquery, hsome, join, String.append_assoc]

theorem withToken_join (h : '?' ∉ base.toList) {token : String} (htoken : token ≠ "") :
    withToken (join base query?) (some token) =
      join base (some (ampersand (query?.getD "") (pair tokenParam token))) := by
  have hsome := pair_ne_empty tokenParam token
  have hcounts : ¬ token.isEmpty = true := by simpa using htoken
  rw [withToken, if_neg hcounts, splitQuery_join h]
  cases query? with
  | none => simp [join]
  | some query =>
    by_cases hquery : query = ""
    · simp [hquery, join]
    · simp [ampersand, hquery, hsome, join, String.append_assoc]

/-- A URL with a client identifier has one parameter more, in front. -/
theorem withClientId_parts (h : '?' ∉ base.toList) (query? : Option String)
    (clientId : Option ClientId) :
    ∃ given?, withClientId (join base query?) clientId = join base given? ∧
      queryParameters (given?.getD "") =
        idParameters clientId ++ queryParameters (query?.getD "") := by
  cases clientId with
  | none => exact ⟨query?, rfl, rfl⟩
  | some id =>
    refine ⟨_, withClientId_join h id, ?_⟩
    rw [Option.getD_some, queryParameters_ampersand, queryParameters_pair (by decide)]
    rfl

/-- A URL with a token has one parameter more, behind the others. -/
theorem withToken_parts (h : '?' ∉ base.toList) (query? : Option String)
    (token : Option String) :
    ∃ given?, withToken (join base query?) token = join base given? ∧
      queryParameters (given?.getD "") =
        queryParameters (query?.getD "") ++ tokenParameters token := by
  have hnone : queryParameters (query?.getD "") = queryParameters (query?.getD "") ++ [] :=
    (List.append_nil _).symm
  cases token with
  | none => exact ⟨query?, rfl, hnone⟩
  | some token =>
    by_cases htoken : token = ""
    · subst htoken
      exact ⟨query?, rfl, hnone⟩
    · refine ⟨_, withToken_join h htoken, ?_⟩
      rw [Option.getD_some, queryParameters_ampersand, queryParameters_pair (by decide)]
      simp [tokenParameters, presented, htoken, Option.filter, pair, tokenParam]

/-- The URL of a connection, taken apart. -/
theorem splitQuery_connection (entrypoint : String) (clientId : Option ClientId)
    (token : Option String) :
    (splitQuery (connection entrypoint clientId token)).1 = (splitQuery entrypoint).1 ∧
      parameters (connection entrypoint clientId token) =
        idParameters clientId ++ parameters entrypoint ++ tokenParameters token := by
  have hbase := not_mem_base entrypoint
  obtain ⟨middle?, hmiddle, hfront⟩ :=
    withClientId_parts hbase (splitQuery entrypoint).2 clientId
  obtain ⟨query?, hquery, hback⟩ := withToken_parts hbase middle? token
  have hconnection : connection entrypoint clientId token =
      join (splitQuery entrypoint).1 query? := by
    rw [join_splitQuery] at hmiddle
    rw [connection, hmiddle, hquery]
  have hsplit := splitQuery_join hbase query?
  constructor
  · rw [hconnection, hsplit]
  · rw [parameters, hconnection, hsplit, hback, hfront, parameters]

/-! ### Reading the presented values back -/

theorem value_injective {name value value' : String}
    (h : name ++ Text.percentEncode value = name ++ Text.percentEncode value') : value = value' :=
  Text.percentEncode_injective (String.append_right_inj name |>.mp h)

theorem tokenParameters_of_none {token : Option String} (h : presented token = none) :
    tokenParameters token = [] := by
  rw [tokenParameters, h]
  rfl

theorem tokenParameters_of_some {token : Option String} {text : String}
    (h : presented token = some text) :
    tokenParameters token = ["token=" ++ Text.percentEncode text] := by
  rw [tokenParameters, h]
  rfl

theorem tokenParameters_injective {token token' : Option String}
    (h : tokenParameters token = tokenParameters token') : presented token = presented token' := by
  cases htext : presented token with
  | none =>
    cases htext' : presented token' with
    | none => rfl
    | some text' =>
      rw [tokenParameters_of_none htext, tokenParameters_of_some htext'] at h
      cases h
  | some text =>
    cases htext' : presented token' with
    | none =>
      rw [tokenParameters_of_some htext, tokenParameters_of_none htext'] at h
      cases h
    | some text' =>
      rw [tokenParameters_of_some htext, tokenParameters_of_some htext'] at h
      rw [value_injective (List.cons.inj h).1]

theorem eq_of_cons_eq_concat {first last : String} {between : List String}
    (h : first :: between = between ++ [last]) : first = last := by
  have hcount := congrArg (List.count first) h
  rw [List.count_cons_self, List.count_append] at hcount
  have hmem : first ∈ [last] := List.count_pos_iff.mp (by omega)
  exact List.mem_singleton.mp hmem

/-- A parameter in front of a list does not look like one behind it: it has another name. -/
theorem front_ne_back (id : ClientId) (between : List String) (token token' : Option String) :
    idParameters (some id) ++ between ++ tokenParameters token ≠
      between ++ tokenParameters token' := by
  intro h
  have hlength := congrArg List.length h
  simp only [idParameters, Option.toList_some, List.length_append, List.length_map,
    List.length_singleton] at hlength
  cases htext' : presented token' with
  | none =>
    rw [tokenParameters_of_none htext', List.length_nil] at hlength
    omega
  | some text' =>
    cases htext : presented token with
    | some text =>
      rw [tokenParameters_of_some htext, tokenParameters_of_some htext'] at hlength
      simp only [List.length_singleton] at hlength
      omega
    | none =>
      rw [tokenParameters_of_none htext, tokenParameters_of_some htext', List.append_nil] at h
      have hchars := congrArg String.toList (eq_of_cons_eq_concat h)
      simp at hchars

/-- One parameter in front of a list and one behind it are told apart, by their names if there is
only one. -/
theorem presented_of_parameters {clientId clientId' : Option ClientId}
    {token token' : Option String} {between : List String}
    (h : idParameters clientId ++ between ++ tokenParameters token =
      idParameters clientId' ++ between ++ tokenParameters token') :
    clientId = clientId' ∧ presented token = presented token' := by
  cases clientId with
  | none =>
    cases clientId' with
    | none => exact ⟨rfl, tokenParameters_injective (List.append_cancel_left h)⟩
    | some id' => exact absurd h.symm (front_ne_back id' between token' token)
  | some id =>
    cases clientId' with
    | none => exact absurd h (front_ne_back id between token token')
    | some id' =>
      obtain ⟨hid, hrest⟩ := List.cons.inj h
      have htext : id.text = id'.text := value_injective hid
      refine ⟨?_, tokenParameters_injective (List.append_cancel_left hrest)⟩
      cases id
      cases id'
      simpa using htext

/-- An empty token counts as none. -/
theorem withToken_presented (url : String) (token : Option String) :
    withToken url (presented token) = withToken url token := by
  cases token with
  | none => rfl
  | some text =>
    by_cases htext : text = ""
    · subst htext
      rfl
    · simp [presented, Option.filter, htext]

/-- The URL of a connection. Split at its first question mark, it has the entrypoint's text in
front, and behind it, between ampersands, the parameter of the client identifier if there is one,
the parameters of the entrypoint in their order, and the parameter of the token if there is one that
is not empty. An escaped value consists of unreserved characters and percent signs with two digits,
all of them ASCII characters, and is decoded to the value. Two connections of one entrypoint have
the same URL when and only when they present the same. -/
theorem connection_by_parameters (entrypoint : String) (clientId : Option ClientId)
    (token : Option String) :
    let url := connection entrypoint clientId token
    (splitQuery url).1 = (splitQuery entrypoint).1 ∧
    parameters url = idParameters clientId ++ parameters entrypoint ++ tokenParameters token ∧
    (∀ value : String, Text.Escaped (Text.percentEncode value).toList ∧
      (∀ c ∈ (Text.percentEncode value).toList, c.toNat < 128) ∧
      Text.percentDecode (Text.percentEncode value) = some value) ∧
    ∀ (clientId' : Option ClientId) (token' : Option String),
      url = connection entrypoint clientId' token' ↔
        clientId = clientId' ∧ presented token = presented token' := by
  intro url
  obtain ⟨hbase, hparameters⟩ := splitQuery_connection entrypoint clientId token
  refine ⟨hbase, hparameters, ?_, ?_⟩
  · intro value
    have hwritten := Text.escaped_percentEncode value
    exact ⟨hwritten, hwritten.ascii, Text.percentDecode_percentEncode value⟩
  · intro clientId' token'
    have hparameters' := (splitQuery_connection entrypoint clientId' token').2
    constructor
    · intro h
      have hsame : parameters url = parameters (connection entrypoint clientId' token') :=
        congrArg parameters h
      rw [hparameters, hparameters'] at hsame
      exact presented_of_parameters hsame
    · rintro ⟨rfl, htoken⟩
      calc url = withToken (withClientId entrypoint clientId) (presented token) :=
            (withToken_presented _ _).symm
        _ = withToken (withClientId entrypoint clientId) (presented token') := by rw [htoken]
        _ = connection entrypoint clientId token' := withToken_presented _ _

end WorkspaceLink.Url
