import QuadPull.Settings.Source
/-!
Settings of a connection to an endpoint (`SPARQLEndpointConfig`), and the headers of its requests.
-/

namespace QuadPull

structure ConnectionSettings where
  url : Value
  timeout : Value := .double (.ofRatio false 30 1)
  token : Value := .absent
  headers : Value := .record []

namespace ConnectionSettings

def webUrl (s : String) : Bool := s.startsWith "http://" || s.startsWith "https://"

def urlFaults : Value → Except Error (List SettingFault)
  | .text s => .ok (if webUrl s then [] else [.urlScheme (Text.quoted s)])
  | .bytes _ => .error .wrongKind
  | _ => .error .notOffered

def faults (s : ConnectionSettings) : Except Error (List SettingFault) := do
  let url ← urlFaults s.url
  let expired ← s.timeout.notPositive
  return url ++ if expired then [.timeout] else []

def ensureValid (s : ConnectionSettings) : Except Error Unit := Settings.ensure s.faults

/-- The headers under their names. Making them takes the items of the headers: `drained` is what the
settings are afterwards. -/
def headerPairs (s : ConnectionSettings) : Except Error (List (Value × Value)) := do
  let pairs ← s.headers.toPairs
  return pairs.foldl Value.putPair []

def toRecord (s : ConnectionSettings) : Except Error (List (String × Value)) := do
  let headers ← s.headerPairs
  return [("url", s.url), ("timeout_seconds", s.timeout), ("headers", .record headers)]

def drained (s : ConnectionSettings) : ConnectionSettings := { s with headers := s.headers.drained }

def requestHeaders (s : ConnectionSettings) : Except Error (List (Value × Value)) := do
  let accept := [(Value.text "Accept", Value.text "application/sparql-results+json")]
  let authorization ←
    if s.token.truthy then do
      let token ← s.token.display
      pure [(Value.text "Authorization", Value.text ("Bearer " ++ token))]
    else pure []
  let headers ← s.headers.toPairs
  return headers.foldl Value.putPair (accept ++ authorization)

def ofFields (fields : List (String × Value)) : Except Error ConnectionSettings := do
  Settings.onlyFields ["url", "timeout_seconds", "auth_token", "headers"] fields
  match fields.lookup "url" with
  | none => throw .wrongKind
  | some url =>
    let default : ConnectionSettings := { url }
    return {
      url
      timeout := Settings.valueOr fields "timeout_seconds" default.timeout
      token := Settings.valueOr fields "auth_token" default.token
      headers := Settings.valueOr fields "headers" default.headers }

def load (fields : List (String × Value)) : Except Error ConnectionSettings := do
  match fields.lookup "url" with
  | none => throw (.settings .urlRequired)
  | some url =>
    let default : ConnectionSettings := { url }
    let timeout ← Settings.readAs Value.toDouble .notNumber "timeout_seconds"
      (Settings.valueOr fields "timeout_seconds" default.timeout)
    let headers ← (Settings.valueOr fields "headers" default.headers).toPairs
    let s : ConnectionSettings := {
      url
      timeout := .double timeout
      token := Settings.valueOr fields "auth_token" default.token
      headers := .list (headers.map fun h => .tuple [h.1, h.2]) }
    s.ensureValid
    return s

def variableField (environment : List (String × Value)) (name key : String) :
    List (String × Value) :=
  match environment.lookup (Settings.variableStem ++ name) with
  | none => []
  | some v => [(key, v)]

def loadEnvironment (environment : List (String × Value)) : Except Error ConnectionSettings := do
  let url := Settings.valueOr environment (Settings.variableStem ++ "SPARQL_URL") .absent
  if !url.truthy then throw (.settings (.variableUnset (Settings.variableStem ++ "SPARQL_URL")))
  load (("url", url) :: variableField environment "SPARQL_TIMEOUT" "timeout_seconds" ++
    variableField environment "SPARQL_TOKEN" "auth_token")

end ConnectionSettings

end QuadPull
