import DatasetQuery.Error
import DatasetQuery.Text.Record
/-!
Where the agent lives and how to talk to it.
-/
namespace DatasetQuery.Agent

structure Config where
  endpoint : String
  token : String
  /-- The deadline of each remote call. -/
  timeout : Duration
  connectTimeout : Duration
  deriving DecidableEq

namespace Config

def defaultEndpoint : String := "https://agent.dpm.sh"

def defaultTimeout : Duration := .ofSeconds 30

def defaultConnectTimeout : Duration := .ofSeconds 10

def of (token : String) : Config :=
  ⟨defaultEndpoint, token, defaultTimeout, defaultConnectTimeout⟩

def endpointVariable : String := "DPM_AGENT_URL"

def tokenVariable : String := "DPM_AUTH_TOKEN"

/-- An empty variable counts as absent. -/
def setting (environment : String → Option String) (key : String) : Option String :=
  (environment key).filter fun value => value ≠ ""

/-- The token is required; without an endpoint the default one is taken. -/
def ofEnvironment (environment : String → Option String) : Except Error Config :=
  match setting environment tokenVariable with
  | none => .error (.config (tokenVariable ++ " is not set"))
  | some token =>
    .ok { of token with
      endpoint := (setting environment endpointVariable).getD defaultEndpoint }

def withEndpoint (c : Config) (endpoint : String) : Config := { c with endpoint }

def withToken (c : Config) (token : String) : Config := { c with token }

def withTimeout (c : Config) (timeout : Duration) : Config := { c with timeout }

def withConnectTimeout (c : Config) (connectTimeout : Duration) : Config :=
  { c with connectTimeout }

/-- The token is never shown. -/
def description (c : Config) : String :=
  Text.record "AgentConfig"
    [("endpoint", Text.quoted c.endpoint), ("auth_token", Text.quoted "<redacted>"),
      ("timeout", c.timeout.text), ("connect_timeout", c.connectTimeout.text)]

end Config

end DatasetQuery.Agent
