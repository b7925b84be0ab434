import DatasetQuery.Json.Reader
import DatasetQuery.Log
import DatasetQuery.Table.Query
/-!
Running tables on an agent. A run sends at most one request and waits no longer than the
deadline for the reply. Compiling asks for the text of the query only; executing asks for its
rows.
-/
namespace DatasetQuery

namespace Agent

structure Request where
  query : Wire.Query
  token : String
  deadline : Duration

/-- The name under which the token travels. -/
def tokenHeader : String := "dpm-auth-token"

/-- What travels beside the query. -/
def Request.metadata (r : Request) : List (String × String) :=
  [(tokenHeader, r.token), ("grpc-timeout", r.deadline.deadline)]

/-- What an agent does with a request. -/
inductive Reply where
  | answered (delay : Duration) (result : Wire.QueryResult)
  | refused (delay : Duration) (code : StatusCode) (detail : String)
  | silent

/-- An agent, seen from outside. -/
abbrev Service := Request → Reply

/-- The characters that header values cannot have: control characters other than the tab. -/
def isControl (c : Char) : Bool := (c.toNat < 32 ∧ c ≠ '\t') ∨ c.toNat = 127

def isHeaderValue (token : String) : Bool := !token.toList.any isControl

def invalidToken : Error := .config "auth token is not a valid header value"

/-- Waits are measured in whole milliseconds, rounded up. -/
def isLate (deadline delay : Duration) : Bool := deadline.milliseconds < delay.milliseconds

/-- What comes of a reply: one that takes longer than the deadline counts as none. -/
def Reply.outcome (deadline : Duration) : Reply → Except Error Wire.QueryResult
  | answered delay result =>
    if isLate deadline delay then .error (.timeout deadline) else .ok result
  | refused delay code detail =>
    if isLate deadline delay then .error (.timeout deadline) else .error (.rpc code detail)
  | silent => .error (.timeout deadline)

/-- The outcome of a run, and the requests it sent. -/
structure Exchange (α : Type) where
  outcome : Except Error α
  requests : List Request

namespace Exchange

/-- A run that failed before anything was sent. -/
def unsent {α : Type} (error : Error) : Exchange α := ⟨.error error, []⟩

end Exchange

end Agent

namespace Backend

open Agent

/-- A token that is no header value is refused before anything is sent. Every deadline is taken to be
one that the transport accepts; of those without a unit nothing is known. -/
def send (b : Backend) (service : Service) (query : Wire.Query) : Exchange Wire.QueryResult :=
  if isHeaderValue b.token then
    let request : Request := ⟨query, b.token, b.timeout⟩
    ⟨(service request).outcome b.timeout, [request]⟩
  else .unsent invalidToken

end Backend

namespace Table

open Agent

/-- The query of a table; every time it is made is logged. -/
def tracedQuery (t : Table) : Traced (Except Error Wire.Query) := do
  Traced.record (.span "agent::translate::make_query" .trace [("table", t.name)])
  return t.toQuery

/-- The two ways of running a table. -/
inductive Run where
  | compile | execute
  deriving DecidableEq

namespace Run

def name : Run → String
  | compile => "compile"
  | execute => "execute"

/-- A compilation is marked as one in the query. -/
def dryRun : Run → Option Bool
  | compile => some true
  | execute => none

end Run

/-- Sends the query of a table: first a backend is needed, then the query itself, then a token. -/
def run (t : Table) (run : Run) (service : Service) : Traced (Exchange Wire.QueryResult) := do
  Traced.record (.span ("table::" ++ run.name) .debug [("table", t.name)])
  match t.backend with
  | none => return .unsent .missingBackend
  | some backend => do
    Traced.record (.span ("agent::backend::" ++ run.name) .debug [("table", t.name)])
    let made ← t.tracedQuery
    match made with
    | .error e => return .unsent e
    | .ok query => return backend.send service { query with dryRun := run.dryRun }

/-- The text of the query, as the agent would run it. -/
def compile (t : Table) (service : Service) : Traced (Exchange String) := do
  let exchange ← t.run .compile service
  match exchange.outcome with
  | .error e => return ⟨.error e, exchange.requests⟩
  | .ok result => do
    Traced.record
      (.event "compiled query" .debug [("len", toString result.queryString.utf8ByteSize)])
    return ⟨.ok result.queryString, exchange.requests⟩

/-- The rows of the query. -/
def execute (t : Table) (service : Service) : Traced (Exchange (List Json.Row)) := do
  let exchange ← t.run .execute service
  match exchange.outcome with
  | .error e => return ⟨.error e, exchange.requests⟩
  | .ok result =>
    match Json.rows? result.jsonData with
    | none => return ⟨.error .resultDecode, exchange.requests⟩
    | some rows => do
      Traced.record (.event "executed query" .debug [("rows", toString rows.length)])
      return ⟨.ok rows, exchange.requests⟩

end Table

end DatasetQuery
