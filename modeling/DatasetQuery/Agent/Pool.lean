import DatasetQuery.Agent.Endpoint
import DatasetQuery.Log
import DatasetQuery.Table.Basic
/-!
Pools of channels, one for each address as it is written. A channel stays in its pool until the pool
is cleared, whatever settings later callers bring along. What a channel is does not matter to a pool:
one is opened by `connect`, which may give another every time.
-/
namespace DatasetQuery.Agent

variable {χ : Type}

/-- Where nothing else is said, a channel is known by the endpoint it was opened with. -/
structure Pool (χ : Type := Endpoint) where
  channels : List (String × χ)

namespace Pool

def empty : Pool χ := ⟨[]⟩

def addresses (p : Pool χ) : List String := p.channels.map Prod.fst

def channel? (p : Pool χ) (address : String) : Option χ := p.channels.lookup address

def contains (p : Pool χ) (address : String) : Bool := (p.channel? address).isSome

def size (p : Pool χ) : Nat := p.channels.length

def isEmpty (p : Pool χ) : Bool := p.channels.isEmpty

def insert (p : Pool χ) (address : String) (channel : χ) : Pool χ :=
  ⟨p.channels ++ [(address, channel)]⟩

theorem channel?_insert (p : Pool χ) (address : String) (channel : χ)
    (absent : p.channel? address = none) : (p.insert address channel).channel? address = some channel := by
  simp only [channel?, insert] at absent ⊢
  rw [List.lookup_append, absent]
  simp

theorem channel?_insert_other (p : Pool χ) (address other : String) (channel : χ)
    (different : other ≠ address) :
    (p.insert address channel).channel? other = p.channel? other := by
  have apart : (other == address) = false := beq_false_of_ne different
  simp [channel?, insert, List.lookup_append, List.lookup_cons, apart]

def outsideRuntime (address : String) : Error :=
  .config ("channel to '" ++ address ++ "' must be created inside a tokio runtime")

/-- What a new channel is opened with. A malformed endpoint is reported before the lack of a
runtime. -/
def newChannel (c : Config) (hasRuntime : Bool) : Except Error Endpoint :=
  match Endpoint.ofConfig c with
  | .error e => .error e
  | .ok e => if hasRuntime then .ok e else .error (outsideRuntime c.endpoint)

/-- What is logged of a new channel. -/
def created (address : String) : LogEntry :=
  .event "created agent channel" .debug [("address", address)]

/-- The channel to an address for those who found none and now hold the lock. They look again, for
another may have come first; a new channel is kept. -/
def lockedChannel (p : Pool χ) (connect : Endpoint → χ) (c : Config) (hasRuntime : Bool) :
    Traced (Except Error χ × Pool χ) := do
  match p.channel? c.endpoint with
  | some channel => return (.ok channel, p)
  | none =>
    match newChannel c hasRuntime with
    | .error e => return (.error e, p)
    | .ok e => do
      let channel := connect e
      Traced.record (created c.endpoint)
      return (.ok channel, p.insert c.endpoint channel)

/-- The channel to an address: the one in the pool, or else a new one. -/
def channelBy (p : Pool χ) (connect : Endpoint → χ) (c : Config) (hasRuntime : Bool) :
    Traced (Except Error χ × Pool χ) := do
  Traced.record (.span "agent::pool::channel" .trace [("endpoint", c.endpoint)])
  match p.channel? c.endpoint with
  | some channel => return (.ok channel, p)
  | none => p.lockedChannel connect c hasRuntime

def channel (p : Pool) (c : Config) (hasRuntime : Bool) : Traced (Except Error Endpoint × Pool) :=
  p.channelBy id c hasRuntime

/-- A backend with the settings of a caller, and the channel in the pool that it sends on. -/
def backend (p : Pool) (c : Config) (hasRuntime : Bool) :
    Traced (Except Error (Endpoint × Backend) × Pool) := do
  let (channel, next) ← p.channel c hasRuntime
  return (channel.map fun e => (e, .ofConfig c), next)

/-- Forgets every channel. -/
def clear (_ : Pool χ) : Traced (Pool χ) := do
  Traced.record (.event "cleared agent channels" .debug [])
  return empty

end Pool

/-- The endpoint that a client connects to at once, without a pool. -/
def Endpoint.forClient (c : Config) : Traced (Except Error Endpoint) := do
  Traced.record (.span "agent::client::connect" .debug [("endpoint", c.endpoint)])
  return Endpoint.ofConfig c

end DatasetQuery.Agent
