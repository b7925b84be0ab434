import DatasetQuery.Proofs.Pools
/-!
Whose deadlines a channel has. A pool knows its channels by their addresses alone, so that whoever
asks for an address after another gets the channel of that other, and with it the other's deadlines
for calls and for connecting. Only the deadline that a backend keeps for itself is always the one of
its own settings.
-/
namespace DatasetQuery.Agent

theorem Endpoint.of_ofConfig {c : Config} {e : Endpoint} (valid : ofConfig c = .ok e) :
    uriOf c.endpoint = .ok e.uri ∧ e.timeout = c.timeout ∧ e.connectTimeout = c.connectTimeout := by
  unfold ofConfig at valid
  split at valid
  · cases valid
  · rename_i uri read
    dsimp only at valid
    split at valid
    · cases valid
    · cases valid
      exact ⟨read, rfl, rfl⟩

namespace Pool

variable {χ : Type}

/-- An event in which a channel was opened, with the settings of the one who asked. -/
structure Event.Opens (e : Event χ) (connect : Endpoint → χ) (opener : Config)
    (endpoint : Endpoint) : Prop where
  use : e.use = .channel connect opener true
  valid : Endpoint.ofConfig opener = .ok endpoint
  answer : e.answer = some (.ok (connect endpoint))

/-- If the log of an event tells of a new channel, then one was opened to that address. -/
def Event.IsTruthful (e : Event χ) : Prop :=
  ∀ address, created address ∈ e.log →
    ∃ connect opener endpoint, e.Opens connect opener endpoint ∧ opener.endpoint = address

theorem Event.Opens.success?_eq {e : Event χ} {connect : Endpoint → χ} {opener : Config}
    {endpoint : Endpoint} (opens : e.Opens connect opener endpoint) :
    e.success? = some (opener.endpoint, connect endpoint) := by
  rw [success?, opens.use, opens.answer]

theorem created_injective {address other : String} (same : created address = created other) :
    address = other := by
  cases same
  rfl

theorem newChannel_eq_ok {c : Config} {hasRuntime : Bool} {endpoint : Endpoint}
    (opened : newChannel c hasRuntime = .ok endpoint) :
    Endpoint.ofConfig c = .ok endpoint ∧ hasRuntime = true := by
  cases validity : Endpoint.ofConfig c with
  | error reason =>
    rw [newChannel_malformed validity] at opened
    cases opened
  | ok endpoint =>
    cases hasRuntime with
    | false =>
      rw [newChannel_outside validity] at opened
      cases opened
    | true =>
      rw [newChannel_inside validity] at opened
      exact ⟨opened, rfl⟩

theorem Outcome.isTruthful {p : Pool χ} {connect : Endpoint → χ} {c : Config} {hasRuntime : Bool}
    {x : Traced (Except Error χ × Pool χ)} (outcome : Outcome p connect c hasRuntime x)
    (handle : Handle) :
    Event.IsTruthful ⟨handle, .channel connect c hasRuntime, some x.value.1, x.log⟩ := by
  intro address told
  cases outcome with
  | found cached => cases List.mem_singleton.1 told
  | refused absent invalid => cases List.mem_singleton.1 told
  | @opened endpoint absent valid =>
    obtain ⟨validity, rfl⟩ := newChannel_eq_ok valid
    refine ⟨connect, c, endpoint, ⟨rfl, validity, rfl⟩, ?_⟩
    rcases List.mem_cons.1 told with ask | creation
    · cases ask
    · exact created_injective (List.mem_singleton.1 creation).symm

theorem perform_isTruthful (p : Pool χ) (handle : Handle) (use : Use χ) :
    Event.IsTruthful ⟨handle, use, (p.perform use).value.1, (p.perform use).log⟩ := by
  cases use with
  | channel connect c hasRuntime =>
    rw [perform_channel]
    exact (channelBy_outcome p connect c hasRuntime).isTruthful handle
  | clear =>
    intro address told
    simp [perform_clear, created] at told

/-- Events come from uses, and their logs are true. -/
theorem History.isTruthful_of (uses : List (Handle × Use χ)) :
    ∀ e ∈ (of uses).events, (e.handle, e.use) ∈ uses ∧ e.IsTruthful := by
  refine List.foldlRecOn (motive := fun past : History χ =>
    ∀ e ∈ past.events, (e.handle, e.use) ∈ uses ∧ e.IsTruthful) _ _
    (fun _ none => absurd none List.not_mem_nil) ?_
  intro past earlier u among
  exact List.forall_mem_cons.2 ⟨⟨among, perform_isTruthful _ u.1 u.2⟩, earlier⟩

theorem History.mem_events_of_mem_sinceClear {past : History χ} {handle : Handle} {e : Event χ}
    (recent : e ∈ past.sinceClear handle) : e ∈ past.events :=
  List.mem_of_mem_filter ((List.takeWhile_sublist _).subset recent)

/-- A use of a pool whose channels are known by the endpoints they were opened with. -/
inductive Call where
  | channel (c : Config) (hasRuntime : Bool)
  | clear

def Call.use : Call → Use Endpoint
  | channel c hasRuntime => .channel id c hasRuntime
  | clear => .clear

/-- The history of calls one after the other. -/
def History.ofCalls (calls : List (Handle × Call)) : History Endpoint :=
  .of (calls.map fun call => (call.1, call.2.use))

/-- A channel in a pool was opened since the last clear, with some settings for the address. -/
theorem exists_opener {calls : List (Handle × Call)} {handle : Handle} {address : String}
    {endpoint : Endpoint}
    (held : ((History.ofCalls calls).pools handle).channel? address = some endpoint) :
    ∃ e ∈ (History.ofCalls calls).sinceClear handle, ∃ opener,
      e.Opens id opener endpoint ∧ opener.endpoint = address := by
  have kept := History.kept_of (calls.map fun call => (call.1, call.2.use)) handle
  obtain ⟨e, recent, success, told⟩ := kept.origin _ (mem_channels held)
  obtain ⟨used, truthful⟩ :=
    History.isTruthful_of _ e (History.mem_events_of_mem_sinceClear recent)
  obtain ⟨connect, opener, opened, opens, rfl⟩ := truthful _ told
  -- calls open channels by their endpoints, so that the channel is the endpoint of the opener
  obtain ⟨call, _, same⟩ := List.mem_map.1 used
  have plain : connect = id := by
    have use := (congrArg Prod.snd same).trans opens.use
    cases kind : call.2 with
    | channel c hasRuntime =>
      rw [kind] at use
      cases use
      rfl
    | clear =>
      rw [kind] at use
      cases use
  subst plain
  have channel := opens.success?_eq.symm.trans success
  cases channel
  exact ⟨e, recent, opener, opens, rfl⟩

/-- What a backend is given when it is connected: its own deadline for its calls, and a channel to
its own address with the deadlines of whoever opened it. Only if the pool holds no channel to that
address is this the one who connects. -/
structure Serves (p : Pool) (since : List (Event Endpoint)) (c opener : Config)
    (endpoint : Endpoint) (backend : Backend) : Prop where
  own : backend = .ofConfig c
  address : Endpoint.uriOf c.endpoint = .ok endpoint.uri
  deadlines : endpoint.timeout = opener.timeout ∧ endpoint.connectTimeout = opener.connectTimeout
  first : p.contains c.endpoint = false → opener = c
  later : p.contains c.endpoint = true →
    opener.endpoint = c.endpoint ∧ ∃ e ∈ since, e.Opens id opener endpoint

theorem backend_eq_ok {p : Pool} {c : Config} {hasRuntime : Bool} {endpoint : Endpoint}
    {backend : Backend} (connected : (p.backend c hasRuntime).value.1 = .ok (endpoint, backend)) :
    (p.channelBy id c hasRuntime).value.1 = .ok endpoint ∧ backend = .ofConfig c := by
  have answer : (p.backend c hasRuntime).value.1 =
      (p.channelBy id c hasRuntime).value.1.map fun e => (e, .ofConfig c) := rfl
  rw [answer] at connected
  cases given : (p.channelBy id c hasRuntime).value.1 with
  | error e =>
    rw [given] at connected
    cases connected
  | ok e =>
    rw [given] at connected
    cases connected
    exact ⟨rfl, rfl⟩

/-- Whatever was done with the pools before, a backend is served with the deadlines of the one who
opened its channel. -/
theorem deadlines_are_of_the_opener (calls : List (Handle × Call)) (handle : Handle) (c : Config)
    (hasRuntime : Bool) :
    let p := (History.ofCalls calls).pools handle
    let since := (History.ofCalls calls).sinceClear handle
    ∀ endpoint backend, (p.backend c hasRuntime).value.1 = .ok (endpoint, backend) →
      ∃ opener, Serves p since c opener endpoint backend := by
  intro p since endpoint backend connected
  obtain ⟨given, own⟩ := backend_eq_ok connected
  have outcome := channelBy_outcome p id c hasRuntime
  generalize p.channelBy id c hasRuntime = x at given outcome
  cases outcome with
  | @found channel cached =>
    cases given
    obtain ⟨e, recent, opener, opens, same⟩ := exists_opener cached
    obtain ⟨address, deadlines⟩ := Endpoint.of_ofConfig opens.valid
    have held : p.contains c.endpoint = true := by rw [contains, cached, Option.isSome_some]
    rw [same] at address
    refine ⟨opener, own, address, deadlines, ?_, fun _ => ⟨same, e, recent, opens⟩⟩
    intro free
    cases held.symm.trans free
  | refused absent invalid => cases given
  | opened absent valid =>
    cases given
    obtain ⟨address, deadlines⟩ := Endpoint.of_ofConfig (newChannel_eq_ok valid).1
    refine ⟨c, own, address, deadlines, fun _ => rfl, ?_⟩
    intro held
    exact absurd held (not_contains_of_absent absent)

theorem deadlines_are_of_the_opener_before :
    let hasty := (((Config.of "secret").withEndpoint "http://127.0.0.1:50051").withTimeout
      (.ofSeconds 1)).withConnectTimeout (.ofSeconds 1)
    let patient := (hasty.withTimeout (.ofSeconds 60)).withConnectTimeout (.ofSeconds 10)
    let past := History.ofCalls [(⟨0⟩, .channel hasty true)]
    ∃ endpoint opener,
      ((past.pools ⟨0⟩).backend patient false).value.1 = .ok (endpoint, .ofConfig patient) ∧
      Serves (past.pools ⟨0⟩) (past.sinceClear ⟨0⟩) patient opener endpoint (.ofConfig patient) ∧
      opener.timeout = hasty.timeout ∧ opener.connectTimeout = hasty.connectTimeout := by
  intro hasty patient past
  obtain ⟨endpoint, connected, timeout, connectTimeout⟩ : ∃ endpoint : Endpoint,
      ((past.pools ⟨0⟩).backend patient false).value.1 = .ok (endpoint, .ofConfig patient) ∧
        endpoint.timeout = hasty.timeout ∧ endpoint.connectTimeout = hasty.connectTimeout := by
    unfold past patient hasty
    exact ⟨_, rfl, rfl, rfl⟩
  obtain ⟨opener, serves⟩ :=
    deadlines_are_of_the_opener [(⟨0⟩, .channel hasty true)] ⟨0⟩ patient false _ _ connected
  have opened := serves.deadlines
  rw [timeout, connectTimeout] at opened
  exact ⟨endpoint, opener, connected, serves, opened.1.symm, opened.2.symm⟩

/-- Who comes second to an address has the deadlines of who came first, not those it asked for. -/
theorem deadlines_of_another :
    let hasty := (((Config.of "secret").withEndpoint "http://127.0.0.1:50051").withTimeout
      (.ofSeconds 1)).withConnectTimeout (.ofSeconds 1)
    let patient := (hasty.withTimeout (.ofSeconds 60)).withConnectTimeout (.ofSeconds 10)
    let p := (History.ofCalls [(⟨0⟩, .channel hasty true)]).pools ⟨0⟩
    ∃ endpoint, (p.backend patient false).value.1 = .ok (endpoint, .ofConfig patient) ∧
      endpoint.timeout = .ofSeconds 1 ∧ patient.timeout = .ofSeconds 60 ∧
      endpoint.connectTimeout = .ofSeconds 1 ∧ patient.connectTimeout = .ofSeconds 10 :=
  ⟨_, rfl, rfl, rfl, rfl, rfl⟩

end Pool

end DatasetQuery.Agent
