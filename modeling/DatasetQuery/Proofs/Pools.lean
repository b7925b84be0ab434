import DatasetQuery.Agent.Pool
import DatasetQuery.Proofs.Calls
import Mathlib.Data.List.Dedup
import Mathlib.Logic.Function.Basic
/-!
Runs of uses of pools, each through some handle. Between two clears a pool opens at most one channel
for an address, and whoever asks for that address gets this very channel: what a caller brings along
to open one is used for the first call only.
-/
namespace DatasetQuery.Agent

/-- The only errors of an endpoint are errors of its configuration. -/
theorem Endpoint.ofConfig_error {c : Config} {e : Error} (malformed : ofConfig c = .error e) :
    ∃ message, e = .config message := by
  have address {reason : Error} (refused : uriOf c.endpoint = .error reason) :
      ∃ message, reason = .config message := by
    unfold uriOf at refused
    split at refused
    · exact ⟨_, (Except.error.inj refused).symm⟩
    · split at refused
      · exact ⟨_, (Except.error.inj refused).symm⟩
      · cases refused
  unfold ofConfig at malformed
  split at malformed
  · next reason refused =>
    cases malformed
    exact address refused
  · next uri read =>
    dsimp only at malformed
    split at malformed
    · exact ⟨_, (Except.error.inj malformed).symm⟩
    · cases malformed

namespace Pool

variable {χ : Type}

/-- Clones of a handle lead to the pool that it was made for. -/
structure Handle where
  pool : Nat
  deriving DecidableEq

inductive Use (χ : Type) where
  | channel (connect : Endpoint → χ) (c : Config) (hasRuntime : Bool)
  | clear

def Use.isClear : Use χ → Bool
  | clear => true
  | channel _ _ _ => false

def perform (p : Pool χ) : Use χ → Traced (Option (Except Error χ) × Pool χ)
  | .channel connect c hasRuntime => do
    let (answer, next) ← p.channelBy connect c hasRuntime
    return (some answer, next)
  | .clear => do
    let next ← p.clear
    return (none, next)

/-- A use of a pool as it went. Clearing is not answered. -/
structure Event (χ : Type) where
  handle : Handle
  use : Use χ
  answer : Option (Except Error χ)
  log : Log

/-- The address that was asked for with success, and the channel to it. -/
def Event.success? (e : Event χ) : Option (String × χ) :=
  match e.use, e.answer with
  | .channel _ c _, some (.ok channel) => some (c.endpoint, channel)
  | _, _ => none

/-- What was done with the pools there are, the newest event first, and what they hold now. -/
structure History (χ : Type) where
  events : List (Event χ)
  pools : Handle → Pool χ

namespace History

def start : History χ := ⟨[], fun _ => .empty⟩

def continued (past : History χ) (handle : Handle) (use : Use χ) : History χ :=
  let performed := (past.pools handle).perform use
  ⟨⟨handle, use, performed.value.1, performed.log⟩ :: past.events,
    Function.update past.pools handle performed.value.2⟩

/-- The history of uses one after the other. -/
def of (uses : List (Handle × Use χ)) : History χ :=
  uses.foldl (fun past u => past.continued u.1 u.2) start

/-- The events of one pool after it was last cleared. -/
def sinceClear (past : History χ) (handle : Handle) : List (Event χ) :=
  (past.events.filter (·.handle = handle)).takeWhile (!·.use.isClear)

end History

/-- The addresses of calls that succeeded, as often as they did. -/
def served (events : List (Event χ)) : List String :=
  events.filterMap fun e => e.success?.map Prod.fst

/-- Whether an entry tells of a new channel. -/
def isCreation (entry : LogEntry) : Bool := entry.message? == some "created agent channel"

/-- What every call leaves in the log. -/
def asked (c : Config) : LogEntry :=
  .span "agent::pool::channel" .trace [("endpoint", c.endpoint)]

@[simp]
theorem isCreation_asked (c : Config) : isCreation (asked c) = false := rfl

@[simp]
theorem isCreation_created (address : String) : isCreation (created address) = true := rfl

theorem contains_iff {p : Pool χ} {address : String} :
    p.contains address = true ↔ address ∈ p.addresses := by
  simp [contains, channel?, addresses, List.lookup_isSome_iff]

theorem not_contains_of_absent {p : Pool χ} {address : String}
    (absent : p.channel? address = none) : ¬p.contains address = true := by
  simp [contains, absent]

theorem addresses_insert (p : Pool χ) (address : String) (channel : χ) :
    (p.insert address channel).addresses = p.addresses ++ [address] := by
  simp [addresses, insert]

theorem mem_channels {p : Pool χ} {address : String} {channel : χ}
    (found : p.channel? address = some channel) : (address, channel) ∈ p.channels := by
  obtain ⟨before, after, parts, _⟩ := List.lookup_eq_some_iff.1 found
  rw [parts]
  exact List.mem_append_right before List.mem_cons_self

/-- The ways in which a call for a channel goes. -/
inductive Outcome (p : Pool χ) (connect : Endpoint → χ) (c : Config) (hasRuntime : Bool) :
    Traced (Except Error χ × Pool χ) → Prop where
  | found {channel : χ} (cached : p.channel? c.endpoint = some channel) :
      Outcome p connect c hasRuntime ⟨(.ok channel, p), [asked c]⟩
  | refused {e : Error} (absent : p.channel? c.endpoint = none)
      (invalid : newChannel c hasRuntime = .error e) :
      Outcome p connect c hasRuntime ⟨(.error e, p), [asked c]⟩
  | opened {endpoint : Endpoint} (absent : p.channel? c.endpoint = none)
      (valid : newChannel c hasRuntime = .ok endpoint) :
      Outcome p connect c hasRuntime
        ⟨(.ok (connect endpoint), p.insert c.endpoint (connect endpoint)),
          [asked c, created c.endpoint]⟩

/-- Looking before the lock is held spares the lock, and changes nothing else. -/
theorem channelBy_eq (p : Pool χ) (connect : Endpoint → χ) (c : Config) (hasRuntime : Bool) :
    p.channelBy connect c hasRuntime =
      Traced.record (asked c) >>= fun _ => p.lockedChannel connect c hasRuntime := by
  unfold channelBy lockedChannel
  cases p.channel? c.endpoint <;> rfl

theorem channelBy_outcome (p : Pool χ) (connect : Endpoint → χ) (c : Config) (hasRuntime : Bool) :
    Outcome p connect c hasRuntime (p.channelBy connect c hasRuntime) := by
  rw [channelBy_eq]
  unfold lockedChannel
  cases held : p.channel? c.endpoint with
  | some channel => exact .found held
  | none =>
    cases validity : newChannel c hasRuntime with
    | error e => exact .refused held validity
    | ok endpoint => exact .opened held validity

/-- What a pool holds, by the events since it was last cleared: every channel was opened in one of
them, and all that succeeded were answered with channels that it holds. -/
structure Kept (since : List (Event χ)) (p : Pool χ) : Prop where
  once : p.addresses.Nodup
  answered : ∀ e ∈ since, ∀ entry, e.success? = some entry → entry ∈ p.channels
  origin : ∀ entry ∈ p.channels, ∃ e ∈ since, e.success? = some entry ∧ created entry.1 ∈ e.log
  logged : (since.reverse.flatMap Event.log).filter isCreation = p.addresses.map created

theorem kept_empty : Kept [] (empty : Pool χ) := by
  constructor <;> simp [addresses, empty]

/-- The history of a pool, with one more event in it. -/
theorem Kept.origin_of_later {since : List (Event χ)} {p : Pool χ} (kept : Kept since p)
    (e : Event χ) : ∀ entry ∈ p.channels,
      ∃ e' ∈ e :: since, e'.success? = some entry ∧ created entry.1 ∈ e'.log := by
  intro entry held
  obtain ⟨source, among, success, creation⟩ := kept.origin entry held
  exact ⟨source, List.mem_cons_of_mem e among, success, creation⟩

/-- A call adds its event, and its channel if it opens one. -/
theorem Kept.called {since : List (Event χ)} {p : Pool χ} (kept : Kept since p) (handle : Handle)
    {connect : Endpoint → χ} {c : Config} {hasRuntime : Bool}
    {x : Traced (Except Error χ × Pool χ)} (outcome : Outcome p connect c hasRuntime x) :
    Kept (⟨handle, .channel connect c hasRuntime, some x.value.1, x.log⟩ :: since) x.value.2 := by
  cases outcome with
  | found cached =>
    refine ⟨kept.once, ?_, kept.origin_of_later _, by simp [kept.logged]⟩
    refine List.forall_mem_cons.2 ⟨?_, kept.answered⟩
    rintro entry ⟨⟩
    exact mem_channels cached
  | refused absent invalid =>
    refine ⟨kept.once, ?_, kept.origin_of_later _, by simp [kept.logged]⟩
    exact List.forall_mem_cons.2 ⟨nofun, kept.answered⟩
  | opened absent valid =>
    refine ⟨?_, ?_, ?_, by simp [addresses_insert, kept.logged]⟩
    · rw [addresses_insert, ← List.concat_eq_append]
      exact kept.once.concat (mt contains_iff.2 (not_contains_of_absent absent))
    · refine List.forall_mem_cons.2 ⟨?_, ?_⟩
      · rintro entry ⟨⟩
        exact List.mem_append_right p.channels List.mem_cons_self
      · intro e earlier entry success
        exact List.mem_append_left _ (kept.answered e earlier entry success)
    · intro entry held
      rcases List.mem_append.1 held with before | new
      · exact kept.origin_of_later _ entry before
      · cases List.mem_singleton.1 new
        exact ⟨_, List.mem_cons_self, rfl, by simp⟩

theorem perform_channel (p : Pool χ) (connect : Endpoint → χ) (c : Config) (hasRuntime : Bool) :
    p.perform (.channel connect c hasRuntime) =
      ⟨(some (p.channelBy connect c hasRuntime).value.1,
        (p.channelBy connect c hasRuntime).value.2), (p.channelBy connect c hasRuntime).log⟩ :=
  congrArg (Traced.mk _) (List.append_nil _)

theorem perform_clear (p : Pool χ) :
    p.perform .clear = ⟨(none, empty), [.event "cleared agent channels" .debug []]⟩ := rfl

namespace History

variable {past : History χ}

/-- What is done through a handle does not concern the pools of others. -/
theorem continued_other {handle other : Handle} (different : other ≠ handle) (use : Use χ) :
    (past.continued handle use).sinceClear other = past.sinceClear other ∧
      (past.continued handle use).pools other = past.pools other := by
  simp [continued, sinceClear, different, different.symm]

theorem sinceClear_channel (handle : Handle) (connect : Endpoint → χ) (c : Config)
    (hasRuntime : Bool) :
    let x := (past.pools handle).channelBy connect c hasRuntime
    (past.continued handle (.channel connect c hasRuntime)).sinceClear handle =
      ⟨handle, .channel connect c hasRuntime, some x.value.1, x.log⟩ :: past.sinceClear handle := by
  simp [continued, sinceClear, perform_channel, Use.isClear]

theorem kept_continued (kept : ∀ handle, Kept (past.sinceClear handle) (past.pools handle))
    (handle : Handle) (use : Use χ) (other : Handle) :
    Kept ((past.continued handle use).sinceClear other)
      ((past.continued handle use).pools other) := by
  by_cases same : other = handle
  · subst same
    cases use with
    | channel connect c hasRuntime =>
      have pool : (past.continued other (.channel connect c hasRuntime)).pools other =
          ((past.pools other).channelBy connect c hasRuntime).value.2 := by
        simp [continued, perform_channel]
      rw [sinceClear_channel, pool]
      exact (kept other).called other (channelBy_outcome _ connect c hasRuntime)
    | clear =>
      have pool : (past.continued other .clear).pools other = empty := by
        simp [continued, perform_clear]
      have forgotten : (past.continued other .clear).sinceClear other = [] := by
        simp [continued, sinceClear, Use.isClear]
      rw [forgotten, pool]
      exact kept_empty
  · obtain ⟨events, pool⟩ := past.continued_other same use
    rw [events, pool]
    exact kept other

/-- Whatever run leads to a pool, its events since the last clear tell what it holds. -/
theorem kept_of (uses : List (Handle × Use χ)) (handle : Handle) :
    Kept ((of uses).sinceClear handle) ((of uses).pools handle) := by
  have first (h : Handle) : Kept ((start : History χ).sinceClear h) (start.pools h) := kept_empty
  refine List.foldlRecOn (motive := fun past : History χ =>
    ∀ h, Kept (past.sinceClear h) (past.pools h)) _ _ first ?_ handle
  intro past kept u _
  exact kept_continued kept u.1 u.2

end History

/-- What a pool holds and has logged, told by the calls since it was last cleared. -/
structure Mirrors (p : Pool χ) (since : List (Event χ)) : Prop where
  addresses : p.addresses.Perm (served since).dedup
  contains : ∀ address, p.contains address = true ↔ address ∈ served since
  size : p.size = (served since).dedup.length
  logged : (since.reverse.flatMap Event.log).filter isCreation = p.addresses.map created

/-- How a pool answers a call, told by the calls since it was last cleared. -/
structure Answers (p : Pool χ) (since : List (Event χ)) (connect : Endpoint → χ) (c : Config)
    (hasRuntime : Bool) (x : Traced (Except Error χ × Pool χ)) : Prop where
  cached : p.contains c.endpoint = true →
    ∃ origin ∈ since, ∃ channel, origin.success? = some (c.endpoint, channel) ∧
      created c.endpoint ∈ origin.log ∧ x = ⟨(.ok channel, p), [asked c]⟩
  opened : p.contains c.endpoint = false → ∀ endpoint, Endpoint.ofConfig c = .ok endpoint →
    hasRuntime = true → x = ⟨(.ok (connect endpoint), p.insert c.endpoint (connect endpoint)),
      [asked c, created c.endpoint]⟩
  malformed : p.contains c.endpoint = false → ∀ error, Endpoint.ofConfig c = .error error →
    x = ⟨(.error error, p), [asked c]⟩
  outside : p.contains c.endpoint = false → ∀ endpoint, Endpoint.ofConfig c = .ok endpoint →
    hasRuntime = false → x = ⟨(.error (outsideRuntime c.endpoint), p), [asked c]⟩
  refused : ∀ error, x.value.1 = .error error → ∃ message, error = .config message

section

variable {c : Config}

theorem newChannel_malformed {e : Error} (malformed : Endpoint.ofConfig c = .error e)
    (hasRuntime : Bool) : newChannel c hasRuntime = .error e := by
  simp [newChannel, malformed]

theorem newChannel_outside {endpoint : Endpoint} (valid : Endpoint.ofConfig c = .ok endpoint) :
    newChannel c false = .error (outsideRuntime c.endpoint) := by
  simp [newChannel, valid]

theorem newChannel_inside {endpoint : Endpoint} (valid : Endpoint.ofConfig c = .ok endpoint) :
    newChannel c true = .ok endpoint := by
  simp [newChannel, valid]

theorem newChannel_error {hasRuntime : Bool} {e : Error}
    (invalid : newChannel c hasRuntime = .error e) : ∃ message, e = .config message := by
  cases validity : Endpoint.ofConfig c with
  | error reason =>
    rw [newChannel_malformed validity] at invalid
    cases invalid
    exact Endpoint.ofConfig_error validity
  | ok endpoint =>
    cases hasRuntime with
    | false =>
      rw [newChannel_outside validity] at invalid
      cases invalid
      exact ⟨_, rfl⟩
    | true =>
      rw [newChannel_inside validity] at invalid
      cases invalid

end

theorem Kept.mem_served {since : List (Event χ)} {p : Pool χ} (kept : Kept since p)
    {address : String} : address ∈ p.addresses ↔ address ∈ served since := by
  simp only [addresses, served, List.mem_map, List.mem_filterMap, Option.map_eq_some_iff]
  constructor
  · rintro ⟨entry, held, rfl⟩
    obtain ⟨e, among, success, _⟩ := kept.origin entry held
    exact ⟨e, among, entry, success, rfl⟩
  · rintro ⟨e, among, entry, success, rfl⟩
    exact ⟨entry, kept.answered e among entry success, rfl⟩

theorem Kept.mirrors {since : List (Event χ)} {p : Pool χ} (kept : Kept since p) :
    p.Mirrors since := by
  have permuted : p.addresses.Perm (served since).dedup := by
    apply (List.perm_ext_iff_of_nodup kept.once (List.nodup_dedup _)).2
    intro address
    rw [List.mem_dedup, kept.mem_served]
  refine ⟨permuted, ?_, ?_, kept.logged⟩
  · intro address
    rw [contains_iff, kept.mem_served]
  · rw [← permuted.length_eq, Pool.addresses, List.length_map, size]

theorem Kept.answers {since : List (Event χ)} {p : Pool χ} (kept : Kept since p)
    {connect : Endpoint → χ} {c : Config} {hasRuntime : Bool}
    {x : Traced (Except Error χ × Pool χ)} (outcome : Outcome p connect c hasRuntime x) :
    p.Answers since connect c hasRuntime x := by
  cases outcome with
  | found cached =>
    have held : p.contains c.endpoint = true := by rw [contains, cached, Option.isSome_some]
    rw [← Bool.not_eq_false] at held
    refine ⟨fun _ => ?_, fun free => absurd free held, fun free => absurd free held,
      fun free => absurd free held, nofun⟩
    obtain ⟨origin, among, success, creation⟩ := kept.origin _ (mem_channels cached)
    exact ⟨origin, among, _, success, creation, rfl⟩
  | refused absent invalid =>
    refine ⟨fun held => absurd held (not_contains_of_absent absent), ?_, ?_, ?_, ?_⟩
    · rintro _ endpoint valid rfl
      cases invalid.symm.trans (newChannel_inside valid)
    · intro _ error malformed
      cases invalid.symm.trans (newChannel_malformed malformed hasRuntime)
      rfl
    · rintro _ endpoint valid rfl
      cases invalid.symm.trans (newChannel_outside valid)
      rfl
    · rintro error ⟨⟩
      exact newChannel_error invalid
  | opened absent valid =>
    refine ⟨fun held => absurd held (not_contains_of_absent absent), ?_, ?_, ?_, nofun⟩
    · rintro _ endpoint validated rfl
      cases valid.symm.trans (newChannel_inside validated)
      rfl
    · intro _ error malformed
      cases valid.symm.trans (newChannel_malformed malformed hasRuntime)
    · rintro _ endpoint validated rfl
      cases valid.symm.trans (newChannel_outside validated)

/-- Whatever is done with pools through whichever handles, each keeps one channel for an address
from the first call that succeeds to the next clear, and answers every call for it with that
channel. -/
theorem pools_keep_one_channel_per_address (uses : List (Handle × Use χ)) (handle : Handle) :
    let p := (History.of uses).pools handle
    let since := (History.of uses).sinceClear handle
    p.Mirrors since ∧ ∀ connect c hasRuntime,
      p.Answers since connect c hasRuntime (p.channelBy connect c hasRuntime) := by
  intro p since
  have kept : Kept since p := History.kept_of uses handle
  refine ⟨kept.mirrors, ?_⟩
  intro connect c hasRuntime
  exact kept.answers (channelBy_outcome p connect c hasRuntime)

/-- The second caller gets the first channel without a runtime; after a clear a new one is needed. -/
example :
    let c := (Config.of "secret").withEndpoint "http://127.0.0.1:50051"
    let h : Handle := ⟨0⟩
    let uses := [(h, Use.channel (fun _ => 1) c true), (h, .channel (fun _ => 2) c false),
      (h, .clear), (h, .channel (fun _ => 3) c false), (h, .channel (fun _ => 4) c true)]
    (History.of uses).events.reverse.map Event.success? =
      [some (c.endpoint, 1), some (c.endpoint, 1), none, none, some (c.endpoint, 4)] := by
  rfl

end Pool

end DatasetQuery.Agent
