import DatasetQuery.Agent.Pool
import DatasetQuery.Proofs.Calls
import Mathlib.Data.List.Forall2
/-!
How far a token gets. It travels in the header of the requests and reaches nothing else: two calls
with different tokens, if an agent makes no difference between these, have the same outcome, the
same log and the same queries.
-/
namespace DatasetQuery

variable {α β : Type}

open Agent

namespace Agent

def Request.withToken (r : Request) (token : String) : Request := { r with token }

def Exchange.withToken (x : Exchange α) (token : String) : Exchange α :=
  { x with requests := x.requests.map (·.withToken token) }

/-- The same steps, with another token in their requests. -/
def Exchange.retraced (token : String) (x : Traced (Exchange α)) : Traced (Exchange α) :=
  ⟨x.value.withToken token, x.log⟩

theorem Exchange.retraced_bind {token : String} {next : Exchange α → Traced (Exchange β)}
    (passes : ∀ x : Exchange α, next (x.withToken token) = retraced token (next x))
    (x : Traced (Exchange α)) : retraced token x >>= next = retraced token (x >>= next) :=
  congrArg (fun y => Traced.mk y.value (x.log ++ y.log)) (passes x.value)

/-- An agent that does not look at tokens. -/
def Service.IsBlind (service : Service) : Prop := ∀ r token, service (r.withToken token) = service r

/-- Two requests that cannot be told apart but by their tokens. -/
structure Request.SameButToken (token other : String) (r s : Request) : Prop where
  query : s.query = r.query
  deadline : s.deadline = r.deadline
  metadata : s.metadata.filter (·.1 ≠ tokenHeader) = r.metadata.filter (·.1 ≠ tokenHeader)
  tokens : r.metadata.lookup tokenHeader = some token ∧ s.metadata.lookup tokenHeader = some other

theorem Request.sameButToken_withToken {r : Request} {token : String}
    (carried : r.metadata.lookup tokenHeader = some token) (other : String) :
    SameButToken token other r (r.withToken other) := by
  refine ⟨rfl, rfl, ?_, carried, List.lookup_cons_self⟩
  simp [metadata, withToken]

/-- Two calls that cannot be told apart but by the tokens in their requests. -/
structure Exchange.Indistinct (token other : String) (x y : Traced (Exchange α)) : Prop where
  outcome : y.value.outcome = x.value.outcome
  log : y.log = x.log
  requests : List.Forall₂ (Request.SameButToken token other) x.value.requests y.value.requests

end Agent

/-- An agent that does not look at tokens is sent one query or none, and answers as before. -/
theorem Backend.send_withToken {service : Service} (blind : service.IsBlind) {b : Backend}
    {token : String} (alike : isHeaderValue token = isHeaderValue b.token) (q : Wire.Query) :
    send { b with token } service q = (b.send service q).withToken token := by
  unfold send
  rw [alike]
  split
  · have answer := blind ⟨q, b.token, b.timeout⟩ token
    simp only [Exchange.withToken, Request.withToken, List.map_cons, List.map_nil] at answer ⊢
    rw [answer]
  · rfl

namespace Table

/-- The same table, on the agent of another configuration if it is on one. -/
def onAgent (t : Table) (c : Config) : Table :=
  { t with backend := t.backend.map fun _ => .ofConfig c }

variable {t : Table} {c : Config} {service : Service} {token : String}

theorem run_withToken (blind : service.IsBlind)
    (alike : isHeaderValue token = isHeaderValue c.token) (run : Run) :
    (t.onAgent (c.withToken token)).run run service =
      Exchange.retraced token ((t.onAgent c).run run service) := by
  have sent (q : Wire.Query) := Backend.send_withToken blind (b := .ofConfig c) alike q
  have query (d : Config) : (t.onAgent d).toQuery = t.toQuery := rfl
  unfold Table.run
  simp only [tracedQuery, query]
  simp only [onAgent]
  cases t.backend with
  | none => rfl
  | some b =>
    cases t.toQuery with
    | error e => rfl
    | ok q => exact congrArg (Traced.mk · _) (sent { q with dryRun := run.dryRun })

theorem finish_withToken (token : String) (run : Run) (read : Wire.QueryResult → Except Error α)
    (fields : α → List (String × String)) (x : Exchange Wire.QueryResult) :
    finish run read fields (x.withToken token) =
      Exchange.retraced token (finish run read fields x) := by
  unfold finish
  simp only [Exchange.withToken]
  cases x.outcome >>= read <;> rfl

theorem indistinct (blind : service.IsBlind)
    (alike : isHeaderValue token = isHeaderValue c.token) (run : Run)
    (read : Wire.QueryResult → Except Error α) (fields : α → List (String × String)) :
    Exchange.Indistinct c.token token
      ((t.onAgent c).run run service >>= finish run read fields)
      ((t.onAgent (c.withToken token)).run run service >>= finish run read fields) := by
  have configured : ∀ b ∈ (t.onAgent c).backend, b = .ofConfig c := by
    intro b backed
    obtain ⟨_, _, rfl⟩ := Option.map_eq_some_iff.1 backed
    rfl
  have first : Conducted (t.onAgent c) c service run read
      ((t.onAgent c).run run service >>= finish run read fields) :=
    conducted configured read fields
  rw [run_withToken blind alike, Exchange.retraced_bind (finish_withToken token run read fields)]
  refine ⟨rfl, rfl, ?_⟩
  rw [Exchange.retraced, Exchange.withToken, List.forall₂_map_right_iff, List.forall₂_same]
  intro r sent
  exact Request.sameButToken_withToken (first.carries r sent).2 token

/-- With another token, as good a header value as the first or as bad, a configuration is described
as before, opens the same channels, and its calls cannot be told apart but by the header. -/
theorem token_reaches_its_header_only (t : Table) (c : Config) (token : String) (service : Service)
    (alike : isHeaderValue token = isHeaderValue c.token) (blind : service.IsBlind) :
    (c.withToken token).description = c.description ∧
      (∀ (p : Pool) hasRuntime, p.channel (c.withToken token) hasRuntime = p.channel c hasRuntime) ∧
      Exchange.Indistinct c.token token ((t.onAgent c).compile service)
        ((t.onAgent (c.withToken token)).compile service) ∧
      Exchange.Indistinct c.token token ((t.onAgent c).execute service)
        ((t.onAgent (c.withToken token)).execute service) := by
  refine ⟨rfl, fun _ _ => rfl, ?_, ?_⟩
  · rw [compile_eq, compile_eq]
    exact indistinct blind alike .compile compiled _
  · rw [execute_eq, execute_eq]
    exact indistinct blind alike .execute decoded _

theorem token_reaches_its_header_only_with_rows :
    let c : Config := .of "secret"
    let t := { Table.named "orders" with
      backend := some (.ofConfig c)
      selection := [.column (.of .string "category")] }
    let service : Service := fun r =>
      if r.query.dryRun = some true then .refused (.ofMilliseconds 20) .unavailable "restarting"
      else .answered (.ofMilliseconds 20) ⟨"SELECT category", "[]"⟩
    isHeaderValue "another" = isHeaderValue c.token ∧ service.IsBlind ∧
      Exchange.Indistinct "secret" "another" ((t.onAgent c).compile service)
        ((t.onAgent (c.withToken "another")).compile service) ∧
      Exchange.Indistinct "secret" "another" ((t.onAgent c).execute service)
        ((t.onAgent (c.withToken "another")).execute service) := by
  intro c t service
  have alike : isHeaderValue "another" = isHeaderValue c.token := by decide +kernel
  have blind : service.IsBlind := fun _ _ => rfl
  exact ⟨alike, blind, (token_reaches_its_header_only t c "another" service alike blind).2.2⟩

end Table

end DatasetQuery
