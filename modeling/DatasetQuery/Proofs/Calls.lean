import DatasetQuery.Agent.Exchange
/-!
Calls of an agent. A call has six ways to end, tried in a fixed order; the first three leave nothing
sent, the others send exactly one request. It logs its completion and nothing else.
-/
namespace DatasetQuery

variable {α : Type}

open Agent

/-- The message of an event; spans have none. -/
def LogEntry.message? : LogEntry → Option String
  | .span _ _ _ => none
  | .event message _ _ => some message

/-- Whether a reply does not come within the deadline. -/
def Agent.Reply.comesLate (deadline : Duration) : Reply → Bool
  | answered delay _ | refused delay _ _ => isLate deadline delay
  | silent => true

theorem Agent.Reply.outcome_of_late {r : Reply} {deadline : Duration}
    (late : r.comesLate deadline = true) : r.outcome deadline = .error (.timeout deadline) := by
  cases r with
  | answered delay result => exact if_pos late
  | refused delay code detail => exact if_pos late
  | silent => rfl

theorem Agent.Reply.outcome_of_answered {delay deadline : Duration} {result : Wire.QueryResult}
    (timely : isLate deadline delay = false) :
    (answered delay result).outcome deadline = .ok result :=
  if_neg (Bool.eq_false_iff.1 timely)

theorem Agent.Reply.outcome_of_refused {delay deadline : Duration} {code : StatusCode}
    {detail : String} (timely : isLate deadline delay = false) :
    (refused delay code detail).outcome deadline = .error (.rpc code detail) :=
  if_neg (Bool.eq_false_iff.1 timely)

namespace Table

/-- The request of a run for a query. -/
def Run.request (run : Run) (c : Config) (q : Wire.Query) : Request :=
  ⟨{ q with dryRun := run.dryRun }, c.token, c.timeout⟩

def Run.completion : Run → String
  | compile => "compiled query"
  | execute => "executed query"

/-- A table whose query can be sent. -/
structure Ready (t : Table) (c : Config) (q : Wire.Query) : Prop where
  backed : t.backend = some (.ofConfig c)
  translated : t.toQuery = .ok q
  sendable : isHeaderValue c.token = true

/-- The ways in which a call ends, with what it has sent by then. Each supposes that no earlier one
was open. -/
inductive Call (t : Table) (c : Config) (service : Service) (run : Run)
    (read : Wire.QueryResult → Except Error α) : Exchange α → Prop where
  | unbacked (absent : t.backend = none) : Call t c service run read (.unsent .missingBackend)
  | untranslated {e : Error} (backed : t.backend = some (.ofConfig c))
      (defective : t.toQuery = .error e) : Call t c service run read (.unsent e)
  | unsendable {q : Wire.Query} (backed : t.backend = some (.ofConfig c))
      (translated : t.toQuery = .ok q) (refused : isHeaderValue c.token = false) :
      Call t c service run read (.unsent invalidToken)
  | unanswered {q : Wire.Query} (ready : t.Ready c q)
      (late : (service (run.request c q)).comesLate c.timeout = true) :
      Call t c service run read ⟨.error (.timeout c.timeout), [run.request c q]⟩
  | failed {q : Wire.Query} {delay : Duration} {code : StatusCode} {detail : String}
      (ready : t.Ready c q) (reply : service (run.request c q) = .refused delay code detail)
      (timely : isLate c.timeout delay = false) :
      Call t c service run read ⟨.error (.rpc code detail), [run.request c q]⟩
  | answered {q : Wire.Query} {delay : Duration} {result : Wire.QueryResult}
      (ready : t.Ready c q) (reply : service (run.request c q) = .answered delay result)
      (timely : isLate c.timeout delay = false) :
      Call t c service run read ⟨read result, [run.request c q]⟩

variable {t : Table} {c : Config} {service : Service} {run : Run}

/-- A request is sent by calls of tables that are ready for it, and by no others. -/
theorem Call.requests_eq {read : Wire.QueryResult → Except Error α} {x : Exchange α}
    (call : Call t c service run read x) :
    (x.requests = [] ∧ ∀ q, ¬t.Ready c q) ∨ ∃ q, t.Ready c q ∧ x.requests = [run.request c q] := by
  cases call with
  | unbacked absent =>
    refine .inl ⟨rfl, fun q ready => ?_⟩
    cases absent.symm.trans ready.backed
  | untranslated backed defective =>
    refine .inl ⟨rfl, fun q ready => ?_⟩
    cases defective.symm.trans ready.translated
  | unsendable backed translated refused =>
    refine .inl ⟨rfl, fun q ready => ?_⟩
    cases refused.symm.trans ready.sendable
  | unanswered ready late => exact .inr ⟨_, ready, rfl⟩
  | failed ready reply timely => exact .inr ⟨_, ready, rfl⟩
  | answered ready reply timely => exact .inr ⟨_, ready, rfl⟩

/-- The end of a call: the result is read, and the completion logged if there was one to read. -/
def finish (run : Run) (read : Wire.QueryResult → Except Error α)
    (fields : α → List (String × String)) (x : Exchange Wire.QueryResult) : Traced (Exchange α) :=
  match x.outcome >>= read with
  | .error e => ⟨⟨.error e, x.requests⟩, []⟩
  | .ok value => ⟨⟨.ok value, x.requests⟩, [.event run.completion .debug (fields value)]⟩

theorem finish_value (read : Wire.QueryResult → Except Error α)
    (fields : α → List (String × String)) (x : Exchange Wire.QueryResult) :
    (finish run read fields x).value = ⟨x.outcome >>= read, x.requests⟩ := by
  unfold finish
  cases x.outcome >>= read <;> rfl

theorem finish_messages (read : Wire.QueryResult → Except Error α)
    (fields : α → List (String × String)) (x : Exchange Wire.QueryResult) :
    (finish run read fields x).log.filterMap LogEntry.message? =
      if (finish run read fields x).value.outcome.isOk then [run.completion] else [] := by
  unfold finish
  cases x.outcome >>= read <;> rfl

theorem Call.finish {x : Exchange Wire.QueryResult} (call : Call t c service run .ok x)
    (read : Wire.QueryResult → Except Error α) (fields : α → List (String × String)) :
    Call t c service run read (finish run read fields x).value := by
  rw [finish_value]
  cases call with
  | unbacked absent => exact .unbacked absent
  | untranslated backed defective => exact .untranslated backed defective
  | unsendable backed translated refused => exact .unsendable backed translated refused
  | unanswered ready late => exact .unanswered ready late
  | failed ready reply timely => exact .failed ready reply timely
  | answered ready reply timely => exact .answered ready reply timely

theorem run_value (t : Table) (run : Run) (service : Service) :
    (t.run run service).value = match t.backend with
      | none => .unsent .missingBackend
      | some b =>
        match t.toQuery with
        | .error e => .unsent e
        | .ok q => b.send service { q with dryRun := run.dryRun } := by
  unfold Table.run
  cases t.backend with
  | none => rfl
  | some b =>
    simp only [Traced.value_bind, tracedQuery]
    cases t.toQuery with
    | error e => rfl
    | ok q => rfl

theorem send_call {q : Wire.Query} (backed : t.backend = some (.ofConfig c))
    (translated : t.toQuery = .ok q) : Call t c service run .ok
      ((Backend.ofConfig c).send service { q with dryRun := run.dryRun }) := by
  by_cases sendable : isHeaderValue c.token = true
  · have ready : t.Ready c q := ⟨backed, translated, sendable⟩
    have sent : (Backend.ofConfig c).send service { q with dryRun := run.dryRun } =
      ⟨(service (run.request c q)).outcome c.timeout, [run.request c q]⟩ := if_pos sendable
    rw [sent]
    cases late : (service (run.request c q)).comesLate c.timeout with
    | true =>
      rw [Reply.outcome_of_late late]
      exact .unanswered ready late
    | false =>
      cases reply : service (run.request c q) with
      | answered delay result =>
        rw [reply] at late
        rw [Reply.outcome_of_answered late]
        exact .answered ready reply late
      | refused delay code detail =>
        rw [reply] at late
        rw [Reply.outcome_of_refused late]
        exact .failed ready reply late
      | silent =>
        rw [reply] at late
        cases late
  · have kept : (Backend.ofConfig c).send service { q with dryRun := run.dryRun } =
      .unsent invalidToken := if_neg sendable
    rw [kept]
    exact .unsendable backed translated (Bool.eq_false_iff.2 sendable)

theorem run_call (t : Table) {c : Config} (configured : ∀ b ∈ t.backend, b = .ofConfig c)
    (service : Service) (run : Run) : Call t c service run .ok (t.run run service).value := by
  rw [run_value]
  cases backed : t.backend with
  | none => exact .unbacked backed
  | some b =>
    obtain rfl := configured b backed
    cases translation : t.toQuery with
    | error e => exact .untranslated backed translation
    | ok q => exact send_call backed translation

/-- A run logs spans alone, and without a backend only that of the table. -/
theorem run_log (t : Table) (run : Run) (service : Service) :
    (t.run run service).log.filterMap LogEntry.message? = [] ∧
      (t.backend = none →
        (t.run run service).log = [.span ("table::" ++ run.name) .debug [("table", t.name)]]) := by
  unfold Table.run
  cases t.backend with
  | none => exact ⟨rfl, fun _ => rfl⟩
  | some b =>
    simp only [tracedQuery]
    cases t.toQuery with
    | error e => exact ⟨rfl, fun absent => by cases absent⟩
    | ok q => exact ⟨rfl, fun absent => by cases absent⟩

/-- The text of a result. -/
def compiled (result : Wire.QueryResult) : Except Error String := .ok result.queryString

/-- The rows of a result. -/
def decoded (result : Wire.QueryResult) : Except Error (List Json.Row) :=
  match Json.rows? result.jsonData with
  | none => .error .resultDecode
  | some rows => .ok rows

theorem compile_eq (t : Table) (service : Service) : t.compile service =
    t.run .compile service >>= finish .compile compiled fun text =>
      [("len", toString text.utf8ByteSize)] := by
  unfold Table.compile
  congr 1
  funext exchange
  obtain ⟨outcome, requests⟩ := exchange
  cases outcome with
  | error e => rfl
  | ok result => rfl

theorem execute_eq (t : Table) (service : Service) : t.execute service =
    t.run .execute service >>= finish .execute decoded fun rows =>
      [("rows", toString rows.length)] := by
  unfold Table.execute
  congr 1
  funext exchange
  obtain ⟨outcome, requests⟩ := exchange
  cases outcome with
  | error e => rfl
  | ok result =>
    simp only [finish, bind, Except.bind, decoded]
    cases Json.rows? result.jsonData with
    | none => rfl
    | some rows => rfl

/-- What a call of either kind is from outside. -/
structure Conducted (t : Table) (c : Config) (service : Service) (run : Run)
    (read : Wire.QueryResult → Except Error α) (x : Traced (Exchange α)) : Prop where
  call : Call t c service run read x.value
  at_most_one : x.value.requests.length ≤ 1
  sent_iff : x.value.requests ≠ [] ↔
    t.backend ≠ none ∧ (∃ q, t.toQuery = .ok q) ∧ isHeaderValue c.token = true
  carries : ∀ r ∈ x.value.requests, (∃ q, t.toQuery = .ok q ∧
    r.query = { q with dryRun := run.dryRun }) ∧ r.metadata.lookup tokenHeader = some c.token
  untranslated : t.backend = none →
    x.log = [.span ("table::" ++ run.name) .debug [("table", t.name)]]
  completion : x.log.filterMap LogEntry.message? =
    if x.value.outcome.isOk then [run.completion] else []

theorem conducted (configured : ∀ b ∈ t.backend, b = .ofConfig c)
    (read : Wire.QueryResult → Except Error α) (fields : α → List (String × String)) :
    Conducted t c service run read (t.run run service >>= finish run read fields) := by
  have call : Call t c service run read (t.run run service >>= finish run read fields).value :=
    (run_call t configured service run).finish read fields
  obtain ⟨silent, unbacked⟩ := run_log t run service
  refine ⟨call, ?_, ?_, ?_, ?_, ?_⟩
  · rcases call.requests_eq with ⟨none, _⟩ | ⟨q, _, one⟩
    · rw [none]
      exact Nat.zero_le 1
    · rw [one]
      exact Nat.le_refl 1
  · rcases call.requests_eq with ⟨none, unready⟩ | ⟨q, ready, one⟩
    · rw [none]
      refine ⟨fun sent => absurd rfl sent, ?_⟩
      rintro ⟨backed, ⟨q, translated⟩, sendable⟩
      obtain ⟨b, present⟩ := Option.ne_none_iff_exists'.1 backed
      rw [configured b present] at present
      exact absurd ⟨present, translated, sendable⟩ (unready q)
    · rw [one, ready.backed]
      exact ⟨fun _ => ⟨Option.some_ne_none _, ⟨q, ready.translated⟩, ready.sendable⟩,
        fun _ => List.cons_ne_nil _ _⟩
  · intro r sent
    rcases call.requests_eq with ⟨none, _⟩ | ⟨q, ready, one⟩
    · rw [none] at sent
      cases sent
    · rw [one] at sent
      cases List.mem_singleton.1 sent
      exact ⟨⟨q, ready.translated, rfl⟩, List.lookup_cons_self⟩
  · intro absent
    have value : (t.run run service).value = .unsent .missingBackend := by rw [run_value, absent]
    rw [Traced.log_bind, unbacked absent, value]
    rfl
  · rw [Traced.log_bind, List.filterMap_append, silent, List.nil_append]
    exact finish_messages read fields _

/-- Calls end in the first way that is open to them: without a backend, with the error of the
translation, with a token that cannot be sent, or after one request, with what comes of it. -/
theorem calls_end_in_order (t : Table) (c : Config) (service : Service)
    (configured : ∀ b ∈ t.backend, b = .ofConfig c) :
    Conducted t c service .compile compiled (t.compile service) ∧
      Conducted t c service .execute decoded (t.execute service) := by
  constructor
  · rw [compile_eq]
    exact conducted configured compiled _
  · rw [execute_eq]
    exact conducted configured decoded _

theorem calls_end_in_order_with_rows :
    let c : Config := .of "secret"
    let t := { Table.named "orders" with
      backend := some (.ofConfig c)
      selection := [.column (.of .string "category")] }
    let service : Service := fun _ => .answered (.ofMilliseconds 20) ⟨"SELECT category", "[]"⟩
    (∀ b ∈ t.backend, b = .ofConfig c) ∧
      Conducted t c service .compile compiled (t.compile service) ∧
      Conducted t c service .execute decoded (t.execute service) := by
  intro c t service
  have configured : ∀ b ∈ t.backend, b = .ofConfig c := fun b present =>
    (Option.some.inj present).symm
  exact ⟨configured, calls_end_in_order t c service configured⟩

end Table

end DatasetQuery
