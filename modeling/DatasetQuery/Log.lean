/-!
The log: spans as they are entered and events as they happen, each with named values as text. A
traced result carries the log of the steps that led to it.
-/
namespace DatasetQuery

inductive Level where
  | trace | debug | info | warn | error
  deriving DecidableEq

namespace Level

def text : Level → String
  | trace => "TRACE"
  | debug => "DEBUG"
  | info => "INFO"
  | warn => "WARN"
  | error => "ERROR"

end Level

inductive LogEntry where
  | span (name : String) (level : Level) (fields : List (String × String))
  | event (message : String) (level : Level) (fields : List (String × String))
  deriving DecidableEq

abbrev Log := List LogEntry

structure Traced (α : Type) where
  value : α
  log : Log

namespace Traced

variable {α β : Type}

def pure (value : α) : Traced α := ⟨value, []⟩

/-- The log of the first step comes before the log of the second. -/
def bind (x : Traced α) (f : α → Traced β) : Traced β :=
  ⟨(f x.value).value, x.log ++ (f x.value).log⟩

instance : Monad Traced where
  pure := Traced.pure
  bind := Traced.bind

def record (entry : LogEntry) : Traced Unit := ⟨(), [entry]⟩

def recordIf (condition : Bool) (entry : LogEntry) : Traced Unit :=
  ⟨(), if condition then [entry] else []⟩

@[simp]
theorem value_bind (x : Traced α) (f : α → Traced β) : (x >>= f).value = (f x.value).value := rfl

@[simp]
theorem log_bind (x : Traced α) (f : α → Traced β) :
    (x >>= f).log = x.log ++ (f x.value).log := rfl

end Traced

end DatasetQuery
