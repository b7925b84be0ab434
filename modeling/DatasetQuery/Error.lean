import DatasetQuery.Duration
/-!
What can go wrong between a table and its rows. Each error is a cause; `Error.message` has the
wording.
-/
namespace DatasetQuery

/-- The outcome codes of a remote call. -/
inductive StatusCode where
  | ok | cancelled | unknown | invalidArgument | deadlineExceeded | notFound | alreadyExists
  | permissionDenied | resourceExhausted | failedPrecondition | aborted | outOfRange
  | unimplemented | internal | unavailable | dataLoss | unauthenticated
  deriving DecidableEq

namespace StatusCode

/-- All codes in the order of their numbers, which start at zero. -/
def all : List StatusCode :=
  [ok, cancelled, unknown, invalidArgument, deadlineExceeded, notFound, alreadyExists,
    permissionDenied, resourceExhausted, failedPrecondition, aborted, outOfRange,
    unimplemented, internal, unavailable, dataLoss, unauthenticated]

/-- A number that is no code counts as `unknown`. -/
def ofNumber (n : Int) : StatusCode :=
  if n < 0 then unknown else all.getD n.toNat unknown

def text : StatusCode → String
  | ok => "Ok"
  | cancelled => "Cancelled"
  | unknown => "Unknown"
  | invalidArgument => "InvalidArgument"
  | deadlineExceeded => "DeadlineExceeded"
  | notFound => "NotFound"
  | alreadyExists => "AlreadyExists"
  | permissionDenied => "PermissionDenied"
  | resourceExhausted => "ResourceExhausted"
  | failedPrecondition => "FailedPrecondition"
  | aborted => "Aborted"
  | outOfRange => "OutOfRange"
  | unimplemented => "Unimplemented"
  | internal => "Internal"
  | unavailable => "Unavailable"
  | dataLoss => "DataLoss"
  | unauthenticated => "Unauthenticated"

end StatusCode

inductive Error where
  | unknownOperator (name : String)
  | unsupportedLiteral (kind : String)
  | unsupportedOperation (operation subject : String)
  | unknownField (name : String)
  | expectedBoolean (operator : String)
  | missingBackend
  | config (message : String)
  | connection (address : String)
  | rpc (code : StatusCode) (detail : String)
  | timeout (after : Duration)
  | resultDecode
  deriving DecidableEq

namespace Error

def message : Error → String
  | unknownOperator name => "unknown operator '" ++ name ++ "'"
  | unsupportedLiteral kind => "literal of kind '" ++ kind ++ "' has no wire representation"
  | unsupportedOperation operation subject =>
    "cannot call " ++ operation ++ " on " ++ subject ++ " field"
  | unknownField name => "unknown field selector '" ++ name ++ "'"
  | expectedBoolean operator => "operands of '" ++ operator ++ "' must be boolean expressions"
  | missingBackend => "failed to find a suitable backend to run this query"
  | config message => "invalid configuration: " ++ message
  | connection address => "failed to connect to " ++ address
  | rpc code detail => "remote call failed: " ++ code.text ++ ": " ++ detail
  | timeout after => "remote call timed out after " ++ after.text
  | resultDecode => "failed to decode query result"

/-- Errors that wrap the failure of another layer: the channel, the remote side, the reader of
rows. -/
def hasSource : Error → Bool
  | connection _ | rpc _ _ | resultDecode => true
  | _ => false

end Error

end DatasetQuery
