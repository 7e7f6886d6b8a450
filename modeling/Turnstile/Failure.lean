import Turnstile.Clock
import Turnstile.Json.Reader

set_option autoImplicit false

/-! # Failures

What can end an operation early, by cause. The store and the operator raise failures of a few
classes with a message of their own; the limiter adds a lock that could not be had and a subject
over its cap; reading clocks, and reading and checking records and requests, adds the rest.

Handlers choose by three predicates: `isStoreError`, `isValueError` and `isCancellation`. A
cancellation is no ordinary failure and passes every handler. -/

namespace Turnstile

/-- The class of a failure raised by the store or by the operator. The first four are the store's
    own; `cancelled` ends the task it hits. -/
inductive ErrorClass where
  | store
  | connection
  | timeout
  | response
  | runtime
  | value
  | os
  | cancelled
deriving DecidableEq, Repr, Inhabited

namespace ErrorClass

/-- The name by which logs and answers call a class. -/
def name : ErrorClass → String
  | .store => "RedisError"
  | .connection => "ConnectionError"
  | .timeout => "TimeoutError"
  | .response => "ResponseError"
  | .runtime => "RuntimeError"
  | .value => "ValueError"
  | .os => "OSError"
  | .cancelled => "CancelledError"

def all : List ErrorClass :=
  [.store, .connection, .timeout, .response, .runtime, .value, .os, .cancelled]

/-- The class of a name. -/
def ofName? (s : String) : Option ErrorClass := all.find? (·.name = s)

/-- The store's own classes. -/
def isStoreError : ErrorClass → Bool
  | .store | .connection | .timeout | .response => true
  | _ => false

theorem ofName?_name (c : ErrorClass) : ofName? c.name = some c := by cases c <;> rfl

end ErrorClass

/-- Why an operation ended early. -/
inductive Failure where
  /-- Raised by the store or the operator, with a message. -/
  | raised (cls : ErrorClass) (message : String)
  /-- The lock stayed held, or the store failed, through every try; `cause` is the class and message
      of the last failure among the tries. -/
  | lockUnavailable (key : String) (cause : Option (ErrorClass × String))
  /-- Too many failed attempts at the secret of a world. -/
  | rateLimited (world : String)
  /-- A stored text is not read as JSON. -/
  | unreadable (reason : Json.ReadError)
  /-- A stored value is no text at all. -/
  | notText
  /-- An integer has too many digits to be written. -/
  | integerTooLong
  /-- An integer is beyond the range of binary64 numbers. -/
  | numberTooLarge
  /-- A clock cannot be read. -/
  | noTime (reason : ClockError)
  /-- The handling of a request was cut off before it gave a response. -/
  | noResponse
  /-- A value is not what is asked for: a body is no object, or a secret or a hash is no text. -/
  | wrongShape
deriving DecidableEq, Repr, Inhabited

namespace Failure

/-- The name by which logs and answers call the kind of a failure. -/
def kind : Failure → String
  | .raised cls _ => cls.name
  | .lockUnavailable .. => "LockAcquisitionError"
  | .rateLimited _ => "RateLimitedError"
  | .unreadable .malformed => "JSONDecodeError"
  | .unreadable .integerTooLong => "ValueError"
  | .unreadable .tooDeep => "RecursionError"
  | .notText => "TypeError"
  | .integerTooLong => "ValueError"
  | .numberTooLarge | .noTime _ => "OverflowError"
  | .noResponse => "RuntimeError"
  | .wrongShape => "AttributeError"

/-- The message of a failure that has one of its own. -/
def message? : Failure → Option String
  | .raised _ message => some message
  | .lockUnavailable key _ => some s!"Could not acquire lock {key}"
  | .rateLimited world =>
    some ("Too many failed shared-secret attempts for world \"" ++ world ++ "\". Try again later.")
  | _ => none

/-- What a log line says of a failure: its message, or its kind where it has none. -/
def logText (f : Failure) : String := f.message?.getD ("<" ++ f.kind ++ ">")

/-- Raised by the store in one of its own classes. -/
def isStoreError : Failure → Bool
  | .raised cls _ => cls.isStoreError
  | _ => false

/-- A value that could not be used: a text that is not read, or a raised failure of that class. -/
def isValueError : Failure → Bool
  | .raised cls _ => cls = .value
  | .unreadable .malformed | .unreadable .integerTooLong | .integerTooLong => true
  | _ => false

/-- The end of the whole task, which no handler stops. -/
def isCancellation : Failure → Bool
  | .raised cls _ => cls = .cancelled
  | _ => false

end Failure

end Turnstile
