set_option autoImplicit false

/-! # Log entries

What the service says while it runs: a level, the part of the service that speaks, and a line. -/

namespace Turnstile

/-- The levels at which the service logs. -/
inductive LogLevel where
  | debug
  | info
  | warning
deriving DecidableEq, Repr

/-- The parts of the service that log. -/
inductive Logger where
  | app
  | cache
  | limiter
  | access
deriving DecidableEq, Repr

/-- One line of the log. -/
structure LogEntry where
  level : LogLevel
  logger : Logger
  message : String
deriving DecidableEq, Repr

def LogLevel.name : LogLevel → String
  | .debug => "DEBUG"
  | .info => "INFO"
  | .warning => "WARNING"

def Logger.name : Logger → String
  | .app => "worlds"
  | .cache => "worlds.cache"
  | .limiter => "worlds.ratelimit"
  | .access => "worlds.access"

end Turnstile
