import Turnstile.Address.Basic
import Turnstile.Address.Check
import Turnstile.Address.Ip
import Turnstile.Address.Store
import Turnstile.Binary64.Basic
import Turnstile.Binary64.Decimal
import Turnstile.Cache
import Turnstile.Calendar
import Turnstile.Clock
import Turnstile.Failure
import Turnstile.Guard
import Turnstile.Http.Message
import Turnstile.Http.Route
import Turnstile.Json.Basic
import Turnstile.Json.Reader
import Turnstile.Json.Token
import Turnstile.Json.Writer
import Turnstile.Limiter
import Turnstile.Lock
import Turnstile.Log
import Turnstile.Log.Threshold
import Turnstile.Metrics
import Turnstile.Proc.Basic
import Turnstile.Proc.Run
import Turnstile.Proc.Schedule
import Turnstile.Proofs.Binary64.Rounding
import Turnstile.Proofs.Json.Doubles
import Turnstile.Proofs.Json.Record
import Turnstile.Proofs.Json.RoundTrip
import Turnstile.Proofs.Json.Tokens
import Turnstile.Proofs.Limiter.Agreement
import Turnstile.Proofs.Limiter.Alone
import Turnstile.Proofs.Limiter.Calls
import Turnstile.Proofs.Limiter.Cap
import Turnstile.Proofs.Limiter.Clearing
import Turnstile.Proofs.Limiter.Corruption
import Turnstile.Proofs.Limiter.Counting
import Turnstile.Proofs.Limiter.Deeds
import Turnstile.Proofs.Limiter.Denial
import Turnstile.Proofs.Limiter.Exclusion
import Turnstile.Proofs.Limiter.Expiry
import Turnstile.Proofs.Limiter.FailOpen
import Turnstile.Proofs.Limiter.Filling
import Turnstile.Proofs.Limiter.HigherCap
import Turnstile.Proofs.Limiter.Isolation
import Turnstile.Proofs.Limiter.Keys
import Turnstile.Proofs.Limiter.Linear
import Turnstile.Proofs.Limiter.Linearizable
import Turnstile.Proofs.Limiter.OneByOne
import Turnstile.Proofs.Limiter.Origins
import Turnstile.Proofs.Limiter.Outcomes
import Turnstile.Proofs.Limiter.Progress
import Turnstile.Proofs.Limiter.Pruning
import Turnstile.Proofs.Limiter.Regime
import Turnstile.Proofs.Limiter.Register
import Turnstile.Proofs.Limiter.Shape
import Turnstile.Proofs.Limiter.Spelling
import Turnstile.Proofs.Limiter.Stages
import Turnstile.Proofs.Limiter.Timeless
import Turnstile.Proofs.Limiter.Tries
import Turnstile.Proofs.Limiter.Untracked
import Turnstile.Proofs.Limiter.Verdict
import Turnstile.Proofs.Lock.Calls
import Turnstile.Proofs.Lock.Doings
import Turnstile.Proofs.Lock.Fair
import Turnstile.Proofs.Lock.Handles
import Turnstile.Proofs.Lock.Holder
import Turnstile.Proofs.Lock.Ledger
import Turnstile.Proofs.Lock.Ownership
import Turnstile.Proofs.Lock.Release
import Turnstile.Proofs.Lock.Retrying
import Turnstile.Proofs.Metrics.Exposition
import Turnstile.Proofs.Metrics.Tally
import Turnstile.Proofs.Metrics.Templates
import Turnstile.Proofs.Run.Alike
import Turnstile.Proofs.Run.Basic
import Turnstile.Proofs.Run.Doings
import Turnstile.Proofs.Run.History
import Turnstile.Proofs.Run.Only
import Turnstile.Proofs.Run.Prompt
import Turnstile.Proofs.Run.Protocol
import Turnstile.Proofs.Run.Routine
import Turnstile.Proofs.Run.Trace
import Turnstile.Proofs.Secret.SixBits
import Turnstile.Proofs.Secret.Verifying
import Turnstile.Proofs.Service.Accounting
import Turnstile.Proofs.Service.Containment
import Turnstile.Proofs.Service.Runs
import Turnstile.Proofs.Service.Tallies
import Turnstile.Proofs.Store.Caching
import Turnstile.Proofs.Store.Commands
import Turnstile.Proofs.Store.Replay
import Turnstile.Proofs.Text.Digits
import Turnstile.Proofs.Text.LowerCase
import Turnstile.Proofs.Text.Respelling
import Turnstile.Secret.Digest
import Turnstile.Secret.Hash
import Turnstile.Service
import Turnstile.Session
import Turnstile.Settings
import Turnstile.Settings.Arguments
import Turnstile.Settings.CommandLine
import Turnstile.Settings.Field
import Turnstile.Settings.LoadError
import Turnstile.Settings.Options
import Turnstile.Settings.Rules
import Turnstile.Settings.Source
import Turnstile.Store.Basic
import Turnstile.Store.Command
import Turnstile.Store.Fault
import Turnstile.System
import Turnstile.Text.Blank
import Turnstile.Text.CharSet
import Turnstile.Text.Cut
import Turnstile.Text.Hex
import Turnstile.Text.Identifier
import Turnstile.Text.Integer
import Turnstile.Text.Letter
import Turnstile.Text.LowerCase
import Turnstile.Text.LowerCase.Table
import Turnstile.Text.Numeral
import Turnstile.Text.Percent
import Turnstile.Text.Printable
import Turnstile.Text.Quoted
import Turnstile.Window
