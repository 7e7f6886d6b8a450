import Turnstile.Address.Basic
import Turnstile.Address.Check
import Turnstile.Text.Integer
import Turnstile.Text.Percent
import Turnstile.Text.Quoted

set_option autoImplicit false

/-! # Store addresses

How the store is reached: the kind of connection and the options that an address sets for it. An
address is a URL of one of three schemes. Options also come from its query, by name; what the other
parts say stands above that, but for the database number, of which the query's counts. -/

namespace Turnstile

namespace Address

/-- The kind of a connection. -/
inductive Transport where
  | plain
  | secured
  | socket
deriving DecidableEq, Repr

/-- The value of an option. -/
inductive OptionValue where
  | number (n : Int)
  | text (s : String)
  | flag (b : Bool)
deriving DecidableEq, Repr

/-- A connection: its kind and its options by name. -/
structure Connection where
  transport : Transport
  options : List (String × OptionValue)
deriving Repr

/-- Why an address is refused. -/
inductive StoreError where
  | parts (e : PartsError)
  | unsupportedScheme
  | invalidOption (name : String)
  /-- An option has the name by which the pool of connections calls itself. -/
  | takenName (name : String)
  | invalidPoolSize
  /-- An option that the query can only set to a text has to have a member, which no text has. -/
  | textLacks (member : String)
deriving DecidableEq, Repr

/-! ## Error texts -/

def PartsError.message : PartsError → String
  | .misplacedBrackets => "Invalid IPv6 URL"
  | .disguisedMark authority =>
    "netloc '" ++ authority ++ "' contains invalid characters under NFKC normalization"
  | .invalidFutureHost => "IPvFuture address is invalid"
  | .ipv4InBrackets => "An IPv4 address cannot be in brackets"
  | .unknownHost host => quoted host ++ " does not appear to be an IPv4 or IPv6 address"
  | .portNotNumeric port => "Port could not be cast to integer value as " ++ quoted port
  | .portTooLong digits =>
    "Exceeds the limit (" ++ toString maxDigits ++ " digits) for integer string conversion: "
      ++ "value has " ++ toString digits ++ " digits; "
      ++ "use sys.set_int_max_str_digits() to increase the limit"
  | .portOutOfRange => "Port out of range 0-65535"

def StoreError.message : StoreError → String
  | .parts e => e.message
  | .unsupportedScheme =>
    "Redis URL must specify one of the following schemes (redis://, rediss://, unix://)"
  | .invalidOption name => "Invalid value for '" ++ name ++ "' in connection URL."
  | .takenName name =>
    "ConnectionPool.__init__() got multiple values for argument '" ++ name ++ "'"
  | .invalidPoolSize => "\"max_connections\" must be a positive integer"
  | .textLacks member => "'str' object has no attribute '" ++ member ++ "'"

/-- The name by which answers call the kind of an error. -/
def StoreError.kind : StoreError → String
  | .takenName _ => "TypeError"
  | .textLacks _ => "AttributeError"
  | _ => "ValueError"

/-! ## Options of the query -/

/-- Digits, or digits with a point among them or at either end. -/
def isDecimal (cs : List Char) : Bool :=
  let grouped (side : List Char) : Bool := (groupedDigits? scriptDigit? side).isSome
  match cutAt '.' cs with
  | (whole, none) => grouped whole
  | ([], some fraction) => grouped fraction
  | (whole, some []) => grouped whole
  | (whole, some fraction) => grouped whole && grouped fraction

/-- A number of seconds: a decimal, with an exponent or not, or one of the words for numbers that
    are not finite. -/
def isNumber (cs : List Char) : Bool :=
  let size := (splitSign (trimBy whiteSpace.contains cs)).2.map Char.toLower
  ["inf".toList, "infinity".toList, "nan".toList].contains size ||
    match cutAt 'e' size with
    | (mantissa, none) => isDecimal mantissa
    | (mantissa, some exponent) =>
      isDecimal mantissa && (groupedDigits? scriptDigit? (splitSign exponent).2).isSome

/-- Names of checks between commas. Brackets and the blanks around names do not count. -/
def namesChecks (cs : List Char) : Bool :=
  ((cs.filter fun c => c ≠ '[' ∧ c ≠ ']').splitOn ',').all fun name =>
    hasMember (String.ofList (trimBy isBlankOrSeparator name))

/-- What the value of an option has to be. -/
inductive OptionKind where
  | integer
  | number
  | checks
  | text
deriving DecidableEq, Repr

/-- The kind of an option by its name. -/
def OptionKind.ofName (name : String) : OptionKind :=
  if ["db", "max_connections", "health_check_interval", "socket_read_size", "protocol",
      "ssl_min_version"].contains name then .integer
  else if ["socket_timeout", "socket_connect_timeout", "timeout"].contains name then .number
  else if ["ssl_include_verify_flags", "ssl_exclude_verify_flags"].contains name then .checks
  else .text

/-- The value that a text gives to an option of a kind, if it does. -/
def OptionKind.value? (kind : OptionKind) (cs : List Char) : Option OptionValue :=
  let text := OptionValue.text (String.ofList cs)
  match kind with
  | .integer => (scriptInteger? maxDigits cs).map .number
  | .number => if isNumber cs then some text else none
  | .checks => if namesChecks cs then some text else none
  | .text => some text

/-- The value of an option of the query. -/
def optionValue (name : String) (cs : List Char) : Except StoreError OptionValue :=
  match (OptionKind.ofName name).value? cs with
  | some v => .ok v
  | none => .error (.invalidOption name)

/-- Keep a name's first value. -/
def addFirst (fields : List (String × List Char)) (name : String) (value : List Char) :
    List (String × List Char) :=
  if fields.any (·.1 = name) then fields else fields ++ [(name, value)]

/-- The fields of a query that have a value, each name with its first one. -/
def queryFields (query : List Char) : List (String × List Char) :=
  (query.splitOn '&').foldl (fun fields field =>
    match cutAt '=' field with
    | (name, some (c :: value)) =>
      addFirst fields (String.ofList (formDecode name)) (formDecode (c :: value))
    | _ => fields) []

/-- Set an option, in its old place when it is there. -/
def setOption (name : String) (value : OptionValue) :
    List (String × OptionValue) → List (String × OptionValue)
  | [] => [(name, value)]
  | (n, v) :: rest =>
    if n = name then (name, value) :: rest else (n, v) :: setOption name value rest

/-- Set an option from percent-encoded text, unless that is empty. -/
def setText (name : String) (cs : List Char) (options : List (String × OptionValue)) :
    List (String × OptionValue) :=
  if cs = [] then options else setOption name (.text (String.ofList (percentDecode cs))) options

/-- The options that the query sets. -/
def queryOptions (query : List Char) : Except StoreError (List (String × OptionValue)) :=
  (queryFields query).mapM fun (name, value) => do return (name, ← optionValue name value)

/-! ## Connections -/

/-- The options that host, port and path of a network address set. -/
def networkOptions (p : Parts) (options : List (String × OptionValue)) :
    Except StoreError (List (String × OptionValue)) := do
  let options := setText "host" p.host options
  let options ← match p.port? with
    | .error e => throw (.parts e)
    | .ok (some (port + 1)) => pure (setOption "port" (.number (port + 1 : Nat)) options)
    | .ok _ => pure options
  let number := scriptInteger? maxDigits ((percentDecode p.path).filter (· ≠ '/'))
  match number, options.lookup "db" with
  | some n, none => return setOption "db" (.number n) options
  | _, _ => return options

/-- The options of an address, and the kind of connection. -/
def optionsOf (p : Parts) : Except StoreError Connection := do
  let options ← queryOptions p.query
  let options := setText "username" (p.user.1.getD []) options
  let options := setText "password" (p.user.2.getD []) options
  match p.scheme with
  | "unix" => return ⟨.socket, setText "path" p.path options⟩
  | "redis" => return ⟨.plain, ← networkOptions p options⟩
  | "rediss" => return ⟨.secured, ← networkOptions p options⟩
  | _ => throw .unsupportedScheme

/-- Notices of maintenance come from a host, by the third version of the protocol, which is the one
    spoken unless the query asks for another. -/
def announcesMaintenance (options : List (String × OptionValue)) : Bool :=
  let thirdVersion : Bool := match options.lookup "protocol" with
    | some v => v = .number 3
    | none => true
  thirdVersion && options.any (·.1 = "host") && !options.any (·.1 = "path")

/-- What a pool of such connections refuses. Some options of it cannot be set to a text. -/
def refusal? (c : Connection) : Option StoreError :=
  let has (name : String) : Bool := c.options.any (·.1 = name)
  let negativeSize : Bool := match c.options.lookup "max_connections" with
    | some (.number n) => n < 0
    | _ => false
  if has "self" then some (.takenName "self")
  else if negativeSize then some .invalidPoolSize
  else if has "maint_notifications_config" then some (.textLacks "enabled")
  -- The scheme settles the class of connection, but for plain ones.
  else if has "connection_class" && c.transport = .plain then some (.textLacks "__name__")
  else if has "oss_cluster_maint_notifications_handler" && announcesMaintenance c.options then
    some (.textLacks "config")
  else none

/-- The connection that an address asks for. Replies are decoded unless the query says something
    else. -/
def connection (address : String) : Except StoreError Connection := do
  let p ← match parts address with
    | .ok p => pure p
    | .error e => throw (.parts e)
  let c ← optionsOf p
  match refusal? c with
  | some e => throw e
  | none =>
    let options := match c.options.lookup "decode_responses" with
      | some _ => c.options
      | none => ("decode_responses", .flag true) :: c.options
    return { c with options }

end Address

end Turnstile
