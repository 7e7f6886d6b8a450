import Turnstile.Calendar

set_option autoImplicit false

/-! # The log's threshold

Which records reach the log's output, and as what lines. The threshold is set once, from a word of
the settings in any case; a word that is no level gives the level `INFO`. Later settings have no
effect. -/

namespace Turnstile

/-! ## Words for levels -/

/-- The capital form of a character, so far as it consists of plain letters; other characters are
    their own, as no level's name has them. -/
def plainCapitals (c : Char) : List Char :=
  match c with
  | 'ß' => ['S', 'S']
  | 'ı' => ['I']
  | 'ſ' => ['S']
  | 'ﬀ' => ['F', 'F']
  | 'ﬁ' => ['F', 'I']
  | 'ﬂ' => ['F', 'L']
  | 'ﬃ' => ['F', 'F', 'I']
  | 'ﬄ' => ['F', 'F', 'L']
  | 'ﬅ' => ['S', 'T']
  | 'ﬆ' => ['S', 'T']
  | c => [c.toUpper]

/-- What a word of the settings names: a level, or something that cannot be one. -/
inductive LevelWord where
  | level (n : Int)
  | textSetting
  | tableSetting
deriving DecidableEq, Repr

/-- The words with a meaning, in capitals. -/
def levelWords : List (String × LevelWord) :=
  [("CRITICAL", .level 50), ("FATAL", .level 50), ("ERROR", .level 40), ("WARNING", .level 30),
    ("WARN", .level 30), ("INFO", .level 20), ("DEBUG", .level 10), ("NOTSET", .level 0),
    ("BASIC_FORMAT", .textSetting), ("_STYLES", .tableSetting)]

/-- What a word names. -/
def LevelWord.ofText (word : String) : LevelWord :=
  (levelWords.lookup (String.ofList (word.toList.flatMap plainCapitals))).getD (.level 20)

/-! ## The threshold -/

/-- Why a threshold is not set. -/
inductive ThresholdError where
  | textIsNoLevel
  | tableIsNoLevel
deriving DecidableEq, Repr

/-- The log's output: its threshold, and whether there is an output yet. -/
structure LogOutput where
  threshold : Int := 30
  isOpen : Bool := false
deriving DecidableEq, Repr

namespace LogOutput

/-- Open the output and set its threshold by a word. It is open even when that fails, and once it is
    open nothing changes. The answer is the threshold afterwards. -/
def configure (o : LogOutput) (word : String) : LogOutput × Except ThresholdError Int :=
  if o.isOpen then (o, .ok o.threshold)
  else
    match LevelWord.ofText word with
    | .level n => (⟨n, true⟩, .ok n)
    | .textSetting => ({ o with isOpen := true }, .error .textIsNoLevel)
    | .tableSetting => ({ o with isOpen := true }, .error .tableIsNoLevel)

/-- Configure by several words in turn. -/
def configureAll (o : LogOutput) : List String → LogOutput × List (Except ThresholdError Int)
  | [] => (o, [])
  | word :: rest =>
    let (o, answer) := o.configure word
    let (o, answers) := configureAll o rest
    (o, answer :: answers)

end LogOutput

/-! ## Records -/

/-- A record as it comes to the output. -/
structure LogRecord where
  logger : String
  level : Int
  seconds : Int
  message : String
deriving DecidableEq, Repr

/-- The name of a level above zero. -/
def levelName (n : Int) : String :=
  match n with
  | 50 => "CRITICAL"
  | 40 => "ERROR"
  | 30 => "WARNING"
  | 20 => "INFO"
  | 10 => "DEBUG"
  | n => "Level " ++ toString n

/-- The line of a record. -/
def LogRecord.line (r : LogRecord) : String :=
  (DateTime.ofUnix r.seconds).text ++ " " ++ levelName r.level ++ " " ++ r.logger ++ " "
    ++ r.message ++ "\n"

/-- A record reaches an output that is open when its level is not below the threshold. A level of
    zero or less is none, and what has none reaches no output; nor does a record whose date has no
    text. -/
def LogOutput.admits (o : LogOutput) (r : LogRecord) : Bool :=
  o.isOpen && 0 < r.level && o.threshold ≤ r.level && (DateTime.ofUnix r.seconds).hasText

/-- The lines of the records that reach an output. -/
def LogOutput.written (o : LogOutput) (records : List LogRecord) : String :=
  String.join ((records.filter o.admits).map LogRecord.line)

end Turnstile
