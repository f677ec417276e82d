import EventPipeline.Text

/-!
# Log records

What an operation reports besides its result. A record has a level and comes from a part of the
program; a listener decides by level and source what it shows.
-/

namespace EventPipeline

/-- How urgent a record is. -/
inductive Level
  /-- Of interest to somebody who looks for a cause. -/
  | debug
  /-- What was done. -/
  | info
  /-- Something that will be lost or looks wrong. -/
  | warning
  /-- Something that failed. -/
  | error
  deriving DecidableEq, Repr

namespace Level

/-- The word for a level. -/
def word : Level → Text
  | debug => "DEBUG".toList
  | info => "INFO".toList
  | warning => "WARNING".toList
  | error => "ERROR".toList

/-- The rank of a level. -/
def rank : Level → Nat
  | debug => 0
  | info => 1
  | warning => 2
  | error => 3

/-- Whether a level is at least as urgent as another one. -/
def atLeast (a b : Level) : Bool :=
  b.rank ≤ a.rank

end Level

/-- The part of the program that a record comes from. -/
inductive Source
  /-- The command line. -/
  | commandLine
  /-- The reader of pointy text. -/
  | reader
  /-- The writer of pointy text. -/
  | writer
  /-- The pipeline store. -/
  | store
  /-- The backend that keeps records in files. -/
  | fileBackend
  deriving DecidableEq, Repr

/-- The name under which a part of the program reports. -/
def Source.name : Source → Text
  | commandLine => "pointy_studio".toList
  | reader => "pointy_studio.parser.grammar".toList
  | writer => "pointy_studio.translator.pointy".toList
  | store => "pointy_studio.store".toList
  | fileBackend => "pointy_studio.backends.stores.file_store".toList

/-- A record of the log. -/
structure LogRecord where
  /-- How urgent it is. -/
  level : Level
  /-- Where it comes from. -/
  source : Source
  /-- What it says. -/
  message : Text
  deriving DecidableEq, Repr

/-- A log, the oldest record first. -/
abbrev Log := List LogRecord

/-- The records of a log that are at least as urgent as a level. -/
def Log.atLeast (log : Log) (level : Level) : Log :=
  log.filter fun r => r.level.atLeast level

end EventPipeline
