/-! # How syntheses are logged -/

namespace NamedSql

inductive LogLevel where
  | error
  | warn
  | info
  | debug
  | trace
  deriving DecidableEq, Repr, Inhabited

namespace LogLevel

def all : List LogLevel := [.error, .warn, .info, .debug, .trace]

def name : LogLevel → String
  | .error => "error"
  | .warn => "warn"
  | .info => "info"
  | .debug => "debug"
  | .trace => "trace"

def label : LogLevel → String
  | .error => "ERROR"
  | .warn => "WARN"
  | .info => "INFO"
  | .debug => "DEBUG"
  | .trace => "TRACE"

def named? (word : String) : Option LogLevel := all.find? fun l => l.name = word

end LogLevel

structure Config where
  /-- The level of a successful synthesis. -/
  logLevel : LogLevel := .debug
  /-- The most bytes of SQL that an event shows; all of it if there is no maximum. -/
  maxLoggedLength : Option Nat := some 200
  deriving DecidableEq, Repr, Inhabited

namespace Config

def level (c : Config) (logLevel : LogLevel) : Config := { c with logLevel }

def limitLogged (c : Config) (length : Nat) : Config := { c with maxLoggedLength := some length }

def logInFull (c : Config) : Config := { c with maxLoggedLength := none }

end Config
end NamedSql
