import DocTree.Build.Diagnostic
import DocTree.Build.Options
import DocTree.Tree.Basic

/-!
# The context of a build

One `Context` is threaded through a build.  It counts the ids handed out, keeps the options, and
collects diagnostics and log records in the order in which they arise.  Builders take a context and
give back their result together with the context after it.
-/

namespace DocTree
namespace Build

open DocTree.Tree (NodeId)

/-- How much detail a log record carries; a level includes those before it. -/
inductive LogLevel
  | info
  | debug
  | trace
deriving DecidableEq, Repr

namespace LogLevel

/-- Rank of a level: the more detail, the higher. -/
def rank : LogLevel → Nat
  | info => 0
  | debug => 1
  | trace => 2

/-- Name of a level as it stands before a record. -/
def name : LogLevel → String
  | info => "INFO"
  | debug => "DEBUG"
  | trace => "TRACE"

end LogLevel

/-- A line of the log. -/
structure LogRecord where
  level : LogLevel
  message : String
deriving DecidableEq, Repr

/-- The records of a log that a level lets through, in their order. -/
def visibleAt (level : LogLevel) (log : List LogRecord) : List LogRecord :=
  log.filter fun record => record.level.rank ≤ level.rank

/-- The state of a build. -/
structure Context where
  /-- Number of ids handed out, which is the index of the next one. -/
  issued : Nat
  options : Options
  diagnostics : Array Diagnostic
  log : Array LogRecord

namespace Context

/-- The context that a build starts from. -/
def new (options : Options) : Context where
  issued := 0
  options := options
  diagnostics := #[]
  log := #[]

/-- The id that is handed out next. -/
def nextId (cx : Context) : NodeId :=
  ⟨cx.issued⟩

/-- The context after the next id has been handed out. -/
def issue (cx : Context) : Context :=
  { cx with issued := cx.issued + 1 }

/-- Write a log record. -/
def record (level : LogLevel) (message : String) (cx : Context) : Context :=
  { cx with log := cx.log.push ⟨level, message⟩ }

/-- Report a diagnostic, which is logged as well. -/
def report (diagnostic : Diagnostic) (cx : Context) : Context :=
  { cx.record .debug diagnostic.message with diagnostics := cx.diagnostics.push diagnostic }

end Context

end Build
end DocTree
