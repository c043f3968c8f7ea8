import StreamPlan.Locality.Message
import StreamPlan.Plan.Roles

/-!
# Coordinator logs

A log to which registered sources append messages. What was appended stays.
-/

namespace StreamPlan

/-- A log of messages. -/
structure CoordinatorLog where
  /-- Who may append. -/
  sources : NameSet
  /-- The messages, first appended first. -/
  messages : List Message
  deriving DecidableEq

namespace CoordinatorLog

/-- A log without sources and messages. -/
def empty : CoordinatorLog := ⟨SortedMap.empty, []⟩

/-- The number of messages. -/
def size (log : CoordinatorLog) : Nat := log.messages.length

/-- The log with one more source. -/
def register (log : CoordinatorLog) (source : String) : CoordinatorLog :=
  { log with sources := log.sources.add source }

/-- The messages of a type, in order. -/
def ofType (log : CoordinatorLog) (type : String) : List Message :=
  log.messages.filter (·.type = type)

/-- Appends a message. Its source must be registered. Gives back whether it is, and the log. -/
def append (log : CoordinatorLog) (message : Message) : Except Error Unit × CoordinatorLog :=
  if log.sources.contains message.source then
    (.ok (), { log with messages := log.messages ++ [message] })
  else (.error (.unregistered message.source), log)

end CoordinatorLog

end StreamPlan
