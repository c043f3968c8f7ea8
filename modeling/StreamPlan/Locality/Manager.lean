import StreamPlan.Locality.Log

/-!
# Locality managers

A manager knows on which host each container runs. It learns that from the coordinator log by
replaying its messages in order, and it tells the log what it is told itself.
-/

namespace StreamPlan

/-- Where containers run, by their ids. -/
abbrev Placements := SortedMap Locality

/-- What a message about a container changes. One without values removes the container, one without a
host changes nothing. -/
def Placements.replayOne (placements : Placements) (message : Message) : Placements :=
  if message.isDelete then placements.erase message.key
  else
    match Locality.ofValues? message.values with
    | some locality => placements.insert message.key locality
    | none => placements

/-- Where the messages of a list say that containers run. -/
def Placements.replay (messages : List Message) : Placements :=
  messages.foldl Placements.replayOne SortedMap.empty

/-- Knows where containers run and writes to a log as one source. -/
structure LocalityManager where
  /-- The source that it writes as. -/
  source : String
  /-- What it knows. -/
  placements : Placements
  deriving DecidableEq

namespace LocalityManager

/-- A manager that knows nothing yet. -/
def new (source : String) : LocalityManager := ⟨source, SortedMap.empty⟩

/-- The log with the manager's source registered. -/
def register (manager : LocalityManager) (log : CoordinatorLog) : CoordinatorLog :=
  log.register manager.source

/-- The manager that knows what the log says, and nothing else. -/
def read (manager : LocalityManager) (log : CoordinatorLog) : LocalityManager :=
  { manager with placements := Placements.replay (log.ofType Message.placement) }

/-- Writes to the log where a container runs, and only then knows it. Gives back whether the log has
taken it, the manager and the log. -/
def write (manager : LocalityManager) (log : CoordinatorLog) (container : String)
    (locality : Locality) : Except Error Unit × LocalityManager × CoordinatorLog :=
  match log.append (Message.place manager.source container locality) with
  | (.error error, log) => (.error error, manager, log)
  | (.ok (), log) =>
    (.ok (), { manager with placements := manager.placements.insert container locality }, log)

/-- The host that a container runs on. -/
def host? (manager : LocalityManager) (container : String) : Option String :=
  (manager.placements.get? container).map Locality.host

end LocalityManager

end StreamPlan
