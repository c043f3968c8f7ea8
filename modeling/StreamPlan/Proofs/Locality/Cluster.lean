import Mathlib.Data.List.DropRight
import Mathlib.Logic.Function.Basic
import StreamPlan.Proofs.Data.Except
import StreamPlan.Proofs.Locality.Replay

/-!
# Managers that share a log

Any number of managers write to one log and read it, in any order, while others append messages of their
own. Some of what they try fails, and then nothing changes. A manager does not see what others add until
it reads again. So what it knows comes from two parts: the log as it was when the manager last read it,
and after that the manager's own messages.

- `LocalityManager.write_of_contains` and `write_of_not_contains` are the two exits of a write, which has
  to change the log and the manager together or neither of them.
- `Cluster.step_cases` says once what a step can do.
- `Knows` is the invariant, kept by a step (`knows_step`) and by a run (`knows_run`).
- `Cluster.knows_since_read` is the result for every run.
-/

namespace StreamPlan

/-! ## Appending and writing -/

section Exits

variable {log : CoordinatorLog} {manager : LocalityManager} {message : Message} {container : String}
  {locality : Locality}

theorem CoordinatorLog.append_of_contains (h : log.sources.contains message.source = true) :
    log.append message = (.ok (), { log with messages := log.messages ++ [message] }) :=
  if_pos h

theorem CoordinatorLog.append_of_not_contains (h : ¬log.sources.contains message.source = true) :
    log.append message = (.error (.unregistered message.source), log) :=
  if_neg h

/-- The manager knows what it has written as soon as the log has it. -/
theorem LocalityManager.write_of_contains (h : log.sources.contains manager.source = true) :
    manager.write log container locality =
      (.ok (), { manager with placements := manager.placements.insert container locality },
        { log with messages := log.messages ++ [.place manager.source container locality] }) := by
  have happend : log.append (.place manager.source container locality) = _ :=
    CoordinatorLog.append_of_contains h
  rw [write, happend]

/-- What the log refuses the manager does not come to know either. -/
theorem LocalityManager.write_of_not_contains (h : ¬log.sources.contains manager.source = true) :
    manager.write log container locality = (.error (.unregistered manager.source), manager, log) := by
  have happend : log.append (.place manager.source container locality) = _ :=
    CoordinatorLog.append_of_not_contains h
  rw [write, happend]
  rfl

end Exits

/-! ## Clusters -/

/-- Managers and the log that they share. -/
structure Cluster (ι : Type) where
  /-- The log. -/
  log : CoordinatorLog
  /-- The managers. -/
  managers : ι → LocalityManager

/-- What managers and others do. -/
inductive Action (ι : Type) where
  /-- A manager registers its source. -/
  | register (manager : ι)
  /-- A source is registered that need not belong to a manager. -/
  | enrol (source : String)
  /-- A manager reads the log. -/
  | read (manager : ι)
  /-- A manager writes where a container runs. -/
  | write (manager : ι) (container : String) (locality : Locality)
  /-- Any message is appended, past all managers. -/
  | append (message : Message)

/-- A message that was added to a log. -/
structure Entry (ι : Type) where
  /-- The manager that wrote it, if one did. -/
  author : Option ι
  /-- The message. -/
  message : Message

variable {ι : Type} [DecidableEq ι]

/-- The messages that a manager wrote, in order. -/
def Entry.writtenBy (manager : ι) (entries : List (Entry ι)) : List Message :=
  (entries.filter (·.author = some manager)).map Entry.message

/-- All messages about a container were written by a manager. -/
def Entry.OnlyBy (manager : ι) (container : String) (entries : List (Entry ι)) : Prop :=
  ∀ entry ∈ entries, entry.message.isAbout container = true → entry.author = some manager

instance (manager : ι) (container : String) (entries : List (Entry ι)) :
    Decidable (Entry.OnlyBy manager container entries) :=
  inferInstanceAs (Decidable (∀ entry ∈ entries, entry.message.isAbout container = true →
    entry.author = some manager))

/-- What a manager knows is what some messages tell. -/
def LocalityManager.Knows (manager : LocalityManager) (messages : List Message) : Prop :=
  ∀ container, manager.placements.get? container = told? messages container

namespace Action

/-- The action is that a manager reads the log. -/
def reads (manager : ι) : Action ι → Bool
  | .read reader => reader = manager
  | _ => false

/-- What is done up to the last time that a manager reads the log. -/
def untilRead (manager : ι) (actions : List (Action ι)) : List (Action ι) :=
  actions.rdropWhile fun action => !action.reads manager

/-- What is done after a manager last read the log. -/
def sinceRead (manager : ι) (actions : List (Action ι)) : List (Action ι) :=
  actions.rtakeWhile fun action => !action.reads manager

end Action

namespace Cluster

/-- An empty log and managers that know nothing yet. -/
def start (sources : ι → String) : Cluster ι := ⟨.empty, fun manager => .new (sources manager)⟩

/-- Performs an action. Gives back whether it succeeds, and the cluster with the log and the manager that
come out of it. -/
def perform (cluster : Cluster ι) : Action ι → Except Error Unit × Cluster ι
  | .register manager =>
    (.ok (), { cluster with log := (cluster.managers manager).register cluster.log })
  | .enrol source => (.ok (), { cluster with log := cluster.log.register source })
  | .read manager =>
    (.ok (), { cluster with
      managers := Function.update cluster.managers manager
        ((cluster.managers manager).read cluster.log) })
  | .write manager container locality =>
    let (result, written, log) := (cluster.managers manager).write cluster.log container locality
    (result, ⟨log, Function.update cluster.managers manager written⟩)
  | .append message =>
    let (result, log) := cluster.log.append message
    (result, { cluster with log })

/-- The cluster after an action, whether it succeeds or fails. -/
def step (cluster : Cluster ι) (action : Action ι) : Cluster ι := (cluster.perform action).2

/-- The cluster after actions in order. -/
def run (cluster : Cluster ι) (actions : List (Action ι)) : Cluster ι :=
  actions.foldl step cluster

/-- What an action adds to the log. Only writing and appending do, and only if they succeed. -/
def added? (cluster : Cluster ι) (action : Action ι) : Option (Entry ι) :=
  match action, (cluster.perform action).1 with
  | .write manager container locality, .ok () =>
    some ⟨some manager, .place (cluster.managers manager).source container locality⟩
  | .append message, .ok () => some ⟨none, message⟩
  | _, _ => none

/-- What actions in order add to the log. -/
def history (cluster : Cluster ι) : List (Action ι) → List (Entry ι)
  | [] => []
  | action :: actions =>
    (cluster.added? action).toList ++ (cluster.step action).history actions

/-- What was added to the log after a manager last read it. -/
def addedSinceRead (cluster : Cluster ι) (manager : ι) (actions : List (Action ι)) :
    List (Entry ι) :=
  (cluster.run (Action.untilRead manager actions)).history (Action.sinceRead manager actions)

variable {cluster : Cluster ι} {action : Action ι} {actions : List (Action ι)} {manager : ι}

/-! ## What one step does -/

/-- A manager reads, or a manager writes, or a message is appended, or else nothing is added to the log
and no manager changes. Registrations and failures are of the last kind. -/
theorem step_cases (cluster : Cluster ι) (action : Action ι) :
    (∃ reader, action = .read reader ∧ cluster.added? action = none ∧
      cluster.step action = { cluster with
        managers := Function.update cluster.managers reader
          ((cluster.managers reader).read cluster.log) }) ∨
    (∃ writer container locality,
      let message := Message.place (cluster.managers writer).source container locality
      cluster.added? action = some ⟨some writer, message⟩ ∧
      (cluster.step action).log.messages = cluster.log.messages ++ [message] ∧
      (cluster.step action).managers = Function.update cluster.managers writer
        { cluster.managers writer with
          placements := (cluster.managers writer).placements.insert container locality }) ∨
    (∃ message, cluster.added? action = some ⟨none, message⟩ ∧
      (cluster.step action).log.messages = cluster.log.messages ++ [message] ∧
      (cluster.step action).managers = cluster.managers) ∨
    (cluster.added? action = none ∧
      (cluster.step action).log.messages = cluster.log.messages ∧
      (cluster.step action).managers = cluster.managers) := by
  cases action with
  | register writer => exact .inr (.inr (.inr ⟨rfl, rfl, rfl⟩))
  | enrol source => exact .inr (.inr (.inr ⟨rfl, rfl, rfl⟩))
  | read reader => exact .inl ⟨reader, rfl, rfl, rfl⟩
  | write writer container locality =>
    -- The log refuses a source that is not registered, and then the write fails as a whole.
    by_cases hsource : cluster.log.sources.contains (cluster.managers writer).source = true
    · refine .inr (.inl ⟨writer, container, locality, ?_⟩)
      simp [added?, step, perform, LocalityManager.write_of_contains hsource]
    · refine .inr (.inr (.inr ?_))
      simp [added?, step, perform, LocalityManager.write_of_not_contains hsource]
  | append message =>
    by_cases hsource : cluster.log.sources.contains message.source = true
    · refine .inr (.inr (.inl ⟨message, ?_⟩))
      simp [added?, step, perform, CoordinatorLog.append_of_contains hsource]
    · refine .inr (.inr (.inr ?_))
      simp [added?, step, perform, CoordinatorLog.append_of_not_contains hsource]

theorem messages_step (cluster : Cluster ι) (action : Action ι) :
    (cluster.step action).log.messages =
      cluster.log.messages ++ (cluster.added? action).toList.map Entry.message := by
  rcases step_cases cluster action with
    ⟨_, _, hadded, hstep⟩ | ⟨_, _, _, hadded, hmessages, -⟩ | ⟨_, hadded, hmessages, -⟩ |
      ⟨hadded, hmessages, -⟩
  · rw [hadded, hstep]
    simp
  all_goals
    rw [hadded, hmessages]
    simp

/-- Right after a manager reads the log, it knows what the log tells. -/
theorem knows_step_read (cluster : Cluster ι) (manager : ι) :
    ((cluster.step (.read manager)).managers manager).Knows
      (cluster.step (.read manager)).log.messages := by
  intro container
  have hmanager : (cluster.step (.read manager)).managers manager =
      (cluster.managers manager).read cluster.log := Function.update_self ..
  rw [hmanager]
  exact cluster.log.get?_replay_ofType container

/-- Between two readings only a manager's own messages change what it knows. -/
theorem knows_step {messages : List Message} (hreads : action.reads manager = false)
    (hknows : (cluster.managers manager).Knows messages) :
    ((cluster.step action).managers manager).Knows
      (messages ++ Entry.writtenBy manager (cluster.added? action).toList) := by
  intro container
  rcases step_cases cluster action with
    ⟨reader, rfl, hadded, hstep⟩ | ⟨writer, written, locality, hadded, -, hmanagers⟩ |
      ⟨message, hadded, -, hmanagers⟩ | ⟨hadded, -, hmanagers⟩
  -- Another manager reads, since this one does not.
  · have hne : manager ≠ reader := by
      rintro rfl
      simp [Action.reads] at hreads
    rw [hadded, hstep]
    simpa [Entry.writtenBy, Function.update_of_ne hne] using hknows container
  · by_cases hwriter : manager = writer
    · -- The message that was added tells what the manager put into its own map.
      subst hwriter
      have hown : Entry.writtenBy manager (cluster.added? action).toList =
          [.place (cluster.managers manager).source written locality] := by
        simp [hadded, Entry.writtenBy]
      rw [hown, told?_concat_place, hmanagers, Function.update_self, SortedMap.get?_insert,
        hknows container]
    · rw [hadded, hmanagers, Function.update_of_ne hwriter]
      simpa [Entry.writtenBy, Ne.symm hwriter] using hknows container
  · rw [hadded, hmanagers]
    simpa [Entry.writtenBy] using hknows container
  · rw [hadded, hmanagers]
    simpa [Entry.writtenBy] using hknows container

/-! ## What a run does -/

theorem run_append (cluster : Cluster ι) (before after : List (Action ι)) :
    cluster.run (before ++ after) = (cluster.run before).run after := by
  simp [run]

/-- Managers that read one after the other know the same. -/
theorem placements_run_reads (cluster : Cluster ι) (first second : ι) :
    ((cluster.run [.read first, .read second]).managers first).placements =
      ((cluster.run [.read first, .read second]).managers second).placements := by
  have hrun : cluster.run [.read first, .read second] =
      (cluster.step (.read first)).step (.read second) := rfl
  by_cases heq : first = second
  · rw [heq]
  · simp [hrun, step, perform, LocalityManager.read, heq]

theorem messages_run (cluster : Cluster ι) (actions : List (Action ι)) :
    (cluster.run actions).log.messages =
      cluster.log.messages ++ (cluster.history actions).map Entry.message := by
  induction actions generalizing cluster with
  | nil => simp [run, history]
  | cons action actions ih =>
    have hrun : cluster.run (action :: actions) = (cluster.step action).run actions := rfl
    rw [hrun, ih, messages_step, history, List.map_append, List.append_assoc]

theorem knows_run {messages : List Message}
    (hreads : ∀ action ∈ actions, action.reads manager = false)
    (hknows : (cluster.managers manager).Knows messages) :
    ((cluster.run actions).managers manager).Knows
      (messages ++ Entry.writtenBy manager (cluster.history actions)) := by
  induction actions generalizing cluster messages with
  | nil => simpa [run, history, Entry.writtenBy] using hknows
  | cons action actions ih =>
    have hrun : cluster.run (action :: actions) = (cluster.step action).run actions := rfl
    have hhistory : Entry.writtenBy manager (cluster.history (action :: actions)) =
        Entry.writtenBy manager (cluster.added? action).toList ++
          Entry.writtenBy manager ((cluster.step action).history actions) := by
      simp [history, Entry.writtenBy]
    -- What the first action added is known after it, and the rest of the run starts from there.
    rw [hrun, hhistory, ← List.append_assoc]
    apply ih fun later hlater => hreads later (List.mem_cons_of_mem _ hlater)
    exact knows_step (hreads action List.mem_cons_self) hknows

/-! ## Since the last reading -/

theorem run_untilRead_sinceRead (cluster : Cluster ι) (manager : ι) (actions : List (Action ι)) :
    (cluster.run (Action.untilRead manager actions)).run (Action.sinceRead manager actions) =
      cluster.run actions := by
  rw [← run_append, Action.untilRead, Action.sinceRead, List.rdropWhile_append_rtakeWhile]

/-- At its last reading a manager knew what the log told. One that never read knows nothing, and the log
tells nothing at the start. -/
theorem knows_run_untilRead (sources : ι → String) (manager : ι) (actions : List (Action ι)) :
    let atRead := (start sources).run (Action.untilRead manager actions)
    (atRead.managers manager).Knows atRead.log.messages := by
  induction actions using List.reverseRecOn with
  | nil => exact fun _ => rfl
  | append_singleton before last ih =>
    by_cases hlast : last.reads manager = true
    -- The last action is the reading itself, after which the manager knows the whole log.
    · have huntil : Action.untilRead manager (before ++ [last]) = before ++ [last] :=
        List.rdropWhile_concat_neg _ _ _ (by simp [hlast])
      obtain rfl : last = .read manager := by
        cases last <;> simp_all [Action.reads]
      rw [huntil, run_append]
      exact knows_step_read _ manager
    -- Any other last action is after the last reading.
    · have huntil : Action.untilRead manager (before ++ [last]) = Action.untilRead manager before :=
        List.rdropWhile_concat_pos _ _ _ (by simp [hlast])
      rw [huntil]
      exact ih

theorem knows_run_start (sources : ι → String) (manager : ι) (actions : List (Action ι)) :
    (((start sources).run actions).managers manager).Knows
      (((start sources).run (Action.untilRead manager actions)).log.messages ++
        Entry.writtenBy manager ((start sources).addedSinceRead manager actions)) := by
  have hsince : ∀ action ∈ Action.sinceRead manager actions, action.reads manager = false := by
    intro action haction
    simpa using List.mem_rtakeWhile_imp haction
  rw [← run_untilRead_sinceRead _ manager actions]
  exact knows_run hsince (knows_run_untilRead sources manager actions)

/-- A manager that alone wrote about a container since it last read knows of that container what the
whole log tells. -/
theorem get?_placements_of_onlyBy {sources : ι → String} {container : String}
    (honly : Entry.OnlyBy manager container ((start sources).addedSinceRead manager actions)) :
    (((start sources).run actions).managers manager).placements.get? container =
      told? ((start sources).run actions).log.messages container := by
  have hkeep : ∀ entry ∈ (start sources).addedSinceRead manager actions,
      entry.message.isAbout container = true → decide (entry.author = some manager) = true :=
    fun entry hentry habout => decide_eq_true (honly entry hentry habout)
  rw [knows_run_start sources manager actions container, Entry.writtenBy,
    told?_append_map_filter _ Entry.message hkeep, addedSinceRead, ← messages_run,
    run_untilRead_sinceRead]

/-- After any run, whatever was written, read, appended and refused in it:

- the log holds the messages that were accepted, in order;
- each manager knows of each container what the log told when the manager last read it, followed by what
  the manager wrote since;
- of a container that nobody else wrote about since then, it knows what the whole log tells;
- two managers agree on a container that each of them alone wrote about since it last read, and on all
  containers once both of them read. -/
theorem knows_since_read (sources : ι → String) (actions : List (Action ι)) :
    let reached := (start sources).run actions
    let added := fun manager => (start sources).addedSinceRead manager actions
    reached.log.messages = ((start sources).history actions).map Entry.message ∧
      (∀ manager container, (reached.managers manager).placements.get? container =
        told? (((start sources).run (Action.untilRead manager actions)).log.messages ++
          Entry.writtenBy manager (added manager)) container) ∧
      (∀ manager container, Entry.OnlyBy manager container (added manager) →
        (reached.managers manager).placements.get? container =
          told? reached.log.messages container) ∧
      (∀ first second container, Entry.OnlyBy first container (added first) →
        Entry.OnlyBy second container (added second) →
          (reached.managers first).placements.get? container =
            (reached.managers second).placements.get? container) ∧
      (∀ first second,
        let both := reached.run [.read first, .read second]
        (both.managers first).placements = (both.managers second).placements) := by
  intro reached added
  refine ⟨messages_run _ actions, fun manager => knows_run_start sources manager actions,
    fun _ _ => get?_placements_of_onlyBy, ?_, placements_run_reads reached⟩
  intro first second container hfirst hsecond
  rw [get?_placements_of_onlyBy hfirst, get?_placements_of_onlyBy hsecond]

/-- A controller places a container. Its standby tries to place it elsewhere, but is not registered yet.
An operator removes the container and says something about another one without naming a host. The
controller places a third one. Then the standby reads the log, registers and places a fourth one. -/
def failover : List (Action String) :=
  [.register "controller", .enrol "operator", .write "controller" "0" ⟨"alpha", "", ""⟩,
    .write "standby" "0" ⟨"omega", "", ""⟩, .append (.delete Message.placement "operator" "0"),
    .append ⟨Message.placement, "operator", "2", .ofList [("jmx-url", "rmi")]⟩,
    .write "controller" "1" ⟨"beta", "", ""⟩, .read "standby", .register "standby",
    .write "standby" "3" ⟨"gamma", "", ""⟩]

theorem knows_since_read_failover :
    let reached := (start id).run failover
    reached.log.messages.map Message.key = ["0", "0", "2", "1", "3"] ∧
      (reached.managers "controller").placements.get? "0" = some ⟨"alpha", "", ""⟩ ∧
      (reached.managers "standby").placements.get? "0" = none ∧
      Entry.OnlyBy "controller" "1" ((start id).addedSinceRead "controller" failover) ∧
      (reached.managers "controller").placements.get? "1" =
        (reached.managers "standby").placements.get? "1" ∧
      Entry.OnlyBy "standby" "3" ((start id).addedSinceRead "standby" failover) ∧
      (reached.managers "standby").placements.get? "3" = some ⟨"gamma", "", ""⟩ ∧
      ((reached.run [.read "standby", .read "controller"]).managers "standby").placements =
        ((reached.run [.read "standby", .read "controller"]).managers "controller").placements := by
  intro reached
  obtain ⟨hlog, hknows, honly, hagree, hboth⟩ := knows_since_read id failover
  have hfirst : Entry.OnlyBy "controller" "1"
      ((start id).addedSinceRead "controller" failover) := by decide +kernel
  have hfourth : Entry.OnlyBy "standby" "3"
      ((start id).addedSinceRead "standby" failover) := by decide +kernel
  refine ⟨?_, ?_, ?_, hfirst, ?_, hfourth, ?_, hboth "standby" "controller"⟩
  · rw [hlog]
    decide +kernel
  · rw [hknows]
    decide +kernel
  · rw [hknows]
    decide +kernel
  · exact hagree "controller" "standby" "1" hfirst (by decide +kernel)
  · rw [honly "standby" "3" hfourth]
    decide +kernel

end Cluster

end StreamPlan
