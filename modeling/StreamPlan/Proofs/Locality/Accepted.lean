import StreamPlan.Proofs.Locality.Cluster
import StreamPlan.Proofs.Plan.Roles

/-!
# What a log accepts

Sources register with a log, managers and others offer it messages, and the log takes a message exactly if
its source is registered by then. Both sides can be told from the actions alone: `Action.registers?` and
`Action.offers?` say what an action would do without looking at a log or a manager.

- `perform_of_registered`, `perform_of_unregistered` and `perform_of_not_offers` are the ways in which an
  action can end.
- `contains_sources_run`: the sources of a log are those that were registered in the run.
- `Cluster.log_holds_accepted` is the result for every run: no message is lost, doubled or moved, and none
  gets in from a source that has not registered.
-/

namespace StreamPlan

variable {ι : Type} [DecidableEq ι]

namespace Action

/-- The source that an action registers. -/
def registers? (sources : ι → String) : Action ι → Option String
  | .register manager => some (sources manager)
  | .enrol source => some source
  | _ => none

/-- The message that an action offers to the log. -/
def offers? (sources : ι → String) : Action ι → Option Message
  | .write manager container locality => some (.place (sources manager) container locality)
  | .append message => some message
  | _ => none

/-- The sources that actions register, in order. -/
def registered (sources : ι → String) (actions : List (Action ι)) : List String :=
  actions.filterMap (registers? sources)

end Action

namespace Cluster

/-- The sources that the managers write as. -/
def sources (cluster : Cluster ι) (manager : ι) : String := (cluster.managers manager).source

/-- The actions that succeed when they are performed in order. -/
def succeeding (cluster : Cluster ι) : List (Action ι) → List (Action ι)
  | [] => []
  | action :: actions =>
    let later := (cluster.step action).succeeding actions
    if (cluster.perform action).1.isOk then action :: later else later

variable {cluster : Cluster ι} {action : Action ι} {message : Message}

/-! ## One action -/

/-- A manager writes as the same source for as long as it lives. -/
theorem sources_step (cluster : Cluster ι) (action : Action ι) :
    (cluster.step action).sources = cluster.sources := by
  funext manager
  unfold sources
  rcases step_cases cluster action with
    ⟨reader, -, -, hstep⟩ | ⟨writer, _, _, -, -, hmanagers⟩ | ⟨_, -, -, hmanagers⟩ | ⟨-, -, hmanagers⟩
  -- Only the manager that reads or writes changes, and in its placements alone.
  · rw [hstep]
    by_cases hreader : manager = reader
    · subst hreader
      simp [LocalityManager.read]
    · simp [Function.update_of_ne hreader]
  · rw [hmanagers]
    by_cases hwriter : manager = writer
    · subst hwriter
      simp
    · simp [Function.update_of_ne hwriter]
  all_goals rw [hmanagers]

/-- The log takes a message of a registered source, at its end. -/
theorem perform_of_registered (h : action.offers? cluster.sources = some message)
    (hsource : cluster.log.sources.contains message.source = true) :
    (cluster.perform action).1 = .ok () ∧ (cluster.step action).log =
      { cluster.log with messages := cluster.log.messages ++ [message] } := by
  cases action with
  | register _ | enrol _ | read _ => cases h
  | write manager container locality =>
    obtain rfl := Option.some.inj h
    rw [step, perform, LocalityManager.write_of_contains hsource]
    exact ⟨rfl, rfl⟩
  | append offered =>
    obtain rfl := Option.some.inj h
    rw [step, perform, CoordinatorLog.append_of_contains hsource]
    exact ⟨rfl, rfl⟩

/-- A message of any other source is refused, also if it is a manager that writes it. The log and the
managers, the writing one among them, come out as they went in. -/
theorem perform_of_unregistered (h : action.offers? cluster.sources = some message)
    (hsource : ¬cluster.log.sources.contains message.source = true) :
    cluster.perform action = (.error (.unregistered message.source), cluster) := by
  cases action with
  | register _ | enrol _ | read _ => cases h
  | write manager container locality =>
    obtain rfl := Option.some.inj h
    rw [perform, LocalityManager.write_of_not_contains hsource]
    -- What is put back in the place of the manager is the manager itself.
    simp only [Function.update_eq_self]
    rfl
  | append offered =>
    obtain rfl := Option.some.inj h
    rw [perform, CoordinatorLog.append_of_not_contains hsource]

/-- An action that offers nothing succeeds, and the messages stay as they are. -/
theorem perform_of_not_offers (h : action.offers? cluster.sources = none) :
    (cluster.perform action).1 = .ok () ∧
      (cluster.step action).log.messages = cluster.log.messages := by
  cases action with
  | register _ | enrol _ | read _ => exact ⟨rfl, rfl⟩
  | write _ _ _ | append _ => cases h

/-- A step puts at the end of the log what its action offers, if it succeeds, and nothing otherwise. -/
theorem messages_step_of_offers? (cluster : Cluster ι) (action : Action ι) :
    (cluster.step action).log.messages = cluster.log.messages ++
      if (cluster.perform action).1.isOk then (action.offers? cluster.sources).toList else [] := by
  cases hoffers : action.offers? cluster.sources with
  | none =>
    obtain ⟨-, hmessages⟩ := perform_of_not_offers hoffers
    simp [hmessages]
  | some message =>
    by_cases hsource : cluster.log.sources.contains message.source = true
    · obtain ⟨hperform, hlog⟩ := perform_of_registered hoffers hsource
      simp [hperform, hlog, Except.isOk, Except.toBool]
    · simp [step, perform_of_unregistered hoffers hsource, Except.isOk, Except.toBool]

/-- Whether a message is taken or refused, the sources of the log stay as they are. -/
theorem log_sources_step_of_offers? (h : action.offers? cluster.sources = some message) :
    (cluster.step action).log.sources = cluster.log.sources := by
  by_cases hsource : cluster.log.sources.contains message.source = true
  · rw [(perform_of_registered h hsource).2]
  · rw [step, perform_of_unregistered h hsource]

/-- A step adds to the sources of the log what its action registers. -/
theorem contains_sources_step (cluster : Cluster ι) (action : Action ι) (source : String) :
    (cluster.step action).log.sources.contains source = true ↔
      cluster.log.sources.contains source = true ∨
        action.registers? cluster.sources = some source := by
  cases action with
  | register manager =>
    change (cluster.log.sources.add (cluster.sources manager)).contains source = true ↔ _
    rw [NameSet.contains_add, Action.registers?, Option.some.injEq]
  | enrol enrolled =>
    change (cluster.log.sources.add enrolled).contains source = true ↔ _
    rw [NameSet.contains_add, Action.registers?, Option.some.injEq]
  | read manager => simp [step, perform, Action.registers?]
  | write _ _ _ | append _ =>
    -- What offers a message registers nothing.
    rw [log_sources_step_of_offers? rfl]
    simp [Action.registers?]

/-! ## A run -/

theorem sources_run (cluster : Cluster ι) (actions : List (Action ι)) :
    (cluster.run actions).sources = cluster.sources := by
  induction actions generalizing cluster with
  | nil => rfl
  | cons action actions ih => exact (ih _).trans (sources_step cluster action)

/-- The sources of a log are those that it had and those that were registered in the run. -/
theorem contains_sources_run (cluster : Cluster ι) (actions : List (Action ι)) (source : String) :
    (cluster.run actions).log.sources.contains source = true ↔
      cluster.log.sources.contains source = true ∨
        source ∈ Action.registered cluster.sources actions := by
  induction actions generalizing cluster with
  | nil => simp [run, Action.registered]
  | cons action actions ih =>
    have hrun : cluster.run (action :: actions) = (cluster.step action).run actions := rfl
    rw [hrun, ih, contains_sources_step, sources_step, or_assoc]
    simp [Action.registered]

theorem messages_run_of_succeeding (cluster : Cluster ι) (actions : List (Action ι)) :
    (cluster.run actions).log.messages = cluster.log.messages ++
      (cluster.succeeding actions).filterMap (Action.offers? cluster.sources) := by
  induction actions generalizing cluster with
  | nil => simp [run, succeeding]
  | cons action actions ih =>
    have hrun : cluster.run (action :: actions) = (cluster.step action).run actions := rfl
    rw [hrun, ih, messages_step_of_offers?, sources_step, succeeding, List.append_assoc]
    congr 1
    cases hoffers : action.offers? cluster.sources <;> split <;> simp [hoffers]

/-! ## From the start -/

theorem contains_sources_start (sources : ι → String) (actions : List (Action ι)) (source : String) :
    ((start sources).run actions).log.sources.contains source = true ↔
      source ∈ Action.registered sources actions := by
  rw [contains_sources_run]
  exact or_iff_right (by simp [start, CoordinatorLog.empty, SortedMap.contains])

/-- After a run an action that offers a message succeeds exactly if the run registered its source. If it
fails, the log and all managers stay as they are. -/
theorem perform_run_of_offers? (sources : ι → String) (actions : List (Action ι))
    (h : action.offers? sources = some message) :
    let reached := (start sources).run actions
    if message.source ∈ Action.registered sources actions then (reached.perform action).1 = .ok ()
    else reached.perform action = (.error (.unregistered message.source), reached) := by
  intro reached
  have hoffers : action.offers? reached.sources = some message := by
    rw [sources_run]
    exact h
  split <;> rename_i hsource <;> rw [← contains_sources_start] at hsource
  · exact (perform_of_registered hoffers hsource).1
  · exact perform_of_unregistered hoffers hsource

/-- Every message of a log was offered in the run, when the log held just the messages before it and the
source was registered already. -/
theorem exists_offering (sources : ι → String) (actions : List (Action ι)) {position : Nat}
    (h : ((start sources).run actions).log.messages[position]? = some message) :
    ∃ before action after, actions = before ++ action :: after ∧
      action.offers? sources = some message ∧
      ((start sources).run before).log.messages =
        ((start sources).run actions).log.messages.take position ∧
      message.source ∈ Action.registered sources before := by
  induction actions using List.reverseRecOn with
  | nil => simp [run, start, CoordinatorLog.empty] at h
  | append_singleton earlier last ih =>
    set reached := (start sources).run earlier with hreached
    have hsources : reached.sources = sources := sources_run ..
    have hrun : (start sources).run (earlier ++ [last]) = reached.step last := run_append ..
    rw [hrun] at h ⊢
    by_cases hposition : position < reached.log.messages.length
    · -- The message was there before the last step, which only adds at the end.
      rw [messages_step_of_offers?] at h ⊢
      rw [List.getElem?_append_left hposition] at h
      obtain ⟨before, action, after, rfl, hoffers, htake, hregistered⟩ := ih h
      refine ⟨before, action, after ++ [last], by simp, hoffers, ?_, hregistered⟩
      rw [htake, List.take_append_of_le_length hposition.le]
    · -- The last step added the message, so its action offered it and was not refused.
      have hle : reached.log.messages.length ≤ position := Nat.le_of_not_lt hposition
      rw [messages_step_of_offers?, List.getElem?_append_right hle, hsources] at h
      by_cases hperform : (reached.perform last).1.isOk = true
      · rw [if_pos hperform] at h
        cases hoffers : last.offers? sources with
        | none => simp [hoffers] at h
        | some offered =>
          rw [hoffers, Option.toList_some] at h
          have hzero : position - reached.log.messages.length = 0 := by
            have hlt := (List.getElem?_eq_some_iff.1 h).1
            simpa using hlt
          rw [hzero] at h
          obtain rfl : offered = message := by simpa using h
          have heq : position = reached.log.messages.length := by omega
          refine ⟨earlier, last, [], rfl, hoffers, ?_, ?_⟩
          · rw [messages_step_of_offers?, heq, List.take_left]
          · by_contra hsource
            have hrefused := perform_run_of_offers? sources earlier hoffers
            rw [if_neg hsource, ← hreached] at hrefused
            rw [hrefused] at hperform
            cases hperform
      · rw [if_neg hperform] at h
        simp at h

/-- After any run of registrations, readings, writes and appends, in any order and by any sources:

- every message of the log was offered when the log held the messages before it, by an action that came
  after the registration of its source;
- the log holds one message for each write or append that succeeded, in this order;
- a further action puts at most one message at the end of the log, and it does if it offers one and
  succeeds;
- it succeeds if the source of what it offers is registered, and otherwise an invariant of the log fails
  and the log and all managers, the writing one among them, come back as they were;
- the messages of a type are what remains of the log without the messages of other types. -/
theorem log_holds_accepted (sources : ι → String) (actions : List (Action ι)) :
    let reached := (start sources).run actions
    let registered := Action.registered sources actions
    (∀ position message, reached.log.messages[position]? = some message →
      ∃ before action after, actions = before ++ action :: after ∧
        action.offers? sources = some message ∧
        ((start sources).run before).log.messages = reached.log.messages.take position ∧
        message.source ∈ Action.registered sources before) ∧
      reached.log.messages =
        ((start sources).succeeding actions).filterMap (Action.offers? sources) ∧
      (∀ action, (reached.step action).log.messages = reached.log.messages ++
        if (reached.perform action).1.isOk then (action.offers? sources).toList else []) ∧
      (∀ action message, action.offers? sources = some message →
        if message.source ∈ registered then (reached.perform action).1 = .ok ()
        else
          reached.perform action = (.error (.unregistered message.source), reached) ∧
            (Error.unregistered message.source).message = "Internal invariant failed: source '" ++
              message.source ++ "' appended to the coordinator log before registering") ∧
      (∀ type, (reached.log.ofType type).Sublist reached.log.messages ∧
        ∀ message, (reached.log.ofType type).count message =
          if message.type = type then reached.log.messages.count message else 0) := by
  intro reached registered
  refine ⟨fun _ _ => exists_offering sources actions, messages_run_of_succeeding _ actions, ?_, ?_, ?_⟩
  · intro action
    have hstep := messages_step_of_offers? reached action
    rwa [sources_run] at hstep
  · intro action message hoffers
    have hperform := perform_run_of_offers? sources actions hoffers
    split <;> rename_i hsource
    · rwa [if_pos hsource] at hperform
    · rw [if_neg hsource] at hperform
      exact ⟨hperform, rfl⟩
  · intro type
    refine ⟨List.filter_sublist, fun message => ?_⟩
    split <;> rename_i htype
    · exact List.count_filter (by simpa using htype)
    · exact List.count_eq_zero.2 fun hmem => htype (by simpa using (List.mem_filter.1 hmem).2)

/-- The standby of `failover` is refused before it registers and heard after that. -/
theorem log_holds_accepted_failover :
    let refused := (start id).run (failover.take 3)
    let reached := (start id).run failover
    refused.perform (.write "standby" "0" ⟨"omega", "", ""⟩) =
        (.error (.unregistered "standby"), refused) ∧
      refused.log.messages.map Message.key = ["0"] ∧
      (refused.managers "standby").placements.get? "0" = none ∧
      reached.log.messages.map Message.source =
        ["controller", "operator", "operator", "controller", "standby"] ∧
      (∃ before action after, failover = before ++ action :: after ∧
        action.offers? id = some (.place "standby" "3" ⟨"gamma", "", ""⟩) ∧
        ((start id).run before).log.messages = reached.log.messages.take 4 ∧
        "standby" ∈ Action.registered id before) ∧
      (reached.log.ofType Message.placement).Sublist reached.log.messages := by
  intro refused reached
  obtain ⟨-, -, -, hoffered, -⟩ := log_holds_accepted id (failover.take 3)
  obtain ⟨hregistered, haccepted, -, -, htypes⟩ := log_holds_accepted id failover
  have hrefused := hoffered (.write "standby" "0" ⟨"omega", "", ""⟩)
    (.place "standby" "0" ⟨"omega", "", ""⟩) rfl
  rw [if_neg (by decide)] at hrefused
  refine ⟨hrefused.1, by decide +kernel, by decide +kernel, ?_, ?_, (htypes _).1⟩
  · rw [haccepted]
    decide +kernel
  · exact hregistered 4 (.place "standby" "3" ⟨"gamma", "", ""⟩) (by decide +kernel)

end Cluster

end StreamPlan
