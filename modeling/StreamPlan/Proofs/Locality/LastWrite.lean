import StreamPlan.Proofs.Locality.Replay

/-!
# The last message that counts

A manager that reads a log knows of each container what one message says: the last one that settles
where the container runs (`Message.Settles`). What other messages say, what was settled before and what
the manager knew before the reading does not matter.

`told?_eq_some_iff` and `told?_eq_none_iff` say what is told by that message, `placements_read_last`
collects it for managers.
-/

namespace StreamPlan

/-- The message settles where a container runs: it is a message about the placement of the container, and
it either takes back what was said or names a host. -/
structure Message.Settles (message : Message) (container : String) : Prop where
  /-- It is about placements. -/
  type : message.type = "set-container-host-mapping"
  /-- It is about the container. -/
  key : message.key = container
  /-- It says nothing at all or names a host. -/
  values : message.values = SortedMap.empty ∨ ∃ host, message.values.get? "host" = some host

/-- The message settles where a container runs, and none after it does. -/
def LastSettles (messages : List Message) (container : String) (message : Message) : Prop :=
  ∃ before after, messages = before ++ message :: after ∧ message.Settles container ∧
    ∀ later ∈ after, ¬later.Settles container

variable {messages : List Message} {message : Message} {container : String} {locality : Locality}

/-! ## Values of messages -/

theorem Locality.ofValues?_eq_some_iff {values : SortedMap String} :
    ofValues? values = some locality ↔ ∃ host, values.get? "host" = some host ∧
      locality = ⟨host, (values.get? "jmx-url").getD "", (values.get? "jmx-tunneling-url").getD ""⟩ := by
  rw [ofValues?, Option.map_eq_some_iff]
  exact exists_congr fun host => and_congr_right fun _ => eq_comm

theorem Message.decides_iff : message.decides container = true ↔ message.Settles container := by
  have hvalues : (message.isDelete || (Locality.ofValues? message.values).isSome) = true ↔
      message.values = SortedMap.empty ∨ ∃ host, message.values.get? "host" = some host := by
    rw [Bool.or_eq_true, isDelete, SortedMap.isEmpty_iff, Locality.ofValues?, Option.isSome_map,
      Option.isSome_iff_exists]
  rw [decides, Bool.and_eq_true, isAbout_iff, hvalues]
  constructor
  · rintro ⟨⟨htype, hkey⟩, hvalues⟩
    exact ⟨htype, hkey, hvalues⟩
  · rintro ⟨htype, hkey, hvalues⟩
    exact ⟨⟨htype, hkey⟩, hvalues⟩

/-- A message that settles something and names no host takes back what was said. -/
theorem Message.Settles.ofValues?_eq_none_iff (h : message.Settles container) :
    Locality.ofValues? message.values = none ↔ message.values = SortedMap.empty := by
  constructor
  · intro hnone
    refine h.values.resolve_right ?_
    rintro ⟨host, hhost⟩
    rw [Locality.ofValues?, hhost] at hnone
    cases hnone
  · intro hempty
    rw [hempty]
    rfl

/-! ## The search from the end -/

/-- A search from the end finds the last element of its kind. -/
theorem find?_reverse_eq_some_iff {α : Type} {p : α → Bool} {items : List α} {item : α} :
    items.reverse.find? p = some item ↔
      ∃ before after, items = before ++ item :: after ∧ p item = true ∧
        ∀ later ∈ after, p later = false := by
  rw [List.find?_eq_some_iff_append]
  -- What the search passes over comes after the item in the list as it stands.
  constructor
  · rintro ⟨hitem, after, before, hsplit, hafter⟩
    refine ⟨before.reverse, after.reverse, ?_, hitem, ?_⟩
    · simpa using congrArg List.reverse hsplit
    · simpa using hafter
  · rintro ⟨before, after, rfl, hitem, hafter⟩
    exact ⟨hitem, after.reverse, before.reverse, by simp, by simpa using hafter⟩

theorem find?_decides_eq_some_iff :
    messages.reverse.find? (·.decides container) = some message ↔
      LastSettles messages container message := by
  simp only [find?_reverse_eq_some_iff, LastSettles, Message.decides_iff, ← Bool.not_eq_true]

theorem find?_decides_eq_none_iff :
    messages.reverse.find? (·.decides container) = none ↔
      ∀ message ∈ messages, ¬message.Settles container := by
  simp [← Message.decides_iff]

/-- A container runs where the last message that settles it says. -/
theorem told?_eq_some_iff :
    told? messages container = some locality ↔
      ∃ message host, LastSettles messages container message ∧
        message.values.get? "host" = some host ∧
        locality = ⟨host, (message.values.get? "jmx-url").getD "",
          (message.values.get? "jmx-tunneling-url").getD ""⟩ := by
  simp only [told?, Option.bind_eq_some_iff, find?_decides_eq_some_iff, Locality.ofValues?_eq_some_iff,
    exists_and_left]

/-- Nothing is known of a container if no message settles it, or if the last one that does takes back what
was said. -/
theorem told?_eq_none_iff :
    told? messages container = none ↔
      (∀ message ∈ messages, ¬message.Settles container) ∨
        ∃ message, LastSettles messages container message ∧ message.values = SortedMap.empty := by
  rw [← find?_decides_eq_none_iff]
  simp only [told?, ← find?_decides_eq_some_iff]
  cases hfind : messages.reverse.find? (·.decides container) with
  | none => simp
  | some last =>
    -- The message that is found settles something, so that it is empty if it has no host.
    obtain ⟨before, after, -, hsettles, -⟩ := find?_decides_eq_some_iff.1 hfind
    simp [hsettles.ofValues?_eq_none_iff]

namespace LocalityManager

/-- **The last message that counts wins.** After a manager has read a log:

- a container runs on the host of the last message that settles it, with the addresses of that message or
  empty ones;
- nothing is known of a container if there is no such message, or if it has no values;
- all of this is the same whatever the manager knew before.

And a message that a container runs somewhere says just that when it is read. -/
theorem placements_read_last (manager : LocalityManager) (log : CoordinatorLog) :
    (∀ container locality, (manager.read log).placements.get? container = some locality ↔
      ∃ message host, LastSettles log.messages container message ∧
        message.values.get? "host" = some host ∧
        locality = ⟨host, (message.values.get? "jmx-url").getD "",
          (message.values.get? "jmx-tunneling-url").getD ""⟩) ∧
    (∀ container, (manager.read log).placements.get? container = none ↔
      (∀ message ∈ log.messages, ¬message.Settles container) ∨
        ∃ message, LastSettles log.messages container message ∧ message.values = SortedMap.empty) ∧
    (∀ placements, { manager with placements }.read log = manager.read log) ∧
    ∀ source container locality,
      (Message.place source container locality).Settles container ∧
        Locality.ofValues? (Message.place source container locality).values = some locality := by
  have hread : ∀ container, (manager.read log).placements.get? container =
      told? log.messages container := log.get?_replay_ofType
  refine ⟨fun container locality => ?_, fun container => ?_, fun placements => rfl, ?_⟩
  · rw [hread, told?_eq_some_iff]
  · rw [hread, told?_eq_none_iff]
  · intro source container locality
    have hvalues := Locality.ofValues?_toValues locality
    obtain ⟨host, hhost, -⟩ := Locality.ofValues?_eq_some_iff.1 hvalues
    exact ⟨⟨rfl, rfl, .inr ⟨host, hhost⟩⟩, hvalues⟩

/-- A container is placed. What follows is about it, but has no host or is of another type; another
container is placed and taken back. -/
def racksLog : CoordinatorLog where
  sources := (NameSet.add SortedMap.empty "agent").add "other"
  messages := [
    .place "agent" "7" ⟨"rack-a", "jmx:7", ""⟩,
    ⟨Message.placement, "agent", "7", SortedMap.ofList [("jmx-url", "jmx:moved")]⟩,
    .delete "set-changelog" "agent" "7",
    .place "agent" "8" ⟨"rack-b", "", ""⟩,
    .delete Message.placement "other" "8"]

/-- A manager that still knows where the other container was. -/
def staleManager : LocalityManager := ⟨"reader", SortedMap.empty.insert "8" ⟨"rack-b", "", ""⟩⟩

theorem placements_read_last_racks :
    (staleManager.read racksLog).placements.get? "7" = some ⟨"rack-a", "jmx:7", ""⟩ ∧
      (staleManager.read racksLog).placements.get? "8" = none := by
  obtain ⟨hsome, hnone, -, -⟩ := placements_read_last staleManager racksLog
  constructor
  · refine (hsome "7" _).2 ⟨.place "agent" "7" ⟨"rack-a", "jmx:7", ""⟩, "rack-a", ⟨[],
      racksLog.messages.drop 1, rfl, ⟨rfl, rfl, .inr ⟨"rack-a", by decide +kernel⟩⟩, ?_⟩,
      by decide +kernel, by decide +kernel⟩
    simp only [← Message.decides_iff]
    decide +kernel
  · refine (hnone "8").2 (.inr ⟨.delete Message.placement "other" "8", ⟨racksLog.messages.take 4, [],
      rfl, ⟨rfl, rfl, .inl rfl⟩, ?_⟩, rfl⟩)
    simp

end LocalityManager

end StreamPlan
