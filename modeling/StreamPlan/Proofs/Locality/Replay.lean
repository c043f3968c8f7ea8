import Mathlib.Data.List.Induction
import StreamPlan.Locality.Manager
import StreamPlan.Proofs.Data.SortedMap

/-!
# Replaying a log

A manager replays the messages of a log one by one. What comes out for a container depends on one message
only: the last one about the container that decides anything. It decides if it has a host, and then that
is where the container runs, or if it has no values at all, and then the container is gone. A message with
values but without a host is passed over.

`told?` says this of a list of messages without replaying it, and `get?_replay` shows that replaying comes
to the same.
-/

namespace StreamPlan

namespace Message

/-- The message is about where a container runs. -/
def isAbout (message : Message) (container : String) : Bool :=
  message.type = placement && message.key = container

/-- The message settles where a container runs, or that it no longer does. -/
def decides (message : Message) (container : String) : Bool :=
  message.isAbout container &&
    (message.isDelete || (Locality.ofValues? message.values).isSome)

end Message

/-- Where a container runs by the last message that decides it. -/
def told? (messages : List Message) (container : String) : Option Locality :=
  (messages.reverse.find? (·.decides container)).bind fun message =>
    Locality.ofValues? message.values

variable {messages : List Message} {message : Message} {container : String}

theorem Message.isAbout_iff :
    message.isAbout container = true ↔ message.type = placement ∧ message.key = container := by
  simp [isAbout]

/-! ## The last message that decides -/

theorem told?_concat (messages : List Message) (message : Message) (container : String) :
    told? (messages ++ [message]) container =
      if message.decides container then Locality.ofValues? message.values
      else told? messages container := by
  rw [told?, List.reverse_append, List.reverse_singleton, List.singleton_append, List.find?_cons]
  cases message.decides container <;> rfl

/-- Only messages about a container count for it. The others can be left out, here after some messages
that all stay. -/
theorem told?_append_map_filter {α : Type} (earlier : List Message) (message : α → Message)
    {keep : α → Bool} {items : List α}
    (hkeep : ∀ item ∈ items, (message item).isAbout container = true → keep item = true) :
    told? (earlier ++ (items.filter keep).map message) container =
      told? (earlier ++ items.map message) container := by
  induction items using List.reverseRecOn with
  | nil => rfl
  | append_singleton before last ih =>
    have hbefore := ih fun item hmem => hkeep item (List.mem_append_left _ hmem)
    rw [List.map_append, List.map_singleton, ← List.append_assoc, told?_concat, List.filter_append]
    by_cases hlast : keep last = true
    · rw [List.filter_cons_of_pos hlast, List.filter_nil, List.map_append, List.map_singleton,
        ← List.append_assoc, told?_concat, hbefore]
    · -- A message that is left out is not about the container, so it decides nothing.
      have hnot : (message last).isAbout container = false := by
        by_contra habout
        exact hlast (hkeep last (by simp) (by simpa using habout))
      have hdecides : (message last).decides container = false := by
        rw [Message.decides, hnot, Bool.false_and]
      rw [List.filter_cons_of_neg hlast, List.filter_nil, List.append_nil, hbefore, hdecides]
      rfl

/-! ## Values of messages -/

namespace Locality

/-- The values of a message say where the container runs that they were written for. -/
@[simp]
theorem ofValues?_toValues (locality : Locality) : ofValues? locality.toValues = some locality := by
  simp [ofValues?, toValues, SortedMap.get?_ofList, Entries.get?]

theorem ofValues?_of_isEmpty {values : SortedMap String} (h : values.isEmpty = true) :
    ofValues? values = none := by
  rw [SortedMap.isEmpty_iff.1 h]
  rfl

end Locality

/-- A message that a container runs somewhere tells just that. -/
theorem told?_concat_place (messages : List Message) (source written : String) (locality : Locality)
    (container : String) :
    told? (messages ++ [.place source written locality]) container =
      if container = written then some locality else told? messages container := by
  have hdecides : (Message.place source written locality).decides container = true ↔
      container = written := by
    rw [Message.decides, Bool.and_eq_true, Message.isAbout_iff]
    simp [Message.place, eq_comm]
  rw [told?_concat]
  exact if_congr hdecides (Locality.ofValues?_toValues locality) rfl

namespace Placements

variable {placements : Placements}

/-- One message changes what is known of the container that it decides about, and nothing else. -/
theorem get?_replayOne (htype : message.type = Message.placement) :
    (placements.replayOne message).get? container =
      if message.decides container then Locality.ofValues? message.values
      else placements.get? container := by
  have habout : message.isAbout container = decide (message.key = container) := by
    simp [Message.isAbout, htype]
  rw [replayOne]
  -- A delete always decides, and any other message only if it names a host.
  by_cases hdelete : message.isDelete = true
  · rw [if_pos hdelete, SortedMap.get?_erase, Message.decides, habout, hdelete,
      Locality.ofValues?_of_isEmpty hdelete]
    simp [eq_comm]
  · rw [if_neg hdelete]
    cases hvalues : Locality.ofValues? message.values with
    | none => simp [Message.decides, hdelete, hvalues]
    | some locality =>
      simp [Message.decides, habout, hvalues, SortedMap.get?_insert, eq_comm]

/-- Replaying a log tells of every container what the last deciding message tells. -/
theorem get?_replay (htype : ∀ message ∈ messages, message.type = Message.placement)
    (container : String) : (replay messages).get? container = told? messages container := by
  induction messages using List.reverseRecOn with
  | nil => rfl
  | append_singleton earlier last ih =>
    have hstep : replay (earlier ++ [last]) = (replay earlier).replayOne last := by
      simp [replay]
    rw [hstep, get?_replayOne (htype last (by simp)), told?_concat,
      ih fun message hmem => htype message (List.mem_append_left _ hmem)]

end Placements

/-- Replaying the messages of a log about containers tells what the log as a whole tells. -/
theorem CoordinatorLog.get?_replay_ofType (log : CoordinatorLog) (container : String) :
    (Placements.replay (log.ofType Message.placement)).get? container =
      told? log.messages container := by
  have htype : ∀ message ∈ log.ofType Message.placement, message.type = Message.placement := by
    simp [ofType]
  have hkeep : ∀ message ∈ log.messages, message.isAbout container = true →
      decide (message.type = Message.placement) = true := by
    intro message _ habout
    exact decide_eq_true (Message.isAbout_iff.1 habout).1
  have hfilter := told?_append_map_filter [] id hkeep
  rw [Placements.get?_replay htype, ofType]
  simpa using hfilter

end StreamPlan
