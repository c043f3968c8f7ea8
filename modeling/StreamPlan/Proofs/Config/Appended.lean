import StreamPlan.Proofs.Config.Properties

/-!
# Properties one below the other

Lines do not see what was read before them (`readLines_overlay`): they add the same to every
configuration, and a fault among them differs in the number of its line only. So a text that is read
below another is laid over it. This is the main result, `ofProperties_append_iff`, which also says which
fault two texts have: that of the text above, or else that of the text below.
-/

namespace StreamPlan

/-- A fault of lines that are read below other lines, and so are counted together with them. -/
def ConfigFault.below (above : Nat) : ConfigFault → ConfigFault
  | .expectedPair line => .expectedPair (above + line)
  | .emptyKey line => .emptyKey (above + line)
  | fault => fault

namespace Config

variable {number : Nat} {start : Config}

/-- Lines are read from what the lines before them have left. -/
theorem readLines_append (lines more : List String) :
    readLines number start (lines ++ more) =
      readLines number start lines >>= fun reached =>
        readLines (number + lines.length) reached more := by
  induction lines generalizing number start with
  | nil => rfl
  | cons line lines ih =>
    have hnumber : number + (line :: lines).length = number + 1 + lines.length := by
      rw [List.length_cons]
      omega
    rw [List.cons_append, readLines, readLines, hnumber]
    -- The line is passed over or adds a pair, and the rest is read from there; a fault ends both sides.
    split
    · exact ih
    · exact ih
    · rfl
    · rfl

/-- Lines say the same whatever was read above them. What was read is the `base`, over which lies what the
lines have said so far. -/
theorem readLines_overlay (above : Nat) (base : Config) (lines : List String) :
    readLines (above + number) (base.overlay start) lines =
      ((readLines number start lines).map base.overlay).mapError (.below above) := by
  induction lines generalizing number start with
  | nil => rfl
  | cons line lines ih =>
    rw [readLines, readLines, Nat.add_assoc]
    split
    · exact ih
    · -- The pair that the line adds to the whole is added to what lies over the base.
      rw [SortedMap.insert_overlay]
      exact ih
    · rfl
    · rfl

theorem ofProperties_append (a b : String) :
    ofProperties (a ++ "\n" ++ b) =
      ofProperties a >>= fun base =>
        ((ofProperties b).map base.overlay).mapError (.below (Text.split '\n' a).length) := by
  have hlines : Text.split '\n' (a ++ "\n" ++ b) = Text.split '\n' a ++ Text.split '\n' b :=
    Text.split_append '\n' a b
  rw [ofProperties, hlines, readLines_append]
  refine congrArg _ (funext fun base => ?_)
  -- The text below starts with nothing over the base, as it starts from nothing by itself.
  have hbase : base.overlay SortedMap.empty = base := rfl
  rw [ofProperties, ← readLines_overlay, hbase, Nat.add_comm]

/-- Two texts can be read one below the other exactly if each of them can be read, and then the one below
is laid over the one above. Otherwise the fault is that of the text above, or that of the text below if
the text above has none. -/
theorem ofProperties_append_iff (a b : String) :
    (∀ config, ofProperties (a ++ "\n" ++ b) = .ok config ↔
      ∃ base, ofProperties a = .ok base ∧
        ∃ top, ofProperties b = .ok top ∧ base.overlay top = config) ∧
    ∀ fault, ofProperties (a ++ "\n" ++ b) = .error fault ↔
      ofProperties a = .error fault ∨
        ∃ base, ofProperties a = .ok base ∧
          ∃ own, ofProperties b = .error own ∧ own.below (Text.split '\n' a).length = fault := by
  rw [ofProperties_append]
  constructor
  · intro config
    simp only [bind_eq_ok_iff, mapError_eq_ok_iff, map_eq_ok_iff]
  · intro fault
    simp only [bind_eq_error_iff, mapError_eq_error_iff, map_eq_error_iff]

example : (ofProperties ("mode = local\nname = a" ++ "\n" ++ "! again\nname = b")).toOption.map
    SortedMap.entries = some [("mode", "local"), ("name", "b")] := by
  decide +kernel

example : ofProperties ("mode = local\nname = a" ++ "\n" ++ "name = b\nname") =
    .error (.expectedPair 4) := by
  rfl

end Config

end StreamPlan
