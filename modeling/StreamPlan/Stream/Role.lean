import StreamPlan.Json.Decode

/-!
# Roles of streams

A plan reads some streams and writes others. A system that holds streams may allow one of the two or
both.
-/

namespace StreamPlan

/-- What a plan does with a stream. -/
inductive Role where
  /-- The stream is read. -/
  | input
  /-- The stream is written. -/
  | output
  deriving DecidableEq, Inhabited

/-- The name of a role. -/
def Role.name : Role → String
  | .input => "input"
  | .output => "output"

/-- Reads a role. -/
def Role.ofJson : Json → Json.Decoded Role :=
  Json.Decode.choice [("input", .input), ("output", .output)]

/-- The roles that a system allows. -/
structure AllowedRoles where
  /-- Whether streams may be read. -/
  input : Bool
  /-- Whether streams may be written. -/
  output : Bool
  deriving DecidableEq, Inhabited

namespace AllowedRoles

/-- Streams may be read and written. -/
def both : AllowedRoles := ⟨true, true⟩

/-- Streams may only be read. -/
def inputOnly : AllowedRoles := ⟨true, false⟩

/-- Streams may only be written. -/
def outputOnly : AllowedRoles := ⟨false, true⟩

/-- Nothing is allowed. -/
def neither : AllowedRoles := ⟨false, false⟩

/-- Whether a role is allowed. -/
def allows (roles : AllowedRoles) : Role → Bool
  | .input => roles.input
  | .output => roles.output

/-- The roles with one more allowed. -/
def allow (roles : AllowedRoles) : Role → AllowedRoles
  | .input => { roles with input := true }
  | .output => { roles with output := true }

/-- The stored form. -/
def toJson (roles : AllowedRoles) : Json :=
  .object [("input", .bool roles.input), ("output", .bool roles.output)]

/-- Reads the stored form. -/
def ofJson : Json → Json.Decoded AllowedRoles :=
  Json.Decode.Record.read
    { name := "IoRoles"
      fields := [("input", false), ("output", false)]
      start := (none, none)
      set := fun draft name value =>
        if name = "input" then (Json.Decode.bool value).map fun b => (some b, draft.2)
        else if name = "output" then (Json.Decode.bool value).map fun b => (draft.1, some b)
        else .ok draft
      finish := fun (draft : Option Bool × Option Bool) => do
        let input ← Json.Decode.required "input" draft.1
        let output ← Json.Decode.required "output" draft.2
        .ok ⟨input, output⟩ }

end AllowedRoles

end StreamPlan
