import StreamPlan.Operator.Join
import StreamPlan.Proofs.Config.Subset

/-!
# Fields of joined records

A join on fields gives one object with the fields of a message and those of a record. The fields of the
record are added in the order of their names, and one whose name is taken by then gets the name with
`_right`.

`FieldJoin.Moved` says which fields those are without following the order: a field whose name the message
has, and then every field that has the new name of another one. `combine_eq` shows that adding the fields
one after the other is the same as giving all of them their new names first.

- `apply_assigns`: the new names are pairwise different, so that no field of the record is lost;
- `apply_keeps_iff`: a field of the message is lost exactly if a field of the record with another value
  moves to its name. Nothing checks whether the name with `_right` is free (`apply_of_lost_field`).
-/

namespace StreamPlan

namespace FieldJoin

/-- A field of the record whose name is taken where it is added. -/
inductive Moved (message : Json) (record : SortedMap Json) : String → Prop
  /-- The message has a field of the name. -/
  | byMessage {name : String} (hname : record.contains name = true)
      (hfield : (message.field? name).isSome = true) : Moved message record name
  /-- Another field of the record moves to the name. -/
  | byRecord {name : String} (hmoved : Moved message record name)
      (hname : record.contains (name ++ "_right") = true) : Moved message record (name ++ "_right")

open Classical in
/-- The name that a field of the record gets. -/
noncomputable def newName (message : Json) (record : SortedMap Json) (name : String) : String :=
  if Moved message record name then name ++ "_right" else name

/-- A field of the record under its new name. -/
noncomputable def renamed (message : Json) (record : SortedMap Json) (field : String × Json) :
    String × Json :=
  (newName message record field.1, field.2)

variable {message : Json} {record : SortedMap Json} {name other : String}

/-! ## New names -/

theorem append_right_ne (name : String) : name ++ "_right" ≠ name := by
  intro h
  simpa using congrArg String.length h

theorem lt_append_right (name : String) : name < name ++ "_right" := by
  have hge : ¬name ++ "_right" < name := Text.not_lt_of_hasLead (Text.hasLead_iff.2 ⟨_, rfl⟩)
  exact Std.lt_of_le_of_ne (Std.not_lt.1 hge) (append_right_ne name).symm

theorem append_right_inj : name ++ "_right" = other ++ "_right" ↔ name = other := by
  rw [← String.toList_inj, String.toList_append, String.toList_append, List.append_left_inj,
    String.toList_inj]

theorem Moved.contains (h : Moved message record name) : record.contains name = true := by
  cases h with
  | byMessage hname => exact hname
  | byRecord _ hname => exact hname

/-- The name of a field is taken by the message or by another field of the record. -/
theorem moved_iff (hname : record.contains name = true) :
    Moved message record name ↔ (message.field? name).isSome = true ∨
      ∃ other, Moved message record other ∧ other ++ "_right" = name := by
  constructor
  · intro h
    cases h with
    | byMessage _ hfield => exact .inl hfield
    | byRecord hmoved _ => exact .inr ⟨_, hmoved, rfl⟩
  · rintro (hfield | ⟨other, hmoved, rfl⟩)
    · exact .byMessage hname hfield
    · exact .byRecord hmoved hname

theorem newName_of_moved (h : Moved message record name) :
    newName message record name = name ++ "_right" := if_pos h

theorem newName_of_not_moved (h : ¬Moved message record name) : newName message record name = name :=
  if_neg h

theorem newName_eq_or (message : Json) (record : SortedMap Json) (name : String) :
    newName message record name = name ∨ newName message record name = name ++ "_right" := by
  by_cases h : Moved message record name
  · exact .inr (newName_of_moved h)
  · exact .inl (newName_of_not_moved h)

theorem newName_eq_append_right_iff :
    newName message record name = name ++ "_right" ↔ Moved message record name := by
  refine ⟨fun h => ?_, newName_of_moved⟩
  by_contra hmoved
  rw [newName_of_not_moved hmoved] at h
  exact append_right_ne name h.symm

theorem newName_eq_self_iff : newName message record name = name ↔ ¬Moved message record name := by
  refine ⟨fun h hmoved => ?_, newName_of_not_moved⟩
  rw [newName_of_moved hmoved] at h
  exact append_right_ne name h

/-- No two fields of the record get the same name. A field to whose name another one moves is moved
itself, whichever of them is added first. -/
theorem newName_inj (hname : record.contains name = true) (hother : record.contains other = true)
    (h : newName message record name = newName message record other) : name = other := by
  by_cases hmoved : Moved message record name
  · rw [newName_of_moved hmoved] at h
    by_cases hmoved' : Moved message record other
    · rw [newName_of_moved hmoved'] at h
      exact append_right_inj.1 h
    · rw [newName_of_not_moved hmoved'] at h
      -- The name of the second field is the one that the first moves to, so the second moves too.
      subst h
      exact absurd (.byRecord hmoved hother) hmoved'
  · rw [newName_of_not_moved hmoved] at h
    by_cases hmoved' : Moved message record other
    · rw [newName_of_moved hmoved'] at h
      subst h
      exact absurd (.byRecord hmoved' hname) hmoved
    · rw [newName_of_not_moved hmoved'] at h
      exact h

/-! ## Adding the fields -/

/-- The fields of a message. -/
def messageFields (message : Json) : SortedMap Json := SortedMap.ofList (fieldsOf message)

/-- The fields of a message, and with them some fields of the record under their new names. -/
noncomputable def filled (message : Json) (record : SortedMap Json) (added : List (String × Json)) :
    SortedMap Json :=
  (messageFields message).insertAll (added.map (renamed message record))

theorem field?_eq_get? (message : Json) (name : String) :
    message.field? name = Entries.get? name (fieldsOf message) := by
  cases message <;> rfl

theorem contains_messageFields :
    (messageFields message).contains name = true ↔ (message.field? name).isSome = true := by
  rw [SortedMap.contains, messageFields, SortedMap.get?_ofList, field?_eq_get?,
    Entries.get?_isSome_iff, Entries.get?_isSome_iff]
  simp only [List.mem_reverse]

/-- The fields of an object are found in it. -/
theorem get?_messageFields (fields : SortedMap Json) (name : String) :
    (messageFields (.object fields.entries)).get? name = fields.get? name := by
  rw [messageFields, SortedMap.get?_ofList]
  exact Entries.get?_reverse fields.sorted.keys_ne name

theorem filled_concat (added : List (String × Json)) (field : String × Json) :
    filled message record (added ++ [field]) =
      (filled message record added).insert (newName message record field.1) field.2 := by
  rw [filled, filled, List.map_append, SortedMap.insertAll, List.foldl_append]
  rfl

theorem isSome_get?_renamed {added : List (String × Json)} :
    (Entries.get? name (added.map (renamed message record)).reverse).isSome = true ↔
      ∃ field ∈ added, newName message record field.1 = name := by
  rw [Entries.get?_isSome_iff]
  simp only [List.mem_reverse, List.mem_map, renamed, Prod.mk.injEq]
  constructor
  · rintro ⟨value, field, hfield, hname, -⟩
    exact ⟨field, hfield, hname⟩
  · rintro ⟨field, hfield, hname⟩
    exact ⟨field.2, field, hfield, hname, rfl⟩

theorem contains_filled {added : List (String × Json)} :
    (filled message record added).contains name = true ↔
      (∃ field ∈ added, newName message record field.1 = name) ∨
        (message.field? name).isSome = true := by
  rw [← isSome_get?_renamed, ← contains_messageFields, filled, SortedMap.contains,
    SortedMap.get?_insertAll, Option.isSome_or, Bool.or_eq_true]
  rfl

/-- When the turn of a field has come, its name is taken exactly if the field is one that moves. Here the
order counts: what moves to the name of a field stands before the field. -/
theorem contains_filled_iff_moved {before after : List (String × Json)} {value : Json}
    (h : record.entries = before ++ (name, value) :: after) :
    (filled message record before).contains name = true ↔ Moved message record name := by
  have hsorted : Entries.Sorted (before ++ (name, value) :: after) := h ▸ record.sorted
  obtain ⟨-, hafter, hbefore⟩ := List.pairwise_append.1 hsorted
  have hmem : (name, value) ∈ record.entries := by simp [h]
  have hname : record.contains name = true := SortedMap.contains_of_mem hmem
  rw [contains_filled, moved_iff hname, or_comm]
  refine or_congr_right ⟨?_, ?_⟩
  · rintro ⟨field, hfield, hnew⟩
    -- The field has a name before this one, so that the new name is not its own.
    have hlt : field.1 < name := hbefore field hfield (name, value) List.mem_cons_self
    have hmoved : Moved message record field.1 := by
      by_contra hmoved
      rw [newName_of_not_moved hmoved] at hnew
      exact String.lt_irrefl name (hnew ▸ hlt)
    exact ⟨field.1, hmoved, by rw [← newName_of_moved hmoved, hnew]⟩
  · rintro ⟨other, hmoved, rfl⟩
    obtain ⟨value', hvalue'⟩ := SortedMap.contains_iff.1 hmoved.contains
    have hmem := SortedMap.get?_eq_some_iff_mem.1 hvalue'
    rw [h, List.mem_append, List.mem_cons] at hmem
    -- A text is before each of its extensions, so that the other field has been added already.
    refine ⟨(other, value'), ?_, newName_of_moved hmoved⟩
    rcases hmem with hmem | hself | hmem
    · exact hmem
    · exact absurd (Prod.mk.inj hself).1.symm (append_right_ne other)
    · have hgt : other ++ "_right" < other := (List.pairwise_cons.1 hafter).1 _ hmem
      exact absurd (String.lt_trans hgt (lt_append_right other)) (String.lt_irrefl _)

theorem freeName_filled {before after : List (String × Json)} {value : Json}
    (h : record.entries = before ++ (name, value) :: after) :
    freeName (filled message record before).entries name = newName message record name := by
  by_cases hmoved : Moved message record name
  · rw [newName_of_moved hmoved, freeName, if_pos]
    exact (contains_filled_iff_moved h).2 hmoved
  · rw [newName_of_not_moved hmoved, freeName, if_neg]
    exact fun htaken => hmoved ((contains_filled_iff_moved h).1 htaken)

/-- From any point on, the fields that are left are added under their new names. -/
theorem addFields_filled {before rest : List (String × Json)} (h : record.entries = before ++ rest) :
    addFields (filled message record before).entries rest =
      (filled message record record.entries).entries := by
  induction rest generalizing before with
  | nil =>
    rw [h, List.append_nil]
    rfl
  | cons field rest ih =>
    have hnext : record.entries = (before ++ [field]) ++ rest := by
      rw [h, List.append_assoc, List.singleton_append]
    -- Adding one field under a free name is one step of `filled`.
    rw [← ih hnext, filled_concat, ← freeName_filled h]
    rfl

/-- A message and a record are put together by adding the fields of the record under their new names. -/
theorem combine_eq (message : Json) (record : SortedMap Json) :
    combine message (.object record.entries) =
      .object (filled message record record.entries).entries := by
  have hstart : Entries.ofList (fieldsOf message) = (filled message record []).entries :=
    (SortedMap.entries_ofList (fieldsOf message)).symm
  rw [combine, hstart]
  exact congrArg Json.object (addFields_filled (List.nil_append record.entries).symm)

/-! ## What is found in the result -/

/-- The new names of the fields are pairwise different. -/
theorem renamed_keys_ne (message : Json) (record : SortedMap Json) :
    (record.entries.map (renamed message record)).Pairwise fun a b => a.1 ≠ b.1 := by
  rw [List.pairwise_map]
  refine record.sorted.keys_ne.imp_of_mem ?_
  intro a b ha hb hne hnew
  exact hne (newName_inj (SortedMap.contains_of_mem ha) (SortedMap.contains_of_mem hb) hnew)

theorem get?_filled_newName {value : Json} (h : record.get? name = some value) :
    (filled message record record.entries).get? (newName message record name) = some value := by
  have hmem : (newName message record name, value) ∈ record.entries.map (renamed message record) :=
    List.mem_map.2 ⟨(name, value), SortedMap.get?_eq_some_iff_mem.1 h, rfl⟩
  rw [filled, SortedMap.get?_insertAll, Entries.get?_reverse (renamed_keys_ne message record),
    Entries.get?_eq_some_of_mem (renamed_keys_ne message record) hmem, Option.some_or]

/-- Where no field of the record goes, the result has what the message has. -/
theorem get?_filled_of_ne
    (h : ∀ key, record.contains key = true → newName message record key ≠ name) :
    (filled message record record.entries).get? name = (messageFields message).get? name := by
  have hnone : Entries.get? name (record.entries.map (renamed message record)).reverse = none := by
    rw [← Option.not_isSome_iff_eq_none, isSome_get?_renamed]
    rintro ⟨field, hfield, hname⟩
    exact h field.1 (SortedMap.contains_of_mem hfield) hname
  rw [filled, SortedMap.get?_insertAll, hnone, Option.none_or]

theorem get?_filled_of_moved (h : Moved message record name) :
    (filled message record record.entries).get? (name ++ "_right") = record.get? name := by
  obtain ⟨value, hvalue⟩ := SortedMap.contains_iff.1 h.contains
  rw [← newName_of_moved h, get?_filled_newName hvalue, hvalue]

/-- A name of the message is left alone by every field that does not move to it: a field of the record
with the same name is one that moves away. -/
theorem newName_ne_of_field (hfield : (message.field? name).isSome = true)
    (h : ∀ key, Moved message record key → key ++ "_right" ≠ name) {key : String}
    (hkey : record.contains key = true) : newName message record key ≠ name := by
  intro hnew
  by_cases hmoved : Moved message record key
  · exact h key hmoved (newName_of_moved hmoved ▸ hnew)
  · rw [newName_of_not_moved hmoved] at hnew
    subst hnew
    exact hmoved (.byMessage hkey hfield)

/-! ## Joined fields -/

/-- The fields of a record are all in the result of a join, each under a name that no other one gets. A
field keeps its own name exactly if the message has no field of that name and no other field of the
record has moved to it. -/
theorem apply_assigns (join : FieldJoin) (message : Json) (record : SortedMap Json) :
    ∃ (assign : String → String) (fields : SortedMap Json),
      join.apply message (some (.object record.entries)) = some (.object fields.entries) ∧
      (∀ key key', record.contains key = true → record.contains key' = true →
        assign key = assign key' → key = key') ∧
      ∀ key value, record.get? key = some value →
        (assign key = key ∨ assign key = key ++ "_right") ∧
        fields.get? (assign key) = some value ∧
        (assign key = key ↔ message.field? key = none ∧
          ¬∃ key', record.contains key' = true ∧ key' ≠ key ∧ assign key' = key' ++ "_right" ∧
            key = key' ++ "_right") := by
  refine ⟨newName message record, filled message record record.entries,
    congrArg some (combine_eq message record), ?_, ?_⟩
  · intro key key' hkey hkey'
    exact newName_inj hkey hkey'
  · intro key value hvalue
    refine ⟨newName_eq_or message record key, get?_filled_newName hvalue, ?_⟩
    have hkey : record.contains key = true := SortedMap.contains_iff.2 ⟨value, hvalue⟩
    rw [newName_eq_self_iff, moved_iff hkey, not_or, Bool.not_eq_true, Option.isSome_eq_false_iff,
      Option.isNone_iff_eq_none]
    refine and_congr_right fun _ => not_congr ⟨?_, ?_⟩
    · rintro ⟨key', hmoved, rfl⟩
      exact ⟨key', hmoved.contains, (append_right_ne key').symm, newName_of_moved hmoved, rfl⟩
    · rintro ⟨key', -, -, hnew, rfl⟩
      exact ⟨key', newName_eq_append_right_iff.1 hnew, rfl⟩

/-- A record in which the name of one field is that of the other with `_right`. -/
def namesake : SortedMap Json :=
  .ofList [("name", .string "alice"), ("name_right", .string "jones")]

/-- Both fields move, the second because the first takes its name. -/
theorem apply_assigns_namesake :
    ∃ (assign : String → String) (fields : SortedMap Json),
      (FieldJoin.mk "user" "id" .left).apply (.object [("name", .string "home")])
        (some (.object namesake.entries)) = some (.object fields.entries) ∧
      assign "name" = "name" ++ "_right" ∧ fields.get? (assign "name") = some (.string "alice") ∧
      assign "name_right" = "name_right" ++ "_right" ∧
      fields.get? (assign "name_right") = some (.string "jones") := by
  obtain ⟨assign, fields, happly, -, hfields⟩ :=
    apply_assigns ⟨"user", "id", .left⟩ (.object [("name", .string "home")]) namesake
  have halice : namesake.get? "name" = some (.string "alice") := rfl
  have hjones : namesake.get? "name_right" = some (.string "jones") := rfl
  obtain ⟨hfirst, hfirstValue, hfirstKept⟩ := hfields _ _ halice
  obtain ⟨hsecond, hsecondValue, hsecondKept⟩ := hfields _ _ hjones
  -- The message has a name, so that the name of the record moves, and its new name is taken then.
  have hname : assign "name" = "name" ++ "_right" :=
    hfirst.resolve_left fun h => Option.some_ne_none _ (hfirstKept.1 h).1
  have hcontains : namesake.contains "name" = true := SortedMap.contains_iff.2 ⟨_, halice⟩
  have hright : assign "name_right" = "name_right" ++ "_right" :=
    hsecond.resolve_left fun h =>
      (hsecondKept.1 h).2 ⟨"name", hcontains, by decide, hname, by decide⟩
  exact ⟨assign, fields, happly, hname, hfirstValue, hright, hsecondValue⟩

/-- A field of the message is in the result under its name. It has its value there exactly if no field
of the record with another value moves to the name. -/
theorem apply_keeps_iff (join : FieldJoin) (message record : SortedMap Json) :
    ∃ fields : SortedMap Json,
      join.apply (.object message.entries) (some (.object record.entries)) =
        some (.object fields.entries) ∧
      ∀ name value, message.get? name = some value →
        fields.contains name = true ∧
        (fields.get? name = some value ↔
          ∀ key, Moved (.object message.entries) record key → key ++ "_right" = name →
            record.get? key = some value) := by
  refine ⟨_, congrArg some (combine_eq _ record), fun name value hvalue => ?_⟩
  have hfield : ((Json.object message.entries).field? name).isSome = true :=
    Option.isSome_iff_exists.2 ⟨value, hvalue⟩
  refine ⟨contains_filled.2 (.inr hfield), ?_, ?_⟩
  · rintro hkept key hmoved rfl
    rw [← get?_filled_of_moved hmoved, hkept]
  · intro h
    by_cases hgoes : ∃ key, Moved (.object message.entries) record key ∧ key ++ "_right" = name
    · obtain ⟨key, hmoved, rfl⟩ := hgoes
      rw [get?_filled_of_moved hmoved, h key hmoved rfl]
    · have hstays : ∀ key, Moved (.object message.entries) record key → key ++ "_right" ≠ name :=
        fun key hmoved hname => hgoes ⟨key, hmoved, hname⟩
      rw [get?_filled_of_ne fun _ hkey => newName_ne_of_field hfield hstays hkey, get?_messageFields,
        hvalue]

/-- A view of a page that has a field with `_right` already. -/
def taggedView : SortedMap Json :=
  .ofList [("name", .string "home"), ("name_right", .string "old"), ("user", .string "u7")]

/-- The user who viewed it. -/
def viewer : SortedMap Json := .ofList [("id", .string "u7"), ("name", .string "alice")]

/-- The name of the user moves to a name that the view has, and the field of the view is lost. -/
theorem apply_of_lost_field :
    ∃ fields : SortedMap Json,
      (FieldJoin.mk "user" "id" .inner).apply (.object taggedView.entries)
        (some (.object viewer.entries)) = some (.object fields.entries) ∧
      taggedView.get? "name_right" = some (.string "old") ∧
      fields.get? "name_right" = some (.string "alice") := by
  let fields : SortedMap Json :=
    .ofList [("id", .string "u7"), ("name", .string "home"), ("name_right", .string "alice"),
      ("user", .string "u7")]
  exact ⟨fields, rfl, rfl, rfl⟩

/-- Of the fields of the view only the one is lost to whose name a field of the user moves. -/
theorem apply_keeps_iff_taggedView :
    ∃ fields : SortedMap Json,
      (FieldJoin.mk "user" "id" .inner).apply (.object taggedView.entries)
        (some (.object viewer.entries)) = some (.object fields.entries) ∧
      fields.get? "name" = some (.string "home") ∧ fields.get? "user" = some (.string "u7") ∧
      fields.get? "name_right" ≠ some (.string "old") := by
  obtain ⟨fields, happly, hkeeps⟩ := apply_keeps_iff ⟨"user", "id", .inner⟩ taggedView viewer
  -- A name of four letters is too short to be one that a field moves to.
  have hshort {key name : String} (hname : name.length = 4) : key ++ "_right" ≠ name := by
    intro h
    have hlength := congrArg String.length h
    rw [String.length_append, hname] at hlength
    have hright : "_right".length = 6 := by decide
    omega
  refine ⟨fields, happly, ?_, ?_, ?_⟩
  · refine (hkeeps "name" _ rfl).2.2 fun key _ hname => ?_
    exact absurd hname (hshort (by decide))
  · refine (hkeeps "user" _ rfl).2.2 fun key _ hname => ?_
    exact absurd hname (hshort (by decide))
  · intro hkept
    have hmoved : Moved (.object taggedView.entries) viewer "name" := .byMessage rfl rfl
    have hold := (hkeeps "name_right" (.string "old") rfl).2.1 hkept "name" hmoved (by decide)
    have halice : viewer.get? "name" = some (.string "alice") := rfl
    rw [halice] at hold
    simp at hold

end FieldJoin

end StreamPlan
