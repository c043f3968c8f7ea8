import StreamPlan.Proofs.Stream.Catalog
import StreamPlan.Proofs.TableName

/-!
# Registered systems

What a configuration says of a system, and what of it reaches the streams.

A key `stream.<rest>` of a system is cut at the first dot of its rest: what stands before it is the
stream, what stands after it the property. A name is cut at its first dot as well, into the system and
the stream, so that the stream of a name may have dots where the stream of a key has none. A property
that is written for such a stream belongs to the stream of its first segment, and the stream that it was
written for does not get it (`lookup_property_iff`).
-/

namespace StreamPlan

namespace System

variable {system system' : System} {name stream key value : String} {keys : Config}

theorem get?_properties_addStreamKey (system : System) (stream key value stream' key' : String) :
    ((system.addStreamKey stream key value).properties stream').get? key' =
      if stream' = stream ∧ key' = key then some value
      else (system.properties stream').get? key' := by
  rw [properties, addStreamKey, SortedMap.get?_insert]
  by_cases hstream : stream' = stream
  · subst hstream
    rw [if_pos rfl, Option.getD_some, SortedMap.get?_insert]
    simp
  · simp [hstream, properties]

theorem get?_properties_of_streamConfig_eq_empty (h : system.streamConfig = SortedMap.empty) :
    (system.properties stream).get? key = none := by
  rw [properties, h]
  rfl

/-- A key names one property: its stream has no dot. -/
theorem append_dot_inj {stream' : String} (key key' : String) (hstream : '.' ∉ stream.toList)
    (hstream' : '.' ∉ stream'.toList) :
    stream ++ "." ++ key = stream' ++ "." ++ key' ↔ stream = stream' ∧ key = key' := by
  constructor
  · intro heq
    -- Both sides are cut at the first dot, which is the one after the stream.
    have hcut : Text.cut '.' (stream ++ "." ++ key) = some (stream, key) :=
      Text.cut_eq_some_iff.2 ⟨hstream, rfl⟩
    have hcut' : Text.cut '.' (stream ++ "." ++ key) = some (stream', key') :=
      Text.cut_eq_some_iff.2 ⟨hstream', heq⟩
    simpa using hcut.symm.trans hcut'
  · rintro ⟨rfl, rfl⟩
    rfl

/-- The keys of streams set the properties of streams without dots, of several values for one the last,
and leave those of all other streams alone. -/
theorem get?_properties_of_readStreamKeys {entries : List (String × String)}
    (h : system.readStreamKeys entries = .ok system') (stream key : String) :
    (system'.properties stream).get? key =
      if '.' ∈ stream.toList then (system.properties stream).get? key
      else (Entries.get? (stream ++ "." ++ key) entries.reverse).or
        ((system.properties stream).get? key) := by
  induction entries generalizing system with
  | nil =>
    obtain rfl := Except.ok.inj h
    simp [Entries.get?]
  | cons entry entries ih =>
    obtain ⟨rest, value⟩ := entry
    rw [readStreamKeys] at h
    split at h
    · cases h
    · rename_i first property hcut
      obtain ⟨hfirst, rfl⟩ := Text.cut_eq_some_iff.1 hcut
      rw [ih h, get?_properties_addStreamKey, List.reverse_cons, Entries.get?_append, Option.or_assoc]
      -- The key was cut at its first dot, so it sets no property of a stream with a dot.
      by_cases hstream : '.' ∈ stream.toList
      · have hne : stream ≠ first := fun heq => hfirst (heq ▸ hstream)
        simp [hstream, hne]
      · rw [if_neg hstream, if_neg hstream]
        -- Spelled together, stream and key are those of the entry exactly if each of them is.
        congr 1
        have hkey := append_dot_inj key property hstream hfirst
        by_cases heq : stream = first ∧ key = property
        · obtain ⟨rfl, rfl⟩ := heq
          simp [Entries.get?]
        · rw [if_neg heq, Entries.get?, if_neg fun h => heq (hkey.1 h.symm)]
          rfl

theorem name_of_readStreamKeys {entries : List (String × String)}
    (h : system.readStreamKeys entries = .ok system') : system'.name = system.name := by
  induction entries generalizing system with
  | nil =>
    obtain rfl := Except.ok.inj h
    rfl
  | cons entry entries ih =>
    rw [readStreamKeys] at h
    split at h
    · cases h
    · have hname := ih h
      exact hname

theorem name_of_ofKeys (h : ofKeys name keys = .ok system) : system.name = name := by
  obtain ⟨roles, -, h⟩ := bind_eq_ok_iff.1 h
  obtain ⟨kind, -, h⟩ := bind_eq_ok_iff.1 h
  exact name_of_readStreamKeys h

/-- The properties of a system are those that its keys set for streams without dots. -/
theorem get?_properties_of_ofKeys (h : ofKeys name keys = .ok system) (stream key : String) :
    (system.properties stream).get? key =
      if '.' ∈ stream.toList then none
      else keys.get? ("stream." ++ (stream ++ "." ++ key)) := by
  obtain ⟨roles, -, h⟩ := bind_eq_ok_iff.1 h
  obtain ⟨kind, -, h⟩ := bind_eq_ok_iff.1 h
  have hrest : stream ++ "." ++ key ≠ "" := by
    intro hempty
    simpa using congrArg String.toList hempty
  -- Before the keys are read there are no properties.
  rw [get?_properties_of_readStreamKeys h, Entries.get?_reverse (SortedMap.sorted _).keys_ne,
    get?_properties_of_streamConfig_eq_empty rfl, Option.or_none]
  have hread := Config.get?_subset keys "stream." (stream ++ "." ++ key)
  rw [if_neg hrest] at hread
  exact congrArg (fun value => if '.' ∈ stream.toList then none else value) hread

end System

namespace Catalog

variable {config : Config} {catalog catalog' : Catalog} {names : List String}
  {name stream key : String} {system : System}

/-- Registering the systems of a list puts each of them under its name and leaves the others alone. -/
theorem get?_of_registerListed (h : registerListed config catalog names = .ok catalog')
    (name : String) :
    catalog'.systems.get? name =
      if name ∈ names then (System.ofKeys name (systemKeys config name)).toOption
      else catalog.systems.get? name := by
  induction names generalizing catalog with
  | nil =>
    obtain rfl := Except.ok.inj h
    simp
  | cons first names ih =>
    rw [registerListed] at h
    split at h
    · cases h
    · rename_i system hsystem
      rw [ih h, register, SortedMap.get?_insert, System.name_of_ofKeys hsystem]
      -- A name that is listed twice is registered with the same keys again.
      by_cases hrest : name ∈ names
      · simp [hrest]
      · by_cases hfirst : name = first
        · subst hfirst
          simp [hsystem, Except.toOption]
        · simp [hrest, hfirst]

/-- The systems of a configuration are the listed ones, each with its own keys. -/
theorem get?_of_ofConfig (h : ofConfig config = .ok catalog) :
    catalog.systems.get? name = some system ↔
      name ∈ config.list Config.systemsKey ∧
        System.ofKeys name (systemKeys config name) = .ok system := by
  rw [get?_of_registerListed h]
  split
  · rename_i hlisted
    rw [toOption_eq_some_iff, and_iff_right hlisted]
  · rename_i hlisted
    simp [empty, hlisted]

/-- A registered stream without dots has the properties that the configuration has for it, and one with
dots has none. -/
theorem get?_properties_of_ofConfig (h : ofConfig config = .ok catalog)
    (hsystem : catalog.systems.get? name = some system) (stream key : String) :
    (system.properties stream).get? key =
      if '.' ∈ stream.toList then none
      else config.get? (Config.systemLead ++ name ++ ".stream." ++ stream ++ "." ++ key) := by
  obtain ⟨-, hkeys⟩ := (get?_of_ofConfig h).1 hsystem
  have hrest : "stream." ++ (stream ++ "." ++ key) ≠ "" := by
    intro hempty
    simpa using congrArg String.toList hempty
  -- The dot that ends the keys of a system is written with what follows it.
  have hdots : ".stream." = "." ++ "stream." := by decide
  rw [System.get?_properties_of_ofKeys hkeys, systemKeys, Config.get?_subset, if_neg hrest, hdots]
  simp only [String.append_assoc]

theorem find?_eq_some_iff :
    catalog.find? name = some (system, stream) ↔
      ∃ parsed, TableName.parse name = .ok parsed ∧ parsed.tail = stream ∧ stream ≠ "" ∧
        catalog.systems.get? parsed.head = some system := by
  rw [find?]
  constructor
  · intro h
    split at h
    · cases h
    · rename_i parsed hparsed
      split at h
      · cases h
      · rename_i htail
        obtain ⟨found, hfound, heq⟩ := Option.map_eq_some_iff.1 h
        obtain ⟨rfl, rfl⟩ := Prod.mk.inj heq
        exact ⟨parsed, hparsed, rfl, htail, hfound⟩
  · rintro ⟨parsed, hparsed, rfl, htail, hfound⟩
    simp [hparsed, htail, hfound]

end Catalog

/-- The items of a list are neither blank nor surrounded by blanks. -/
theorem Config.trim_of_mem_list {config : Config} {key item : String}
    (h : item ∈ config.list key) : Text.trim item = item ∧ item ≠ "" := by
  rw [Config.list] at h
  split at h
  · cases h
  · obtain ⟨hmem, hne⟩ := List.mem_filter.1 h
    obtain ⟨part, -, rfl⟩ := List.mem_map.1 hmem
    exact ⟨Text.trim_trim part, by simpa using hne⟩

/-- A name of a stream within a system: segments that are neither blank nor surrounded by blanks. -/
def StreamName (stream : String) : Prop :=
  ∀ segment ∈ Text.split '.' stream, Text.trim segment = segment ∧ segment ≠ ""

instance (stream : String) : Decidable (StreamName stream) :=
  inferInstanceAs (Decidable (∀ segment ∈ Text.split '.' stream, _))

namespace Catalog

variable {config : Config} {catalog : Catalog} {system : System} {name stream key value : String}
  {resolved : ResolvedStream}

/-- A name of two segments without dots is found where it says. -/
theorem find?_append (hsystem : catalog.systems.get? name = some system)
    (hname : Text.trim name = name ∧ name ≠ "") (hstream : StreamName stream)
    (hdots : '.' ∉ name.toList ∧ '.' ∉ stream.toList) :
    catalog.find? (name ++ "." ++ stream) = some (system, stream) := by
  -- Without dots in them the two names are the segments, and both are trimmed already.
  have hsplit : Text.split '.' (name ++ "." ++ stream) = [name, stream] := by
    rw [TableName.split_append, Text.split_of_not_mem hdots.1, Text.split_of_not_mem hdots.2]
    rfl
  have hsegment : Text.trim stream = stream ∧ stream ≠ "" := by
    refine hstream stream ?_
    rw [Text.split_of_not_mem hdots.2]
    exact List.mem_singleton_self stream
  have hvisible : ∀ segment ∈ [name, stream], Text.isBlankText segment = false := by
    simp [Text.isBlankText_eq_false hname.1 hname.2,
      Text.isBlankText_eq_false hsegment.1 hsegment.2]
  have hparse : TableName.parse (name ++ "." ++ stream) =
      .ok ⟨[name, stream], by simp, hvisible⟩ := by
    rw [TableName.parse_eq_ok_iff, hsplit]
    simp [hname.1, hsegment.1]
  rw [find?_eq_some_iff]
  refine ⟨_, hparse, ?_, hsegment.2, ?_⟩
  · simp [TableName.tail, Text.join]
  · exact hsystem

/-- A stream that has a property has no dots in its name. -/
theorem not_mem_of_get?_streams (hcatalog : ofConfig config = .ok catalog)
    (hlookup : catalog.lookup .input name = .ok resolved)
    (hkey : Text.hasLead "streams." key = true) (hvalue : resolved.config.get? key = some value) :
    '.' ∉ resolved.stream.toList := by
  obtain ⟨found, stream, hfind, -, rfl⟩ := lookup_eq_ok_iff.1 hlookup
  obtain ⟨parsed, -, -, -, hfound⟩ := find?_eq_some_iff.1 hfind
  -- A key of streams is a property; what the system needs stands under other keys.
  rcases get?_streamConfig_eq_some_iff.1 hvalue with ⟨rest, -, hproperty⟩ | ⟨rest, rfl, -⟩
  · intro hdot
    have hnone := get?_properties_of_ofConfig hcatalog hfound stream rest
    rw [if_pos hdot] at hnone
    cases hnone.symm.trans hproperty
  · exact absurd (hasLead_append "systems." found.physical rest) (not_hasLead_systems hkey)

end Catalog

/-- A property that a configuration has for a stream of a system that may be read reaches the stream
exactly if neither the name of the system nor that of the stream has a dot. -/
theorem lookup_property_iff {config : Config} {catalog : Catalog} {system : System}
    {name stream key value : String} (hcatalog : Catalog.ofConfig config = .ok catalog)
    (hsystem : catalog.systems.get? name = some system) (hinput : system.roles.allows .input = true)
    (hstream : StreamName stream)
    (hkey : config.get? (Config.systemLead ++ name ++ ".stream." ++ stream ++ "." ++ key) =
      some value) :
    (∃ resolved, catalog.resolver.input (name ++ "." ++ stream) = .ok resolved ∧
        resolved.config.get? ("streams." ++ stream ++ "." ++ key) = some value) ↔
      '.' ∉ name.toList ∧ '.' ∉ stream.toList := by
  constructor
  · rintro ⟨resolved, hlookup, hvalue⟩
    have hdot := Catalog.not_mem_of_get?_streams hcatalog hlookup
      (Catalog.hasLead_append "streams." stream key) hvalue
    obtain ⟨found, tail, hfind, -, rfl⟩ := Catalog.lookup_eq_ok_iff.1 hlookup
    obtain ⟨parsed, hparsed, rfl, -, -⟩ := Catalog.find?_eq_some_iff.1 hfind
    exact TableName.not_mem_of_parse_append hparsed hdot
  · intro hdots
    have hname := Config.trim_of_mem_list ((Catalog.get?_of_ofConfig hcatalog).1 hsystem).1
    have hfind := Catalog.find?_append hsystem hname hstream hdots
    have hproperty : (system.properties stream).get? key = some value := by
      rw [Catalog.get?_properties_of_ofConfig hcatalog hsystem, if_neg hdots.2, hkey]
    exact ⟨_, Catalog.lookup_eq_ok_iff.2 ⟨system, stream, hfind, hinput, rfl⟩,
      Catalog.get?_streamConfig_eq_some_iff.2 (.inl ⟨key, rfl, hproperty⟩)⟩

/-- One system with a property for a stream without dots and one for a stream with a dot. -/
def offsets : Config := SortedMap.ofList [
  ("relflow.sql.io.systems", "kafka"),
  ("relflow.sql.io.system.kafka.stream.views.offset", "newest"),
  ("relflow.sql.io.system.kafka.stream.prod.views.offset", "oldest")]

/-- The system as it is registered: both properties are cut at the first dot. -/
def offsetSystem : System :=
  System.addStreamKey
    (System.addStreamKey ⟨"kafka", "kafka", .both, .stream, .empty, .empty⟩
      "prod" "views.offset" "oldest")
    "views" "offset" "newest"

theorem ofConfig_offsets : Catalog.ofConfig offsets = .ok (Catalog.empty.register offsetSystem) :=
  toOption_eq_some_iff.1 (by decide +kernel)

/-- A property of a stream with a dot is lost without an error. -/
theorem lookup_of_lost_property :
    ∃ catalog system resolved, Catalog.ofConfig offsets = .ok catalog ∧
      "kafka" ∈ offsets.list Config.systemsKey ∧ catalog.systems.get? "kafka" = some system ∧
      system.roles.allows .input = true ∧ StreamName "prod.views" ∧
      offsets.get? (Config.systemLead ++ "kafka" ++ ".stream." ++ "prod.views" ++ "." ++ "offset") =
        some "oldest" ∧
      catalog.resolver.input ("kafka" ++ "." ++ "prod.views") = .ok resolved ∧
      resolved.config.get? ("streams." ++ "prod.views" ++ "." ++ "offset") = none := by
  refine ⟨_, offsetSystem, ⟨"kafka.prod.views", "kafka", "prod.views", false, .empty⟩,
    ofConfig_offsets, ?_, rfl, rfl, ?_, ?_, toOption_eq_some_iff.1 ?_, rfl⟩
  · decide +kernel
  · decide +kernel
  · decide +kernel
  · decide +kernel

theorem lookup_property_iff_offsets :
    ∃ resolved, (Catalog.empty.register offsetSystem).resolver.input ("kafka" ++ "." ++ "views") =
        .ok resolved ∧
      resolved.config.get? ("streams." ++ "views" ++ "." ++ "offset") = some "newest" := by
  have hstream : StreamName "views" := by decide +kernel
  have hkey : offsets.get? (Config.systemLead ++ "kafka" ++ ".stream." ++ "views" ++ "." ++ "offset") =
      some "newest" := by
    decide +kernel
  exact (lookup_property_iff ofConfig_offsets rfl rfl hstream hkey).2 (by decide +kernel)

end StreamPlan
