import StreamPlan.Proofs.Stream.Registered

/-!
# Which registrations are accepted

The systems that a configuration lists are read in order, each from its own keys, and reading stops at the
first fault. This file says when there is a fault, and which one it is, by the keys of the whole
configuration.

- `Registrable`: the three rules for the keys of a system;
- `FirstFault`: the fault of a system that breaks a rule; roles come before the kind, and the kind before
  the keys of streams, of which the least counts;
- `ofKeys_eq_error_iff`: a system is refused with its first fault;
- `registerListed_eq_error_iff`: a list is refused with the fault of its first system that has one;
- `ofConfig_accepts_iff`: the same for a configuration, with the names that are registered and the keys
  that matter.
-/

namespace StreamPlan

/-! ## The rules -/

namespace Catalog

/-- The key of a setting of a system. -/
def systemKey (name rest : String) : String := Config.systemLead ++ name ++ "." ++ rest

/-- One of the two roles. -/
def IsRole (text : String) : Prop := text = "input" ∨ text = "output"

instance : DecidablePred IsRole := fun text => inferInstanceAs (Decidable (text = _ ∨ text = _))

/-- The roles that are listed for a system. -/
def listedRoles (config : Config) (name : String) : List String := config.list (systemKey name "roles")

/-- If there is a key for the roles, it lists one at least, and none but the two. -/
def RolesFit (config : Config) (name : String) : Prop :=
  config.contains (systemKey name "roles") = true →
    listedRoles config name ≠ [] ∧ ∀ role ∈ listedRoles config name, IsRole role

/-- If there is a key for the kind, it is one of the two. -/
def KindFits (config : Config) (name : String) : Prop :=
  ∀ kind, config.get? (systemKey name "kind") = some kind →
    Text.trim kind = "stream" ∨ Text.trim kind = "table"

/-- A key for a stream that has something after `stream.`, but no property. -/
def Orphan (config : Config) (name rest : String) : Prop :=
  rest ≠ "" ∧ config.contains (systemKey name ("stream." ++ rest)) = true ∧ '.' ∉ rest.toList

/-- The keys of a system keep the rules. -/
structure Registrable (config : Config) (name : String) : Prop where
  /-- The roles are right. -/
  roles : RolesFit config name
  /-- The kind is right. -/
  kind : KindFits config name
  /-- Every key for a stream has a property. -/
  streams : ∀ rest, ¬Orphan config name rest

/-- The fault of a system that does not keep the rules. -/
inductive FirstFault (config : Config) (name : String) : ConfigFault → Prop
  /-- The first role of the list that is none. -/
  | unknownRole {role : String}
      (hrole : (listedRoles config name).find? (fun text => ¬IsRole text) = some role) :
      FirstFault config name (.unknownRole name role)
  /-- There is a key for the roles, but no role in it. -/
  | noRoles (hkey : config.contains (systemKey name "roles") = true)
      (hroles : listedRoles config name = []) :
      FirstFault config name (.noRoles name)
  /-- The roles are right, but the kind is none. -/
  | unknownKind {kind : String} (hroles : RolesFit config name)
      (hkind : config.get? (systemKey name "kind") = some kind)
      (hunknown : Text.trim kind ≠ "stream" ∧ Text.trim kind ≠ "table") :
      FirstFault config name (.unknownKind name (Text.trim kind))
  /-- Roles and kind are right, and this is the least key for a stream without a property. -/
  | noProperty {rest : String} (hroles : RolesFit config name) (hkind : KindFits config name)
      (hrest : Orphan config name rest) (hleast : ∀ other, Orphan config name other → rest ≤ other) :
      FirstFault config name (.noProperty name rest)

/-! ## Keys of a system -/

variable {config : Config} {name : String}

theorem get?_systemKeys {rest : String} (h : rest ≠ "") :
    (systemKeys config name).get? rest = config.get? (systemKey name rest) := by
  rw [systemKeys, Config.get?_subset, if_neg h, systemKey]

theorem list_systemKeys_roles : (systemKeys config name).list "roles" = listedRoles config name := by
  rw [listedRoles, Config.list, Config.list, get?_systemKeys (by decide)]

theorem contains_systemKeys_roles :
    (systemKeys config name).contains "roles" = config.contains (systemKey name "roles") := by
  rw [SortedMap.contains, SortedMap.contains, get?_systemKeys (by decide)]

theorem contains_of_mem_listedRoles {role : String} (h : role ∈ listedRoles config name) :
    config.contains (systemKey name "roles") = true := by
  rw [listedRoles, Config.list] at h
  split at h
  · cases h
  · rename_i value hvalue
    exact SortedMap.contains_iff.2 ⟨value, hvalue⟩

/-- The keys for the streams of a system, in their order and without what they start with. -/
def streamKeys (config : Config) (name : String) : List (String × String) :=
  ((systemKeys config name).subset "stream.").entries

theorem mem_streamKeys_iff {rest value : String} :
    (rest, value) ∈ streamKeys config name ↔
      rest ≠ "" ∧ config.get? (systemKey name ("stream." ++ rest)) = some value := by
  have hkey : "stream." ++ rest ≠ "" := by
    intro hempty
    simpa using congrArg String.toList hempty
  rw [streamKeys, Config.mem_entries_subset_iff, get?_systemKeys hkey]

/-- Whether a key for a stream lacks a property. -/
def lacksProperty (entry : String × String) : Bool := '.' ∉ entry.1.toList

theorem orphan_iff {rest : String} :
    Orphan config name rest ↔
      ∃ value, (rest, value) ∈ streamKeys config name ∧ lacksProperty (rest, value) = true := by
  simp only [Orphan, mem_streamKeys_iff, SortedMap.contains_iff, lacksProperty, decide_eq_true_eq]
  constructor
  · rintro ⟨hrest, ⟨value, hvalue⟩, hdot⟩
    exact ⟨value, ⟨hrest, hvalue⟩, hdot⟩
  · rintro ⟨value, ⟨hrest, hvalue⟩, hdot⟩
    exact ⟨hrest, ⟨value, hvalue⟩, hdot⟩

/-- The keys for streams are met in their order, so that the first one without a property is the least. -/
theorem exists_find?_lacksProperty_iff {rest : String} :
    (∃ value, (streamKeys config name).find? lacksProperty = some (rest, value)) ↔
      Orphan config name rest ∧ ∀ other, Orphan config name other → rest ≤ other := by
  have hsorted : Entries.Sorted (streamKeys config name) := SortedMap.sorted _
  -- The first in a sorted list is the least, and an orphan is an entry without a property.
  simp only [hsorted.find?_eq_some_iff, orphan_iff]
  constructor
  · rintro ⟨value, hmem, hlacks, hleast⟩
    refine ⟨⟨value, hmem, hlacks⟩, ?_⟩
    rintro other ⟨value', hmem', hlacks'⟩
    exact hleast (other, value') hmem' hlacks'
  · rintro ⟨⟨value, hmem, hlacks⟩, hleast⟩
    refine ⟨value, hmem, hlacks, ?_⟩
    rintro ⟨other, value'⟩ hmem' hlacks'
    exact hleast other ⟨value', hmem', hlacks'⟩

end Catalog

/-! ## Reading a system -/

namespace System

open Catalog (IsRole RolesFit KindFits Registrable FirstFault systemKey systemKeys listedRoles streamKeys
  lacksProperty)

variable {config : Config} {name : String} {listed : List String} {roles : AllowedRoles}

theorem readRoleList_eq_error {role : String}
    (h : listed.find? (fun text => ¬IsRole text) = some role) :
    readRoleList name roles listed = .error (.unknownRole name role) := by
  fun_induction readRoleList name roles listed with
  | case1 => cases h
  | case2 roles listed ih =>
    rw [List.find?_cons_of_neg (by decide)] at h
    exact ih h
  | case3 roles listed ih =>
    rw [List.find?_cons_of_neg (by decide)] at h
    exact ih h
  | case4 roles other listed hinput houtput =>
    -- Neither of the first two patterns has matched, and there are no other roles.
    have hother : ¬IsRole other := by
      rintro (rfl | rfl)
      · exact hinput rfl
      · exact houtput rfl
    rw [List.find?_cons_of_pos (by simpa using hother)] at h
    rw [Option.some.inj h]

theorem allow_ne_neither (roles : AllowedRoles) (role : Role) : roles.allow role ≠ .neither := by
  intro h
  cases role with
  | input => cases congrArg AllowedRoles.input h
  | output => cases congrArg AllowedRoles.output h

/-- Roles that are known are all read, and something is allowed after that unless there were none. -/
theorem exists_readRoleList (name : String) (roles : AllowedRoles)
    (h : ∀ text ∈ listed, IsRole text) :
    ∃ allowed, readRoleList name roles listed = .ok allowed ∧
      (allowed = .neither → roles = .neither ∧ listed = []) := by
  induction listed generalizing roles with
  | nil => exact ⟨roles, rfl, fun hroles => ⟨hroles, rfl⟩⟩
  | cons text listed ih =>
    have hrest : ∀ later ∈ listed, IsRole later :=
      fun later hlater => h later (List.mem_cons_of_mem _ hlater)
    -- Whichever role it is, something is allowed from here on.
    obtain rfl | rfl := h text List.mem_cons_self
    · obtain ⟨allowed, hallowed, hneither⟩ := ih (roles.allow .input) hrest
      exact ⟨allowed, hallowed, fun hempty => absurd (hneither hempty).1 (allow_ne_neither _ _)⟩
    · obtain ⟨allowed, hallowed, hneither⟩ := ih (roles.allow .output) hrest
      exact ⟨allowed, hallowed, fun hempty => absurd (hneither hempty).1 (allow_ne_neither _ _)⟩

theorem readRoles_of_contains (hkey : config.contains (systemKey name "roles") = true) :
    readRoles name (systemKeys config name) =
      readRoleList name .neither (listedRoles config name) >>= fun roles =>
        if roles = .neither then .error (.noRoles name) else .ok roles := by
  rw [readRoles, Catalog.contains_systemKeys_roles, Catalog.list_systemKeys_roles, if_pos hkey]

theorem exists_readRoles (h : RolesFit config name) :
    ∃ roles, readRoles name (systemKeys config name) = .ok roles := by
  by_cases hkey : config.contains (systemKey name "roles") = true
  · obtain ⟨hne, hknown⟩ := h hkey
    obtain ⟨allowed, hallowed, hneither⟩ := exists_readRoleList name .neither hknown
    refine ⟨allowed, ?_⟩
    rw [readRoles_of_contains hkey, hallowed, ok_bind, if_neg fun hempty => hne (hneither hempty).2]
  · refine ⟨.both, ?_⟩
    rw [readRoles, Catalog.contains_systemKeys_roles, if_neg hkey]

theorem readRoles_eq_unknownRole {role : String}
    (h : (listedRoles config name).find? (fun text => ¬IsRole text) = some role) :
    readRoles name (systemKeys config name) = .error (.unknownRole name role) := by
  have hkey := Catalog.contains_of_mem_listedRoles (List.mem_of_find?_eq_some h)
  rw [readRoles_of_contains hkey, readRoleList_eq_error h, error_bind]

theorem readRoles_eq_noRoles (hkey : config.contains (systemKey name "roles") = true)
    (hroles : listedRoles config name = []) :
    readRoles name (systemKeys config name) = .error (.noRoles name) := by
  rw [readRoles_of_contains hkey, hroles]
  rfl

theorem exists_readKind (h : KindFits config name) :
    ∃ kind, readKind name (systemKeys config name) = .ok kind := by
  rw [readKind, Catalog.get?_systemKeys (by decide)]
  cases hkind : config.get? (systemKey name "kind") with
  | none => exact ⟨.stream, rfl⟩
  | some kind =>
    obtain htrim | htrim := h kind hkind
    · rw [Option.map_some, htrim]
      exact ⟨.stream, rfl⟩
    · rw [Option.map_some, htrim]
      exact ⟨.table, rfl⟩

theorem readKind_eq_error {kind : String} (hkind : config.get? (systemKey name "kind") = some kind)
    (hunknown : Text.trim kind ≠ "stream" ∧ Text.trim kind ≠ "table") :
    readKind name (systemKeys config name) = .error (.unknownKind name (Text.trim kind)) := by
  rw [readKind, Catalog.get?_systemKeys (by decide), hkind, Option.map_some]
  -- The last pattern is the one that is left.
  split
  · rename_i hnone
    cases hnone
  · rename_i hstream
    exact absurd (Option.some.inj hstream) hunknown.1
  · rename_i htable
    exact absurd (Option.some.inj htable) hunknown.2
  · rename_i hother
    rw [Option.some.inj hother]

theorem lacksProperty_iff {rest value : String} :
    lacksProperty (rest, value) = true ↔ Text.cut '.' rest = none := by
  rw [lacksProperty, decide_eq_true_eq, Text.cut_eq_none_iff]

theorem exists_readStreamKeys {entries : List (String × String)} (system : System)
    (h : entries.find? lacksProperty = none) : ∃ read, system.readStreamKeys entries = .ok read := by
  induction entries generalizing system with
  | nil => exact ⟨system, rfl⟩
  | cons entry entries ih =>
    obtain ⟨rest, value⟩ := entry
    rw [List.find?_eq_none, List.forall_mem_cons, lacksProperty_iff] at h
    -- A key with a property is cut, and reading goes on with one property more.
    obtain ⟨⟨stream, key⟩, hcut⟩ := Option.ne_none_iff_exists'.1 h.1
    rw [readStreamKeys, hcut]
    exact ih _ (List.find?_eq_none.2 h.2)

theorem readStreamKeys_eq_error {entries : List (String × String)} {rest value : String}
    (system : System) (h : entries.find? lacksProperty = some (rest, value)) :
    system.readStreamKeys entries = .error (.noProperty system.name rest) := by
  induction entries generalizing system with
  | nil => cases h
  | cons entry entries ih =>
    obtain ⟨first, text⟩ := entry
    cases hcut : Text.cut '.' first with
    | none =>
      rw [List.find?_cons_of_pos (lacksProperty_iff.2 hcut)] at h
      obtain ⟨rfl, rfl⟩ := Prod.mk.inj (Option.some.inj h)
      rw [readStreamKeys, hcut]
    | some parts =>
      have hproperty : ¬lacksProperty (first, text) = true := by
        rw [lacksProperty_iff, hcut]
        exact Option.some_ne_none parts
      rw [List.find?_cons_of_neg hproperty] at h
      rw [readStreamKeys, hcut]
      -- Adding a property does not change the name that the fault will have.
      exact ih (system.addStreamKey parts.1 parts.2 text) h

/-- A system whose keys keep the rules is registered. -/
theorem exists_ofKeys (h : Registrable config name) :
    ∃ system, ofKeys name (systemKeys config name) = .ok system := by
  obtain ⟨roles, hroles⟩ := exists_readRoles h.roles
  obtain ⟨kind, hkind⟩ := exists_readKind h.kind
  have hnone : (streamKeys config name).find? lacksProperty = none := by
    rw [Option.eq_none_iff_forall_ne_some]
    rintro ⟨rest, value⟩ hsome
    exact h.streams rest (Catalog.exists_find?_lacksProperty_iff.1 ⟨value, hsome⟩).1
  rw [ofKeys, hroles, ok_bind, hkind, ok_bind]
  exact exists_readStreamKeys _ hnone

/-- A system that breaks a rule is refused with its first fault. -/
theorem ofKeys_eq_error {fault : ConfigFault} (h : FirstFault config name fault) :
    ofKeys name (systemKeys config name) = .error fault := by
  cases h with
  | unknownRole hrole => rw [ofKeys, readRoles_eq_unknownRole hrole, error_bind]
  | noRoles hkey hroles => rw [ofKeys, readRoles_eq_noRoles hkey hroles, error_bind]
  | unknownKind hroles hkind hunknown =>
    -- The checks before the one that fails have passed, so that it is reached.
    obtain ⟨roles, hroles⟩ := exists_readRoles hroles
    rw [ofKeys, hroles, ok_bind, readKind_eq_error hkind hunknown, error_bind]
  | noProperty hroles hkind hrest hleast =>
    obtain ⟨roles, hroles⟩ := exists_readRoles hroles
    obtain ⟨kind, hkind⟩ := exists_readKind hkind
    obtain ⟨value, hfind⟩ := Catalog.exists_find?_lacksProperty_iff.2 ⟨hrest, hleast⟩
    rw [ofKeys, hroles, ok_bind, hkind, ok_bind]
    exact readStreamKeys_eq_error _ hfind

end System

/-! ## Reading the listed systems -/

namespace Catalog

variable {config : Config} {catalog : Catalog} {name : String} {names : List String}
  {fault : ConfigFault}

/-- A system that breaks a rule has a first fault. -/
theorem registrable_or_exists_firstFault (config : Config) (name : String) :
    Registrable config name ∨ ∃ fault, FirstFault config name fault := by
  -- The rules are tried in the order in which the keys are read.
  by_cases hroles : RolesFit config name
  · by_cases hkind : KindFits config name
    · cases hfind : (streamKeys config name).find? lacksProperty with
      | none =>
        refine .inl ⟨hroles, hkind, fun rest horphan => ?_⟩
        obtain ⟨value, hmem, hlacks⟩ := orphan_iff.1 horphan
        exact List.find?_eq_none.1 hfind _ hmem hlacks
      | some entry =>
        obtain ⟨rest, value⟩ := entry
        obtain ⟨hrest, hleast⟩ := exists_find?_lacksProperty_iff.1 ⟨value, hfind⟩
        exact .inr ⟨_, .noProperty hroles hkind hrest hleast⟩
    · simp only [KindFits, not_forall, not_or] at hkind
      obtain ⟨kind, hget, hunknown⟩ := hkind
      exact .inr ⟨_, .unknownKind hroles hget hunknown⟩
  · obtain ⟨hkey, hbad⟩ := Classical.not_imp.1 hroles
    by_cases hempty : listedRoles config name = []
    · exact .inr ⟨_, .noRoles hkey hempty⟩
    · cases hfind : (listedRoles config name).find? (fun text => ¬IsRole text) with
      | none =>
        refine absurd ⟨hempty, fun role hrole => ?_⟩ hbad
        simpa using List.find?_eq_none.1 hfind role hrole
      | some role => exact .inr ⟨_, .unknownRole hfind⟩

theorem exists_ofKeys_iff :
    (∃ system, System.ofKeys name (systemKeys config name) = .ok system) ↔
      Registrable config name := by
  refine ⟨?_, System.exists_ofKeys⟩
  rintro ⟨system, hsystem⟩
  obtain h | ⟨fault, hfault⟩ := registrable_or_exists_firstFault config name
  · exact h
  · cases (System.ofKeys_eq_error hfault).symm.trans hsystem

theorem ofKeys_eq_error_iff :
    System.ofKeys name (systemKeys config name) = .error fault ↔ FirstFault config name fault := by
  refine ⟨fun h => ?_, System.ofKeys_eq_error⟩
  obtain hregistrable | ⟨first, hfirst⟩ := registrable_or_exists_firstFault config name
  · obtain ⟨system, hsystem⟩ := System.exists_ofKeys hregistrable
    cases hsystem.symm.trans h
  · obtain rfl := Except.error.inj ((System.ofKeys_eq_error hfirst).symm.trans h)
    exact hfirst

theorem FirstFault.not_registrable (h : FirstFault config name fault) :
    ¬Registrable config name := by
  intro hregistrable
  obtain ⟨system, hsystem⟩ := System.exists_ofKeys hregistrable
  cases hsystem.symm.trans (System.ofKeys_eq_error h)

/-- All systems of a list are registered if each of them keeps the rules. -/
theorem exists_registerListed_iff :
    (∃ registered, registerListed config catalog names = .ok registered) ↔
      ∀ name ∈ names, Registrable config name := by
  induction names generalizing catalog with
  | nil => simp [registerListed]
  | cons name names ih =>
    rw [registerListed, List.forall_mem_cons, ← exists_ofKeys_iff]
    cases System.ofKeys name (systemKeys config name) with
    | error fault => simp
    | ok system => simp [ih]

/-- A list is refused with the first fault of the first system that breaks a rule. -/
theorem registerListed_eq_error_iff :
    registerListed config catalog names = .error fault ↔
      ∃ before name after, names = before ++ name :: after ∧
        (∀ earlier ∈ before, Registrable config earlier) ∧ FirstFault config name fault := by
  induction names generalizing catalog with
  | nil => simp [registerListed]
  | cons first names ih =>
    rw [registerListed]
    cases hfirst : System.ofKeys first (systemKeys config first) with
    | error fault' =>
      have hfault := ofKeys_eq_error_iff.1 hfirst
      dsimp only
      constructor
      · rintro ⟨⟩
        exact ⟨[], first, names, rfl, by simp, hfault⟩
      · rintro ⟨before, name, after, hnames, hbefore, hname⟩
        cases before with
        | nil =>
          obtain ⟨rfl, rfl⟩ := List.cons.inj hnames
          have hsame := hfirst.symm.trans (ofKeys_eq_error_iff.2 hname)
          rw [Except.error.inj hsame]
        | cons earlier before =>
          -- The first system keeps the rules by what is said of those before, and has a fault.
          obtain ⟨rfl, -⟩ := List.cons.inj hnames
          exact absurd (hbefore first List.mem_cons_self) hfault.not_registrable
    | ok system =>
      have hregistrable := exists_ofKeys_iff.1 ⟨system, hfirst⟩
      dsimp only
      rw [ih]
      constructor
      · rintro ⟨before, name, after, rfl, hbefore, hname⟩
        have hall := List.forall_mem_cons.2 ⟨hregistrable, hbefore⟩
        exact ⟨first :: before, name, after, rfl, hall, hname⟩
      · rintro ⟨before, name, after, hnames, hbefore, hname⟩
        cases before with
        | nil =>
          obtain ⟨rfl, -⟩ := List.cons.inj hnames
          exact absurd hregistrable hname.not_registrable
        | cons earlier before =>
          obtain ⟨rfl, rfl⟩ := List.cons.inj hnames
          exact ⟨before, name, after, rfl, (List.forall_mem_cons.1 hbefore).2, hname⟩

/-- The text of a fault names the system that it is about. -/
theorem FirstFault.hasLead_message (h : FirstFault config name fault) :
    Text.hasLead ("system '" ++ name ++ "': ") fault.message = true := by
  rw [Text.hasLead_iff]
  -- The lead ends within a literal of the text, which is cut in two for that.
  cases h with
  | @unknownRole role =>
    refine ⟨"unknown role '" ++ role ++ "'", ?_⟩
    change "system '" ++ name ++ ("': " ++ "unknown role '") ++ role ++ "'" = _
    simp only [String.append_assoc]
  | noRoles =>
    refine ⟨"no roles listed", ?_⟩
    change "system '" ++ name ++ ("': " ++ "no roles listed") = _
    simp only [String.append_assoc]
  | @unknownKind kind =>
    refine ⟨"unknown kind '" ++ Text.trim kind ++ "'", ?_⟩
    change "system '" ++ name ++ ("': " ++ "unknown kind '") ++ Text.trim kind ++ "'" = _
    simp only [String.append_assoc]
  | @noProperty rest =>
    refine ⟨"stream key 'stream." ++ rest ++ "' lacks a property name", ?_⟩
    change "system '" ++ name ++ ("': " ++ "stream key 'stream.") ++ rest ++ "' lacks a property name" = _
    simp only [String.append_assoc]

/-- The registered systems are the listed ones, each under its own name. -/
theorem mem_keys_of_ofConfig (h : ofConfig config = .ok catalog) :
    name ∈ catalog.systems.keys ↔ name ∈ config.list Config.systemsKey := by
  have hall := exists_registerListed_iff.1 ⟨catalog, h⟩
  rw [SortedMap.mem_keys_iff_contains, SortedMap.contains_iff]
  simp only [get?_of_ofConfig h]
  constructor
  · rintro ⟨system, hlisted, -⟩
    exact hlisted
  · intro hlisted
    obtain ⟨system, hsystem⟩ := exists_ofKeys_iff.2 (hall name hlisted)
    exact ⟨system, hlisted, hsystem⟩

theorem names_of_ofConfig (h : ofConfig config = .ok catalog) :
    catalog.systems.values.map System.name = catalog.systems.keys := by
  have hname : ∀ name system, catalog.systems.get? name = some system → id name = system.name := by
    intro name system hsystem
    exact (System.name_of_ofKeys ((get?_of_ofConfig h).1 hsystem).2).symm
  rw [← SortedMap.map_keys_eq_map_values hname, List.map_id]

/-- What a configuration says about systems:

- it is accepted exactly if every listed system keeps the rules for roles, kind and keys of streams;
- otherwise the fault is the first one of the first listed system that breaks a rule, and names it;
- the registered systems are the listed ones, each under its own name;
- nothing counts but the list and the keys of the listed systems, whatever is said of others. -/
theorem ofConfig_accepts_iff (config : Config) :
    ((∃ catalog, ofConfig config = .ok catalog) ↔
      ∀ name ∈ config.list Config.systemsKey, Registrable config name) ∧
    (∀ fault, ofConfig config = .error fault ↔
      ∃ before name after, config.list Config.systemsKey = before ++ name :: after ∧
        (∀ earlier ∈ before, Registrable config earlier) ∧ FirstFault config name fault ∧
        Text.hasLead ("system '" ++ name ++ "': ") fault.message = true) ∧
    (∀ catalog, ofConfig config = .ok catalog →
      catalog.systems.values.map System.name = catalog.systems.keys ∧
        ∀ name, name ∈ catalog.systems.keys ↔ name ∈ config.list Config.systemsKey) ∧
    ∀ other : Config, other.get? Config.systemsKey = config.get? Config.systemsKey →
      (∀ name ∈ config.list Config.systemsKey, ∀ rest,
        other.get? (systemKey name rest) = config.get? (systemKey name rest)) →
      ofConfig other = ofConfig config := by
  refine ⟨exists_registerListed_iff, ?_, ?_, ?_⟩
  · intro fault
    rw [ofConfig, registerListed_eq_error_iff]
    constructor
    · rintro ⟨before, name, after, hnames, hbefore, hname⟩
      exact ⟨before, name, after, hnames, hbefore, hname, hname.hasLead_message⟩
    · rintro ⟨before, name, after, hnames, hbefore, hname, -⟩
      exact ⟨before, name, after, hnames, hbefore, hname⟩
  · intro catalog h
    exact ⟨names_of_ofConfig h, fun name => mem_keys_of_ofConfig h⟩
  · intro other hlist hkeys
    exact (ofConfig_congr hlist.symm fun name hname rest => (hkeys name hname rest).symm).symm

/-- Two systems, the name of one at the start of the other, and keys of a third that is not listed. -/
def depots (roles : String) : Config := SortedMap.ofList [
  ("relflow.sql.io.systems", "depot, ,depot.eu"),
  ("relflow.sql.io.system.depot.stream.eu.offset", "oldest"),
  ("relflow.sql.io.system.depot.eu.roles", roles),
  ("relflow.sql.io.system.depot.eu.kind", " table "),
  ("relflow.sql.io.system.north.kind", "queue")]

theorem list_depots (roles : String) :
    (depots roles).list Config.systemsKey = ["depot", "depot.eu"] := by
  have hget : (depots roles).get? Config.systemsKey = some "depot, ,depot.eu" := by
    rw [depots, SortedMap.get?_ofList]
    simp [Entries.get?, Config.systemsKey]
  rw [Config.list, hget]
  decide +kernel

/-- A role that is none is reported for the second system. Without it both systems are registered, and it
does not matter what else is wrong with the third. -/
theorem ofConfig_accepts_iff_depots :
    ofConfig (depots "input,read,write") = .error (.unknownRole "depot.eu" "read") ∧
    ∃ catalog, ofConfig (depots " output,") = .ok catalog ∧ Registrable (depots " output,") "depot.eu" ∧
      "depot.eu" ∈ catalog.systems.keys ∧ "north" ∉ catalog.systems.keys ∧
      ofConfig ((depots " output,").insert "relflow.sql.io.system.north.roles" "") = .ok catalog := by
  constructor
  · have hrun :
        (System.ofKeys "depot" (systemKeys (depots "input,read,write") "depot")).toOption.isSome := by
      decide +kernel
    obtain ⟨system, hsystem⟩ := Option.isSome_iff_exists.1 hrun
    have hdepot := exists_ofKeys_iff.1 ⟨system, toOption_eq_some_iff.1 hsystem⟩
    have hroles : listedRoles (depots "input,read,write") "depot.eu" = ["input", "read", "write"] := by
      rw [listedRoles, Config.list, depots, SortedMap.get?_ofList]
      decide +kernel
    have hfault : FirstFault (depots "input,read,write") "depot.eu" (.unknownRole "depot.eu" "read") :=
      .unknownRole (by rw [hroles]; decide)
    refine ((ofConfig_accepts_iff _).2.1 _).2
      ⟨["depot"], "depot.eu", [], list_depots _, ?_, hfault, hfault.hasLead_message⟩
    simpa using hdepot
  · have hrun : (ofConfig (depots " output,")).toOption.isSome := by decide +kernel
    obtain ⟨catalog, hcatalog⟩ := Option.isSome_iff_exists.1 hrun
    rw [toOption_eq_some_iff] at hcatalog
    obtain ⟨hrules, -, hnames, hsame⟩ := ofConfig_accepts_iff (depots " output,")
    rw [list_depots] at hrules hnames hsame
    refine ⟨catalog, hcatalog, hrules.1 ⟨catalog, hcatalog⟩ _ (by simp), ?_, ?_, ?_⟩
    · rw [(hnames catalog hcatalog).2]
      decide
    · rw [(hnames catalog hcatalog).2]
      decide
    · refine (hsame _ ?_ ?_).trans hcatalog
      · rw [SortedMap.get?_insert, if_neg (by decide)]
      · intro name hname rest
        rw [SortedMap.get?_insert, if_neg]
        intro heq
        have hlead : Text.hasLead (Config.systemLead ++ name ++ ".") (systemKey name rest) = true :=
          Text.hasLead_iff.2 ⟨rest, rfl⟩
        -- The new key would have to go on with one of the two names.
        rw [heq] at hlead
        simp only [List.mem_cons, List.not_mem_nil, or_false] at hname
        obtain rfl | rfl := hname
        · exact absurd hlead (by decide)
        · exact absurd hlead (by decide)

end Catalog

end StreamPlan
