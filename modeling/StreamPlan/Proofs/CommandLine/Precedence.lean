import StreamPlan.CommandLine.Run
import StreamPlan.Proofs.Job.Recompile
import StreamPlan.Proofs.Text.Parts

/-!
# Which source of a setting wins

The configuration of a job that is compiled from the command line has five sources: settings given with
the command, files of plans, environment variables, a file, and the compilation itself. `supplied?` says
for each key which of them decides, and `compile_precedence` shows that every job of the compile command
holds exactly that.

Files of plans are the odd one out. They say something about two keys only, and what they say about the
key of a single statement is that nothing below them counts.
-/

namespace StreamPlan

namespace CommandLine

/-- A setting of a key as it is written on the command line. -/
def settingText (setting : String × String) : String := setting.1 ++ "=" ++ setting.2

/-- The value of the last setting of a key. Blanks around keys and values do not count. -/
def lastSetting? (settings : List (String × String)) (key : String) : Option String :=
  (settings.reverse.find? fun setting => Text.trim setting.1 = key).map fun setting =>
    Text.trim setting.2

/-- The value of the last environment variable for a key. -/
def lastVariable? (environment : List (String × String)) (key : String) : Option String :=
  (environment.reverse.find? fun entry => Config.environmentKey? entry.1 = some key).map Prod.snd

/-- What is supplied for a key: by the settings, else by the texts of plans, else by the environment, else
by the file, and else by a fallback. -/
def supplied? (settings : List (String × String)) (texts : List String)
    (environment : List (String × String)) (file : Config) (fallback : String → Option String)
    (key : String) : Option String :=
  (lastSetting? settings key).or <|
    -- With plans there is no single statement, whatever is said below.
    if texts ≠ [] ∧ key = Config.statementKey then none
    else if texts ≠ [] ∧ key = Config.statementsKey then some (Config.statementsText texts)
    else (lastVariable? environment key).or ((file.get? key).or (fallback key))

/-- The statements that a configuration describes a job by, the streams of the plan that is compiled, and
how the configuration resolves them. -/
structure Describes (config : Config) (statements : List String) (roles : StreamRoles)
    (resolution : Resolution) : Prop where
  /-- The statements stand in the configuration. -/
  stored : config.statements = .ok statements
  /-- Converter and resolver are those that the configuration asks for. -/
  resolved : ∃ compiler plan, Compiler.ofConfig config = .ok compiler ∧
    compiler.plan statements = .ok plan ∧ plan.roles = .ok roles ∧
    compiler.resolver.resolveRoles roles = .ok resolution

/-! ## The sources one by one -/

/-- A setting is read as its key and value without the blanks around them. -/
theorem readOverride_settingText {setting : String × String} (hkey : '=' ∉ setting.1.toList)
    (hne : Text.trim setting.1 ≠ "") :
    readOverride (settingText setting) = .ok (Text.trim setting.1, Text.trim setting.2) := by
  have hcut : Text.cut '=' (settingText setting) = some setting :=
    Text.cut_eq_some_iff.2 ⟨hkey, rfl⟩
  rw [readOverride, hcut]
  exact if_neg hne

theorem mapM_readOverride {settings : List (String × String)}
    (h : ∀ setting ∈ settings, '=' ∉ setting.1.toList ∧ Text.trim setting.1 ≠ "") :
    (settings.map settingText).mapM readOverride =
      .ok (settings.map fun setting => (Text.trim setting.1, Text.trim setting.2)) := by
  induction settings with
  | nil => rfl
  | cons setting settings ih =>
    obtain ⟨hkey, hne⟩ := h setting List.mem_cons_self
    rw [List.map_cons, List.mapM_cons, readOverride_settingText hkey hne, ok_bind,
      ih fun later hlater => h later (List.mem_cons_of_mem _ hlater), ok_bind]
    rfl

/-- Bindings that are made of a list are looked up in the first item that makes one for the key. -/
theorem get?_filterMap (key? : String → Option String) (value : String → String)
    (items : List (String × String)) (key : String) :
    Entries.get? key (items.filterMap fun item => (key? item.1).map fun k => (k, value item.2)) =
      (items.find? fun item => key? item.1 = some key).map fun item => value item.2 := by
  induction items with
  | nil => rfl
  | cons item items ih =>
    cases hkey : key? item.1 with
    | none => simp [hkey, ih]
    | some k =>
      by_cases hk : k = key
      · simp [hkey, hk, Entries.get?]
      · simp [hkey, hk, Entries.get?, ih]

theorem get?_insertAll_settings (config : Config) (settings : List (String × String)) (key : String) :
    (config.insertAll (settings.map fun setting =>
      (Text.trim setting.1, Text.trim setting.2))).get? key =
      (lastSetting? settings key).or (config.get? key) := by
  have hlast := get?_filterMap (fun k => some (Text.trim k)) Text.trim settings.reverse key
  simp only [Option.map_some, List.filterMap_eq_map', Option.some.injEq] at hlast
  rw [SortedMap.get?_insertAll, ← List.map_reverse, hlast, lastSetting?]

theorem get?_ofEnvironment (environment : List (String × String)) (key : String) :
    (Config.ofEnvironment environment).get? key = lastVariable? environment key := by
  rw [Config.ofEnvironment, SortedMap.get?_ofList, ← List.filterMap_reverse]
  exact get?_filterMap Config.environmentKey? id environment.reverse key

theorem get?_withStatements (config : Config) (texts : List String) (key : String) :
    (withStatements config texts).get? key =
      if key = Config.statementKey then none
      else if key = Config.statementsKey then some (Config.statementsText texts)
      else config.get? key := by
  have hne : Config.statementsKey ≠ Config.statementKey := by decide
  rw [withStatements, SortedMap.get?_insert, SortedMap.get?_erase, SortedMap.get?_erase]
  by_cases hsingle : key = Config.statementKey
  · rw [if_pos hsingle, if_neg (hsingle ▸ hne.symm), if_neg (hsingle ▸ hne.symm), if_pos hsingle]
  · rw [if_neg hsingle, if_neg hsingle]
    split <;> rfl

/-- What is read for a job before the settings: plans over the environment over the file. -/
theorem get?_loadConfig {surroundings : Surroundings} {path : Option String} {plans : List String}
    {config : Config} (h : loadConfig surroundings path plans = .ok config) :
    ∃ file texts, readConfig surroundings path = .ok file ∧
      plans.mapM surroundings.read = .ok texts ∧
      ∀ key, config.get? key =
        supplied? [] texts surroundings.environment file (fun _ => none) key := by
  obtain ⟨file, hfile, h⟩ := bind_eq_ok_iff.1 h
  have hbelow : ∀ key, (file.overlay (Config.ofEnvironment surroundings.environment)).get? key =
      (lastVariable? surroundings.environment key).or (file.get? key) := fun key => by
    rw [SortedMap.get?_overlay, get?_ofEnvironment]
  cases plans with
  | nil =>
    obtain rfl := Except.ok.inj h
    refine ⟨file, [], hfile, rfl, fun key => ?_⟩
    rw [hbelow, supplied?]
    simp [lastSetting?]
  | cons plan plans =>
    obtain ⟨texts, htexts, h⟩ := bind_eq_ok_iff.1 h
    obtain rfl := Except.ok.inj h
    refine ⟨file, texts, hfile, htexts, fun key => ?_⟩
    -- There is a text for each plan, and so at least one.
    have hne : texts ≠ [] := by
      rintro rfl
      rw [List.mapM_cons] at htexts
      obtain ⟨text, -, htexts⟩ := bind_eq_ok_iff.1 htexts
      obtain ⟨texts, -, htexts⟩ := bind_eq_ok_iff.1 htexts
      cases htexts
    rw [get?_withStatements, hbelow, supplied?]
    simp [lastSetting?, hne]

/-! ## The compile command -/

variable {surroundings : Surroundings} {path : Option String} {plans : List String} {mode : String}
  {settings : List (String × String)} {properties : Bool}

/-- A compile command that succeeds has compiled a job, and prints it. -/
theorem exists_job_of_exit {overrides : List String}
    (h : (run surroundings (.compile path plans mode overrides properties)).exit = 0) :
    ∃ job, compileJob surroundings path plans mode overrides = .ok job ∧
      (run surroundings (.compile path plans mode overrides properties)).output =
        if properties then job.config.properties else (jobReport job).pretty ++ "\n" := by
  rw [run] at h ⊢
  cases hjob : compileJob surroundings path plans mode overrides with
  | error failure =>
    rw [hjob] at h
    cases h
  | ok job =>
    refine ⟨job, rfl, ?_⟩
    cases properties <;> rfl

/-- A fallback counts where nothing else does. A single statement under plans is the exception: there
nothing may fall through. -/
theorem or_fallback {texts : List String} {environment : List (String × String)} {file : Config}
    {fallback : String → Option String} {key : String}
    (h : key = Config.statementKey → fallback key = none) :
    (supplied? settings texts environment file (fun _ => none) key).or (fallback key) =
      supplied? settings texts environment file fallback key := by
  rw [supplied?, supplied?, Option.or_assoc]
  congr 1
  split
  · rename_i hplans
    rw [h hplans.2]
    rfl
  · split
    · rfl
    · rw [Option.or_none, Option.or_assoc]

/-- If the compile command succeeds, it has compiled a job and prints it, and the value of every key in
the configuration of the job is decided by the first of these that says anything about the key: the
settings, of which the last one for a key counts; the texts of the plans, which take the place of all
statements; the environment, of which the last variable for a key counts; the file; and what the
compilation has for the statements that the others describe the job by. A key of which none of them says
anything is absent. -/
theorem compile_precedence
    (hsettings : ∀ setting ∈ settings, '=' ∉ setting.1.toList ∧ Text.trim setting.1 ≠ "")
    (hexit : (run surroundings
      (.compile path plans mode (settings.map settingText) properties)).exit = 0) :
    ∃ job file texts parsed described statements resolution,
      compileJob surroundings path plans mode (settings.map settingText) = .ok job ∧
      (run surroundings (.compile path plans mode (settings.map settingText) properties)).output =
        (if properties then job.config.properties else (jobReport job).pretty ++ "\n") ∧
      readConfig surroundings path = .ok file ∧ plans.mapM surroundings.read = .ok texts ∧
      Mode.parse mode = .ok parsed ∧
      (∀ key, described.get? key =
        supplied? settings texts surroundings.environment file (fun _ => none) key) ∧
      Describes described statements job.roles resolution ∧
      ∀ key, job.config.get? key = supplied? settings texts surroundings.environment file
        (Compiler.synthesized? resolution statements parsed) key := by
  obtain ⟨job, hcompiled, houtput⟩ := exists_job_of_exit hexit
  obtain ⟨parsed, hmode, hjob⟩ := bind_eq_ok_iff.1 hcompiled
  obtain ⟨loaded, hload, hjob⟩ := bind_eq_ok_iff.1 hjob
  obtain ⟨overrides, hoverrides, hjob⟩ := bind_eq_ok_iff.1 hjob
  rw [mapM_readOverride hsettings] at hoverrides
  obtain rfl := Except.ok.inj hoverrides
  obtain ⟨file, texts, hfile, htexts, hloaded⟩ := get?_loadConfig hload
  obtain ⟨statements, compiler, hstatements, hcompiler, hcompile⟩ :=
    Config.compile_eq_ok_iff.1 (mapError_eq_ok_iff.1 hjob)
  obtain ⟨plan, resolution, snapshot, hplan, hroles, hres, hsnap, -, -, hconfig⟩ :=
    Compiler.compile_eq_ok_iff.1 hcompile
  set described := loaded.insertAll (settings.map fun setting =>
    (Text.trim setting.1, Text.trim setting.2)) with hdef
  have hdescribed : ∀ key, described.get? key =
      supplied? settings texts surroundings.environment file (fun _ => none) key := by
    intro key
    rw [hdef, get?_insertAll_settings, hloaded]
    rfl
  refine ⟨job, file, texts, parsed, described, statements, resolution, hcompiled, houtput, hfile,
    htexts, mapError_eq_ok_iff.1 hmode, hdescribed,
    ⟨hstatements, compiler, plan, hcompiler, hplan, hroles, hres⟩, fun key => ?_⟩
  rw [← hconfig, SortedMap.get?_overlay, Compiler.get?_snapshot hsnap, hdescribed]
  refine or_fallback ?_
  -- Streams need keys of streams and systems only, so the compilation has no single statement.
  rintro rfl
  obtain ⟨-, -, catalog, -, hcatalog⟩ := Compiler.ofConfig_eq_ok_iff.1 hcompiler
  exact Catalog.lastClaim?_eq_none_of_hasLead (hcatalog ▸ hres) (by decide)

/-- A job with a file and a plan, in an environment that names a statement and gives the system `a` two
physical names. -/
def nightly : Surroundings where
  file path :=
    if path = "job.properties" then
      .ok "relflow.sql.io.systems=a\nrelflow.sql.stmt=[scan, a.old]\napp.name=file\n"
    else if path = "plan.yaml" then .ok "[scan, a.views]"
    else .error .missing
  environment := [("RELFLOW_SQL_STMT", "[scan, a.older]"),
    ("RELFLOW_SQL_IO_SYSTEM_A_PHYSICAL", "kafka"), ("RELFLOW_SQL_IO_SYSTEM_A_PHYSICAL", "rocks")]

theorem compile_precedence_nightly :
    let settings := [(" app.name", "first"), ("app.name ", " second = last ")]
    let command := Command.compile (some "job.properties") ["plan.yaml"] "local"
      (settings.map settingText) true
    ∃ job : Job, compileJob nightly (some "job.properties") ["plan.yaml"] "local"
        (settings.map settingText) = .ok job ∧
      (run nightly command).output = job.config.properties ∧
      job.config.get? "app.name" = some "second = last" ∧
      job.config.get? "relflow.sql.stmt" = none ∧
      job.config.get? "relflow.sql.stmts.json" = some "[\"[scan, a.views]\"]" ∧
      job.config.get? "relflow.sql.io.system.a.physical" = some "rocks" ∧
      job.config.get? "relflow.sql.io.systems" = some "a" ∧
      job.config.get? "app.runner.class" = some "local" := by
  intro settings command
  have hexit : (run nightly command).exit = 0 := by decide +kernel
  obtain ⟨job, file, texts, parsed, described, statements, resolution, hcompiled, houtput, hfile,
    htexts, hmode, -, -, hconfig⟩ := compile_precedence (by decide) hexit
  obtain rfl : texts = ["[scan, a.views]"] := (Except.ok.inj htexts).symm
  obtain rfl : parsed = .inProcess := (Except.ok.inj hmode).symm
  have hread : ∀ key value, ((readConfig nightly (some "job.properties")).toOption.bind
      (·.get? key)) = value → file.get? key = value := by
    intro key value hvalue
    rw [hfile] at hvalue
    exact hvalue
  have hunset : ∀ key, lastSetting? settings key = none →
      job.config.get? key = if key = Config.statementKey then none
        else if key = Config.statementsKey then some "[\"[scan, a.views]\"]"
        else (lastVariable? nightly.environment key).or
          ((file.get? key).or (Compiler.synthesized? resolution statements .inProcess key)) := by
    intro key hnone
    have htext : Config.statementsText ["[scan, a.views]"] = "[\"[scan, a.views]\"]" := by
      decide +kernel
    rw [hconfig, supplied?, hnone, htext]
    simp
  refine ⟨job, hcompiled, houtput, ?_, ?_, ?_, ?_, ?_, ?_⟩
  · have hset : lastSetting? settings "app.name" = some "second = last" := by decide +kernel
    rw [hconfig, supplied?, hset]
    rfl
  · rw [hunset _ (by decide +kernel), if_pos (by decide)]
  · rw [hunset _ (by decide +kernel), if_neg (by decide), if_pos (by decide)]
  · have hvariable : lastVariable? nightly.environment "relflow.sql.io.system.a.physical" =
        some "rocks" := by decide +kernel
    rw [hunset _ (by decide +kernel), if_neg (by decide), if_neg (by decide), hvariable]
    rfl
  · have hvariable : lastVariable? nightly.environment "relflow.sql.io.systems" = none := by
      decide +kernel
    rw [hunset _ (by decide +kernel), if_neg (by decide), if_neg (by decide), hvariable,
      hread _ (some "a") (by decide +kernel)]
    rfl
  · have hvariable : lastVariable? nightly.environment "app.runner.class" = none := by decide +kernel
    rw [hunset _ (by decide +kernel), if_neg (by decide), if_neg (by decide), hvariable,
      hread _ none (by decide +kernel), Compiler.synthesized?, if_pos (by decide)]
    rfl

end CommandLine

end StreamPlan
