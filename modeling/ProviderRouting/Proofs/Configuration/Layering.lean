import ProviderRouting.Daemon.Commands
import ProviderRouting.Files.Disk

/-!
# Layers of settings

A layer gives values to some of the fields of settings.  Settings are the outcome of four layers:
every field has the value that the highest layer with a value for it gives.
-/

namespace ProviderRouting

/-! ## Fields -/

/-- A field of thresholds, by the type of its values. -/
inductive ThresholdField : Type → Type where
  /-- Consecutive failures that open a breaker. -/
  | failures : ThresholdField UInt32
  /-- Consecutive successful probes that close it. -/
  | successes : ThresholdField UInt32
  /-- Seconds to stay open. -/
  | timeoutSeconds : ThresholdField UInt64
  /-- Seconds that an outcome stays in the window. -/
  | windowSeconds : ThresholdField UInt64
  /-- The failing fraction above which it opens. -/
  | rate : ThresholdField Float
  /-- Outcomes the window must hold before its failing fraction counts. -/
  | minimumSamples : ThresholdField UInt32

/-- A field of settings, by the type of its values. -/
inductive SettingField : Type → Type 1 where
  /-- A threshold of all providers. -/
  | threshold {α : Type} (field : ThresholdField α) : SettingField α
  /-- What is set for single providers. -/
  | providerBreakers : SettingField (Table ThresholdFields)
  /-- The smoothing factor of the health statistics. -/
  | factor : SettingField Float
  /-- The success rate below which a provider is degraded. -/
  | degradedRate : SettingField Float
  /-- The latency above which a provider is degraded. -/
  | degradedLatency : SettingField Float
  /-- The providers with credentials. -/
  | credentialed : SettingField (Option (List String))
  /-- How many planned attempts a run examines. -/
  | maxRetries : SettingField Nat
  /-- Where the catalog is. -/
  | catalogPath : SettingField (Option String)
  /-- Seconds between readings of the catalog. -/
  | catalogReload : SettingField Nat
  /-- Whether breakers are shared. -/
  | storeEnabled : SettingField Bool
  /-- Seconds between looks at what others share. -/
  | storeSync : SettingField Nat
  /-- The folder in which breakers are shared. -/
  | storePath : SettingField String
  /-- Seconds between summaries of the metrics. -/
  | metricsLog : SettingField Nat
  /-- Where the metrics are exported to. -/
  | metricsExport : SettingField String

/-- The value of a threshold. -/
def Thresholds.value (thresholds : Thresholds) : {α : Type} → ThresholdField α → α
  | _, .failures => thresholds.failures
  | _, .successes => thresholds.successes
  | _, .timeoutSeconds => thresholds.timeoutSeconds
  | _, .windowSeconds => thresholds.windowSeconds
  | _, .rate => thresholds.rate
  | _, .minimumSamples => thresholds.minimumSamples

/-- The value of a threshold that may not be set. -/
def ThresholdFields.value? (fields : ThresholdFields) : {α : Type} → ThresholdField α → Option α
  | _, .failures => fields.failures
  | _, .successes => fields.successes
  | _, .timeoutSeconds => fields.timeoutSeconds
  | _, .windowSeconds => fields.windowSeconds
  | _, .rate => fields.rate
  | _, .minimumSamples => fields.minimumSamples

/-- The value of a field. -/
def Settings.value (settings : Settings) : {α : Type} → SettingField α → α
  | _, .threshold field => settings.breaker.value field
  | _, .providerBreakers => settings.providerBreakers
  | _, .factor => settings.selection.factor
  | _, .degradedRate => settings.selection.degradedRate
  | _, .degradedLatency => settings.selection.degradedLatency
  | _, .credentialed => settings.selection.credentialed
  | _, .maxRetries => settings.maxRetries
  | _, .catalogPath => settings.catalogPath
  | _, .catalogReload => settings.catalogReload
  | _, .storeEnabled => settings.storeEnabled
  | _, .storeSync => settings.storeSync
  | _, .storePath => settings.storePath
  | _, .metricsLog => settings.metricsLog
  | _, .metricsExport => settings.metricsExport

/-! ## Layers -/

/-- Values for some of the fields. -/
structure SettingLayer where
  /-- The value for a field, if the layer sets it. -/
  value? : {α : Type} → SettingField α → Option α

namespace SettingLayer

/-- The layer that sets nothing. -/
def empty : SettingLayer := ⟨fun _ => none⟩

/-- Whether any field is set. -/
def Sets (layer : SettingLayer) : Prop :=
  ∃ (α : Type) (field : SettingField α), (layer.value? field).isSome

/-- A change of settings lays the layer over them: it gives the fields that the layer sets its
values and keeps all others. -/
def LaidBy (layer : SettingLayer) (change : Settings → Settings) : Prop :=
  ∀ (settings : Settings) {α : Type} (field : SettingField α),
    (change settings).value field = (layer.value? field).getD (settings.value field)

end SettingLayer

/-- What a settings file sets. -/
def SettingsFile.value? (file : SettingsFile) : {α : Type} → SettingField α → Option α
  | _, .threshold field => file.breaker.defaults.value? field
  | _, .providerBreakers => some file.breaker.providers
  | _, .factor => file.selection.factor
  | _, .degradedRate => file.selection.degradedRate
  | _, .degradedLatency => file.selection.degradedLatency
  | _, .credentialed => file.selection.credentialed.map fun names => some (distinctNames names)
  | _, .maxRetries => file.maxRetries
  | _, .catalogPath => file.catalogPath.map some
  | _, .catalogReload => file.catalogReload
  | _, .storeEnabled => file.storeEnabled
  | _, .storeSync => file.storeSync
  | _, .storePath => file.storePath
  | _, .metricsLog => file.metricsLog
  | _, .metricsExport => file.metricsExport

/-- What an environment sets; a number that cannot be read is not set. -/
def Environment.value? (environment : Environment) : {α : Type} → SettingField α → Option α
  | _, .threshold .failures =>
    ((environment.get? "GATEWAY_BREAKER_FAILURE_THRESHOLD").bind
      (Text.numeral? UInt32.size)).map Nat.toUInt32
  | _, .threshold .timeoutSeconds =>
    ((environment.get? "GATEWAY_BREAKER_TIMEOUT_SECS").bind
      (Text.numeral? UInt64.size)).map Nat.toUInt64
  | _, .maxRetries => (environment.get? "GATEWAY_MAX_RETRIES").bind (Text.numeral? UInt64.size)
  | _, .catalogPath => (environment.get? "GATEWAY_CATALOG_PATH").map some
  | _, .storeEnabled => (environment.get? "GATEWAY_STORE_ENABLED").map Settings.isYes
  | _, .storePath => environment.get? "GATEWAY_STORE_PATH"
  | _, _ => none

/-- What a command line sets. -/
def SettingOverrides.value? (overrides : SettingOverrides) :
    {α : Type} → SettingField α → Option α
  | _, .threshold .failures => overrides.failures
  | _, .maxRetries => overrides.maxRetries
  | _, .catalogPath => overrides.catalogPath.map some
  | _, .storeEnabled => overrides.storeEnabled
  | _, _ => none

/-- The layer of a settings file. -/
def SettingsFile.layer (file : SettingsFile) : SettingLayer := ⟨file.value?⟩

/-- The layer of an environment. -/
def Environment.layer (environment : Environment) : SettingLayer := ⟨environment.value?⟩

/-- The layer of a command line. -/
def SettingOverrides.layer (overrides : SettingOverrides) : SettingLayer := ⟨overrides.value?⟩

/-! ## Thresholds -/

theorem ThresholdFields.value_applyTo (fields : ThresholdFields) (thresholds : Thresholds)
    {α : Type} (field : ThresholdField α) :
    (fields.applyTo thresholds).value field =
      (fields.value? field).getD (thresholds.value field) := by
  cases field <;> rfl

/-- What is set for a provider itself goes before what is set for all. -/
theorem Settings.value_breakerFor (settings : Settings) (provider : String) {α : Type}
    (field : ThresholdField α) :
    (settings.breakerFor provider).value field =
      ((settings.providerBreakers.get? provider).bind (·.value? field)).getD
        (settings.value (.threshold field)) := by
  rw [breakerFor]
  cases settings.providerBreakers.get? provider with
  | none => rfl
  | some fields => exact fields.value_applyTo settings.breaker field

/-! ## The settings file -/

theorem SettingsFile.laidBy_withFile (path : String) (file : SettingsFile) :
    file.layer.LaidBy (·.withFile path file) := by
  intro settings α field
  cases field with
  | threshold field => exact file.breaker.defaults.value_applyTo settings.breaker field
  | credentialed =>
      change (file.selection.credentialed.map distinctNames).or _ = _
      cases known : file.selection.credentialed <;> simp [layer, value?, known, Settings.value]
  | catalogPath =>
      change file.catalogPath.or _ = _
      cases known : file.catalogPath <;> simp [layer, value?, known, Settings.value]
  | _ => rfl

/-! ## The environment -/

namespace Settings

section Variable

variable {α β : Type} {environment : Environment} {name : String} {read : String → Option α}
  {change : α → Settings → Settings} {settings : Settings} {field : SettingField β}

theorem value_withVariable_of_kept
    (kept : ∀ value settings, (change value settings).value field = settings.value field) :
    (settings.withVariable environment name read change).value field = settings.value field := by
  rw [withVariable]
  cases (environment.get? name).bind read with
  | none => rfl
  | some value =>
      rw [← kept value settings]
      cases field <;> rfl

theorem value_withVariable_of_set (set : α → β)
    (sets : ∀ value settings, (change value settings).value field = set value) :
    (settings.withVariable environment name read change).value field =
      (((environment.get? name).bind read).map set).getD (settings.value field) := by
  rw [withVariable]
  cases (environment.get? name).bind read with
  | none => rfl
  | some value =>
      rw [Option.map_some, Option.getD_some, ← sets value settings]
      cases field <;> rfl

theorem source_withVariable :
    (settings.withVariable environment name read change).source =
      if ((environment.get? name).bind read).isSome then .environment else settings.source := by
  rw [withVariable]
  cases (environment.get? name).bind read <;> rfl

end Variable

theorem laidBy_withEnvironment (environment : Environment) :
    environment.layer.LaidBy (·.withEnvironment environment) := by
  intro settings α field
  dsimp only [Environment.layer]
  rw [withEnvironment]
  -- A variable is for one field, so five of the six keep the field and the others all six.
  cases field with
  | catalogPath =>
      iterate 5 rw [value_withVariable_of_kept]
      rw [value_withVariable_of_set some, Option.bind_fun_some]
      all_goals (intros; rfl)
  | maxRetries =>
      iterate 4 rw [value_withVariable_of_kept]
      rw [value_withVariable_of_set id, Option.map_id, value_withVariable_of_kept]
      all_goals (intros; rfl)
  | threshold field =>
      cases field with
      | failures =>
          iterate 3 rw [value_withVariable_of_kept]
          rw [value_withVariable_of_set Nat.toUInt32]
          iterate 2 rw [value_withVariable_of_kept]
          all_goals (intros; rfl)
      | timeoutSeconds =>
          iterate 2 rw [value_withVariable_of_kept]
          rw [value_withVariable_of_set Nat.toUInt64]
          iterate 3 rw [value_withVariable_of_kept]
          all_goals (intros; rfl)
      | _ =>
          iterate 6 rw [value_withVariable_of_kept]
          all_goals (intros; rfl)
  | storeEnabled =>
      rw [value_withVariable_of_kept, value_withVariable_of_set id]
      iterate 4 rw [value_withVariable_of_kept]
      · simp only [Environment.value?]
        cases environment.get? "GATEWAY_STORE_ENABLED" <;> rfl
      all_goals (intros; rfl)
  | storePath =>
      rw [value_withVariable_of_set id, Option.map_id, Option.bind_fun_some]
      iterate 5 rw [value_withVariable_of_kept]
      all_goals (intros; rfl)
  | _ =>
      iterate 6 rw [value_withVariable_of_kept]
      all_goals (intros; rfl)

theorem filePath_withEnvironment (environment : Environment) (settings : Settings) :
    (settings.withEnvironment environment).filePath = settings.filePath := by
  have kept {α : Type} (name : String) (read : String → Option α)
      (change : α → Settings → Settings) (settings : Settings)
      (keeps : ∀ value settings, (change value settings).filePath = settings.filePath) :
      (settings.withVariable environment name read change).filePath = settings.filePath := by
    rw [withVariable]
    cases (environment.get? name).bind read with
    | none => rfl
    | some value => exact keeps value settings
  rw [withEnvironment]
  iterate 6 rw [kept]
  all_goals (intros; rfl)

end Settings

namespace Environment

/-- Whether an environment sets any field. -/
def setsAny (environment : Environment) : Bool :=
  (environment.value? .catalogPath).isSome || (environment.value? .maxRetries).isSome
    || (environment.value? (.threshold .failures)).isSome
    || (environment.value? (.threshold .timeoutSeconds)).isSome
    || (environment.value? .storeEnabled).isSome || (environment.value? .storePath).isSome

theorem setsAny_iff (environment : Environment) :
    environment.setsAny = true ↔ environment.layer.Sets := by
  simp only [setsAny, Bool.or_eq_true]
  constructor
  · rintro (((((given | given) | given) | given) | given) | given)
    · exact ⟨_, .catalogPath, given⟩
    · exact ⟨_, .maxRetries, given⟩
    · exact ⟨_, .threshold .failures, given⟩
    · exact ⟨_, .threshold .timeoutSeconds, given⟩
    · exact ⟨_, .storeEnabled, given⟩
    · exact ⟨_, .storePath, given⟩
  · rintro ⟨α, field, given⟩
    cases field with
    | threshold field => cases field <;> simp_all [layer, value?]
    | _ => simp_all [layer, value?]

theorem source_withEnvironment (environment : Environment) (settings : Settings) :
    (settings.withEnvironment environment).source =
      if environment.setsAny then .environment else settings.source := by
  have enabled : ((environment.get? "GATEWAY_STORE_ENABLED").bind fun text =>
      some (Settings.isYes text)).isSome = (environment.get? "GATEWAY_STORE_ENABLED").isSome := by
    cases environment.get? "GATEWAY_STORE_ENABLED" <;> rfl
  simp only [Settings.withEnvironment, Settings.source_withVariable, setsAny, value?,
    Option.bind_fun_some, Option.isSome_map, enabled]
  grind

end Environment

/-! ## The command line -/

namespace SettingOverrides

theorem laidBy_applyTo (overrides : SettingOverrides) :
    overrides.layer.LaidBy overrides.applyTo := by
  intro settings α field
  cases field with
  | threshold field => cases field <;> rfl
  | catalogPath =>
      change overrides.catalogPath.or _ = (overrides.catalogPath.map some).getD _
      cases overrides.catalogPath <;> rfl
  | _ => rfl

theorem setsAny_iff (overrides : SettingOverrides) :
    overrides.setsAny = true ↔ overrides.layer.Sets := by
  simp only [setsAny, Bool.or_eq_true]
  constructor
  · rintro (((given | given) | given) | given)
    · exact ⟨_, .catalogPath, by simpa [layer, value?] using given⟩
    · exact ⟨_, .maxRetries, given⟩
    · exact ⟨_, .threshold .failures, given⟩
    · exact ⟨_, .storeEnabled, given⟩
  · rintro ⟨α, field, given⟩
    cases field with
    | threshold field => cases field <;> simp_all [layer, value?]
    | _ => simp_all [layer, value?]

end SettingOverrides

/-! ## All layers -/

/-- Lay a settings file over the settings, if there is one. -/
def Settings.withFile? (file : Option (String × SettingsFile)) (settings : Settings) : Settings :=
  match file with
  | none => settings
  | some (path, file) => settings.withFile path file

/-- The layer of a settings file, which sets nothing if there is none. -/
def SettingLayer.ofFile? (file : Option (String × SettingsFile)) : SettingLayer :=
  file.elim .empty (·.2.layer)

/-- Settings are the outcome of an environment, a settings file and a command line over the
standard values. -/
structure Settings.Layered (environment : Environment) (file : Option (String × SettingsFile))
    (overrides : SettingOverrides) (settings : Settings) : Prop where
  /-- Every field has the value of the highest layer that sets it. -/
  value_eq : ∀ {α : Type} (field : SettingField α), settings.value field =
    ((overrides.layer.value? field).or ((environment.layer.value? field).or
      ((SettingLayer.ofFile? file).value? field))).getD ((Settings.standard environment).value field)
  /-- A threshold of a provider is the one that the file sets for the provider itself, or else the
  one of all providers. -/
  breakerFor_eq : ∀ (provider : String) {α : Type} (field : ThresholdField α),
    (settings.breakerFor provider).value field =
      (((file.bind (·.2.breaker.providers.get? provider))).bind (·.value? field)).getD
        (settings.value (.threshold field))
  /-- The last change came from the command line if it sets any field. -/
  source_of_commandLine : overrides.layer.Sets → settings.source = .commandLine
  /-- Otherwise it came from the environment if that sets any field. -/
  source_of_environment : ¬overrides.layer.Sets → environment.layer.Sets →
    settings.source = .environment
  /-- Otherwise it came from the file if there is one, whether or not it sets a field. -/
  source_of_file : ¬overrides.layer.Sets → ¬environment.layer.Sets →
    settings.source = if file.isSome then .file else .standard
  /-- The file is kept in mind. -/
  filePath_eq : settings.filePath = file.map Prod.fst

namespace Settings

variable {environment : Environment} {file : Option (String × SettingsFile)}
  {overrides : SettingOverrides} {settings : Settings}

theorem laidBy_withFile? (file : Option (String × SettingsFile)) :
    (SettingLayer.ofFile? file).LaidBy (·.withFile? file) := by
  cases file with
  | none => exact fun _ _ _ => rfl
  | some file => exact file.2.laidBy_withFile file.1

theorem layered_applyTo (environment : Environment) (file : Option (String × SettingsFile))
    (overrides : SettingOverrides) :
    Layered environment file overrides (overrides.applyTo
      (((standard environment).withFile? file).withEnvironment environment)) := by
  have source (settings : Settings) : (overrides.applyTo settings).source =
      if overrides.setsAny then .commandLine else settings.source := rfl
  constructor
  · intro α field
    rw [overrides.laidBy_applyTo, laidBy_withEnvironment environment _ field,
      laidBy_withFile? file _ field, Option.getD_or, Option.getD_or]
  · intro provider α field
    have providers : (overrides.applyTo (((standard environment).withFile? file).withEnvironment
        environment)).providerBreakers = (file.map (·.2.breaker.providers)).getD .empty := by
      have kept := laidBy_withEnvironment environment ((standard environment).withFile? file)
        .providerBreakers
      refine kept.trans ?_
      cases file <;> rfl
    rw [value_breakerFor, providers]
    cases file <;> rfl
  · intro sets
    rw [source, if_pos (overrides.setsAny_iff.mpr sets)]
  · intro unset sets
    rw [source, if_neg (mt overrides.setsAny_iff.mp unset), environment.source_withEnvironment,
      if_pos (environment.setsAny_iff.mpr sets)]
  · intro unset ungiven
    rw [source, if_neg (mt overrides.setsAny_iff.mp unset), environment.source_withEnvironment,
      if_neg (mt environment.setsAny_iff.mp ungiven)]
    cases file <;> rfl
  · change (withEnvironment environment _).filePath = _
    rw [filePath_withEnvironment]
    cases file <;> rfl

/-- The values of all fields, the source and the file make the settings. -/
theorem ext_value {other : Settings}
    (values : ∀ {α : Type} (field : SettingField α), settings.value field = other.value field)
    (sources : settings.source = other.source) (files : settings.filePath = other.filePath) :
    settings = other := by
  have breaker : settings.breaker = other.breaker := by
    rw [Thresholds.mk.injEq]
    exact ⟨values (.threshold .failures), values (.threshold .successes),
      values (.threshold .timeoutSeconds), values (.threshold .windowSeconds),
      values (.threshold .rate), values (.threshold .minimumSamples)⟩
  have selection : settings.selection = other.selection := by
    rw [Selection.mk.injEq]
    exact ⟨values .factor, values .degradedRate, values .degradedLatency, values .credentialed⟩
  rw [Settings.mk.injEq]
  exact ⟨breaker, values .providerBreakers, selection, values .maxRetries, values .catalogPath,
    values .catalogReload, values .storeEnabled, values .storeSync, values .storePath,
    values .metricsLog, values .metricsExport, files, sources⟩

theorem Layered.unique {other : Settings} (layered : Layered environment file overrides settings)
    (otherLayered : Layered environment file overrides other) : settings = other := by
  refine ext_value (fun field => ?_) ?_ ?_
  · rw [layered.value_eq, otherLayered.value_eq]
  · by_cases sets : overrides.layer.Sets
    · rw [layered.source_of_commandLine sets, otherLayered.source_of_commandLine sets]
    · by_cases given : environment.layer.Sets
      · rw [layered.source_of_environment sets given, otherLayered.source_of_environment sets given]
      · rw [layered.source_of_file sets given, otherLayered.source_of_file sets given]
  · rw [layered.filePath_eq, otherLayered.filePath_eq]

end Settings

/-! ## Loading -/

theorem Disk.pure_apply {α : Type} (value : α) (disk : Disk) :
    (pure value : StateM Disk α) disk = (value, disk) := rfl

theorem Disk.bind_apply {α β : Type} (action : StateM Disk α) (next : α → StateM Disk β)
    (disk : Disk) : (action >>= next) disk = next (action disk).1 (action disk).2 := rfl

/-- What is found where a settings file is looked for: nothing if there is none, or else the file,
whose text has the right form. -/
def Disk.FindsSettings (disk : Disk) (path : Option String) :
    Option (String × SettingsFile) → Prop
  | none => ∀ place, path = some place → disk.exists? place = false
  | some (place, file) => path = some place ∧ disk.exists? place = true ∧
      ∃ text, disk.read place = .ok text ∧ Settings.readFile? text = some file

namespace Settings

theorem checked_eq_ok_iff {settings other : Settings} :
    settings.checked = .ok other ↔ settings = other ∧ other.validate = .ok () := by
  rw [checked]
  cases valid : settings.validate with
  | ok =>
      constructor
      · intro same
        obtain rfl := Except.ok.inj same
        exact ⟨rfl, valid⟩
      · rintro ⟨rfl, -⟩
        rfl
  | error fault =>
      constructor
      · intro same
        contradiction
      · rintro ⟨rfl, also⟩
        rw [valid] at also
        contradiction

theorem load_access (environment : Environment) (place : String) (disk : Disk) :
    load Disk.access environment (some place) disk =
      (if disk.exists? place then
        match disk.read place with
        | .ok text => resolve environment (some (place, text))
        | .error fault => .error (.unreadable place fault)
      else resolve environment none, disk) := by
  simp only [load, Disk.access, Disk.bind_apply]
  cases found : disk.exists? place with
  | false => simp [Disk.pure_apply]
  | true => cases known : disk.read place <;> simp [Disk.bind_apply, Disk.pure_apply, known]

theorem load_eq_ok_iff {environment : Environment} {path : Option String} {disk : Disk}
    {settings : Settings} :
    (load Disk.access environment path disk).1 = .ok settings ↔
      ∃ file, disk.FindsSettings path file ∧
        ((standard environment).withFile? file).withEnvironment environment = settings ∧
        settings.validate = .ok () := by
  cases path with
  | none =>
      change ((standard environment).withEnvironment environment).checked = _ ↔ _
      rw [checked_eq_ok_iff]
      constructor
      · rintro ⟨same, valid⟩
        exact ⟨none, fun _ here => absurd here.symm (Option.some_ne_none _), same, valid⟩
      · rintro ⟨file, finds, same, valid⟩
        cases file with
        | none => exact ⟨same, valid⟩
        | some file => exact absurd finds.1.symm (Option.some_ne_none _)
  | some place =>
      rw [load_access]
      constructor
      · intro loaded
        cases found : disk.exists? place with
        | false =>
            simp only [found, Bool.false_eq_true, if_false] at loaded
            refine ⟨none, fun other here => ?_, checked_eq_ok_iff.mp loaded⟩
            rw [← Option.some.inj here, found]
        | true =>
            cases known : disk.read place with
            | error fault => simp [found, known] at loaded
            | ok text =>
                cases parsed : readFile? text with
                | none => simp [found, known, resolve, parsed] at loaded
                | some file =>
                    simp only [found, known, resolve, parsed, if_true] at loaded
                    exact ⟨some (place, file), ⟨rfl, found, text, known, parsed⟩,
                      checked_eq_ok_iff.mp loaded⟩
      · rintro ⟨file, finds, laid⟩
        cases file with
        | none =>
            simp only [finds place rfl, Bool.false_eq_true, if_false]
            exact checked_eq_ok_iff.mpr laid
        | some file =>
            obtain ⟨same, found, text, known, parsed⟩ := finds
            obtain rfl := Option.some.inj same
            simp only [found, known, resolve, parsed, if_true]
            exact checked_eq_ok_iff.mpr laid

end Settings

theorem Daemon.resolve_eq_ok_iff {environment : Environment} {invocation : Invocation}
    {disk : Disk} {settings : Settings} :
    (Daemon.resolve Disk.access environment invocation disk).1 = .ok settings ↔
      ∃ loaded, (Settings.load Disk.access environment
          (invocation.configPath.or environment.settingsPath?) disk).1 = .ok loaded ∧
        invocation.overrides.applyTo loaded = settings ∧ settings.validate = .ok () := by
  simp only [Daemon.resolve, Disk.bind_apply]
  cases Settings.load Disk.access environment
    (invocation.configPath.or environment.settingsPath?) disk with
  | mk result after =>
      cases result with
      | error fault => simp [Disk.pure_apply]
      | ok loaded =>
          simp only [Except.ok.injEq, exists_eq_left', ← Settings.checked_eq_ok_iff]
          cases (invocation.overrides.applyTo loaded).checked <;> simp [Disk.pure_apply]

/-- Every layer of settings gives the fields that it sets their values and keeps all others.  So
whatever a settings file, an environment and a command line set, every field has the value of the
highest layer that sets it, and the source is the highest layer that sets any; and the settings of
an invocation, if there are any, are these, with the file that is found. -/
theorem layering_law (environment : Environment) :
    (∀ (path : String) (file : SettingsFile), file.layer.LaidBy (·.withFile path file)) ∧
    environment.layer.LaidBy (·.withEnvironment environment) ∧
    (∀ overrides : SettingOverrides, overrides.layer.LaidBy overrides.applyTo) ∧
    (∀ file overrides settings, Settings.Layered environment file overrides settings ↔
      overrides.applyTo (((Settings.standard environment).withFile? file).withEnvironment
        environment) = settings) ∧
    ∀ (disk : Disk) (invocation : Invocation) (settings : Settings),
      (Daemon.resolve Disk.access environment invocation disk).1 = .ok settings ↔
        ∃ file, disk.FindsSettings (invocation.configPath.or environment.settingsPath?) file ∧
          (∃ loaded, Settings.Layered environment file ⟨none, none, none, none⟩ loaded ∧
            loaded.validate = .ok ()) ∧
          Settings.Layered environment file invocation.overrides settings ∧
          settings.validate = .ok () := by
  have layered_iff (file : Option (String × SettingsFile)) (overrides : SettingOverrides)
      (settings : Settings) : Settings.Layered environment file overrides settings ↔
        overrides.applyTo (((Settings.standard environment).withFile? file).withEnvironment
          environment) = settings := by
    have layered := Settings.layered_applyTo environment file overrides
    exact ⟨layered.unique, fun same => same ▸ layered⟩
  refine ⟨SettingsFile.laidBy_withFile, Settings.laidBy_withEnvironment environment,
    SettingOverrides.laidBy_applyTo, layered_iff, fun disk invocation settings => ?_⟩
  simp only [Daemon.resolve_eq_ok_iff, Settings.load_eq_ok_iff, layered_iff]
  constructor
  · rintro ⟨_, ⟨file, finds, rfl, loadable⟩, laid, valid⟩
    exact ⟨file, finds, ⟨_, rfl, loadable⟩, laid, valid⟩
  · rintro ⟨file, finds, ⟨_, rfl, loadable⟩, laid, valid⟩
    exact ⟨_, ⟨file, finds, rfl, loadable⟩, laid, valid⟩

end ProviderRouting
