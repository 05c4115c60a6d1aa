import ProviderRouting.Configuration.Loading
import ProviderRouting.Daemon.Arguments
import ProviderRouting.Daemon.Report
import ProviderRouting.Daemon.Server

/-!
# Commands of the daemon

Every command but one answers a question and ends.  The answer goes to the standard output; a
failure is reported instead of it.  Serving goes on until it is interrupted.
-/

namespace ProviderRouting

namespace Daemon

/-- The end of the process. -/
structure Outcome where
  /-- The exit code. -/
  code : Nat
  /-- What was written to the standard output. -/
  output : String
  /-- The report of the failure, if there was one. -/
  report : Option FailureReport
deriving Inhabited

/-- What the process does next. -/
inductive Step where
  /-- It ends. -/
  | finished (outcome : Outcome)
  /-- It serves. -/
  | serving (server : Server)

/-- The end after an answer. -/
def answer (output : String) : Step := .finished ⟨0, output, none⟩

/-- The end after a failure. -/
def failure (headline message : String) (fault : Option FileFault) : Step :=
  .finished ⟨1, "", some ⟨headline, FailureReport.causeChain message fault⟩⟩

/-- The end after a command line that is refused. -/
def refusal : Step := .finished ⟨2, "", none⟩

/-- The name and version of the program. -/
def versionLine : String := "gateway-daemon 0.1.0\n"

/-- A line of the table that shows a plan. -/
def planLine (rank provider model breaker : String) : String :=
  Text.padRight 4 rank ++ " " ++ Text.padRight 20 provider ++ " " ++ Text.padRight 40 model ++ " "
    ++ breaker ++ "\n"

/-- The table that shows a plan. -/
def planTable (attempts : List Attempt) : String :=
  planLine "RANK" "PROVIDER" "MODEL" "BREAKER"
    ++ String.join (attempts.map fun attempt =>
      planLine (toString attempt.rank) attempt.provider attempt.providerModel attempt.phase.name)

/-- The answer to a request for a plan. -/
def showPlan (request : PlanRequest) (engine : Engine) : Step :=
  match (engine.plan request).2 with
  | .ok attempts => answer (planTable attempts)
  | .error fault => failure ("Cannot plan model " ++ request.model) fault.message none

/-- The answer to a check. -/
def showCheck (settings : Settings) (engine : Engine) : Step :=
  answer ("config:    " ++ settings.source.name ++ "\n"
    ++ "models:    " ++ toString engine.registry.size ++ "\n"
    ++ "offerings: " ++ toString engine.registry.offerings ++ "\n"
    ++ "providers: " ++ ", ".intercalate engine.registry.providerNames ++ "\n")

/-- The answer to a question for the shared states. -/
def showStates (states : Table SharedState) : Step :=
  answer (Json.writePretty (.record (states.map fun _ state => state.encode).entries) ++ "\n")

variable {m : Type → Type} [Monad m]

/-- The settings of an invocation, or the failure. -/
def resolve (files : FileAccess m) (environment : Environment) (invocation : Invocation) :
    m (Except Step Settings) := do
  let path := invocation.configPath.or environment.settingsPath?
  match ← Settings.load files environment path with
  | .error fault =>
    return .error (failure "Failed to load configuration" fault.message fault.fileFault?)
  | .ok settings =>
    match (invocation.overrides.applyTo settings).checked with
    | .error fault =>
      return .error
        (failure "Invalid configuration after CLI overrides" fault.message fault.fileFault?)
    | .ok settings => return .ok settings

/-- The engine for settings, with the catalog they name. -/
def buildEngine (files : FileAccess m) (settings : Settings) : m (Except Step Engine) := do
  let engine := settings.engineSettings.build .start
  match settings.catalogPath with
  | none => return .ok engine
  | some path =>
    match ← Catalog.load files path with
    | .error fault =>
      return .error
        (failure ("Failed to load catalog from " ++ path) (fault.message path) fault.fileFault?)
    | .ok models => return .ok (engine.onRegistry (·.register models))

/-- The shared states in the folder that settings name. -/
def showShared (files : FileAccess m) (settings : Settings) : m Step := do
  let path := settings.storePath
  match ← FolderStore.fetchAll (files.folder path) with
  | .ok states => return showStates states
  | .error fault =>
    return failure ("Failed to read shared breaker state from " ++ path) (fault.message path)
      fault.fileFault?

/-- The exported metrics. -/
def showMetrics (files : FileAccess m) (settings : Settings) : m Step := do
  let path := settings.metricsExport
  match ← files.read path with
  | .ok text => return answer text
  | .error fault =>
    return failure ("No metrics export at " ++ path ++ "; is \x60gateway-daemon serve\x60 running?")
      fault.message none

/-- What to do with the engine for settings. -/
def withEngine (files : FileAccess m) (settings : Settings) (next : Engine → Step) : m Step := do
  match ← buildEngine files settings with
  | .ok engine => return next engine
  | .error step => return step

/-- Carry out a command. -/
def carryOut (files : FileAccess m) (instanceId : InstanceId) (settings : Settings) :
    Command → m Step
  | .serve => withEngine files settings fun engine => .serving ⟨settings, engine, instanceId⟩
  | .plan request => withEngine files settings (showPlan request)
  | .breakers => showShared files settings
  | .metrics => showMetrics files settings
  | .check => withEngine files settings (showCheck settings)

/-- Start the process with the words of its command line.  `instanceId` is by what it is known to
others if it serves. -/
def start (files : FileAccess m) (environment : Environment) (instanceId : InstanceId)
    (words : List String) : m Step := do
  match CommandLine.read environment words with
  | .error _ => return refusal
  | .ok .showVersion => return answer versionLine
  | .ok .showHelp => return answer ""
  | .ok (.run invocation) =>
    match ← resolve files environment invocation with
    | .error step => return step
    | .ok settings => carryOut files instanceId settings invocation.command

end Daemon

end ProviderRouting
