import ProviderRouting.Catalog.Loading
import ProviderRouting.Configuration.Settings
import ProviderRouting.Metrics.Exposition
import ProviderRouting.Sharing.FolderStore
import ProviderRouting.Sharing.Mirror

/-!
# Serving

A server keeps an engine running.  It leaves two things on disk for others to look at: an export of
the metrics, which is replaced as a whole, and, if breakers are shared, the states of its breakers.
-/

namespace ProviderRouting

/-- A running engine with what it was started from. -/
structure Server where
  /-- The settings. -/
  settings : Settings
  /-- The engine. -/
  engine : Engine
  /-- By what the server is known to others. -/
  instanceId : InstanceId

namespace Server

variable {m : Type → Type} [Monad m]

/-- The path under which an export is written first. -/
def temporaryExport (path : String) : String := Path.withExtension path "prom.tmp"

/-- Export the metrics, in place of an earlier export. -/
def exportMetrics (files : FileAccess m) (server : Server) : m (Except FileFault Unit) := do
  let path := server.settings.metricsExport
  match ← files.createFolder ((Path.parent? path).getD "") with
  | .error fault => return .error fault
  | .ok () =>
    match ← files.write (temporaryExport path) (Exposition.write server.engine.metrics) with
    | .error fault => return .error fault
    | .ok () => files.rename (temporaryExport path) path

/-- The temporary name under which a server writes an entry of its store. -/
def temporaryEntry (server : Server) : String :=
  FolderStore.temporaryName server.instanceId.write

/-- Publish what breakers reported. -/
def publish (files : FileAccess m) (server : Server) (events : List Event) : m Unit :=
  events.forM fun event =>
    match event.notice with
    | .rejected => pure ()
    | .changed transition => do
      let _ ← FolderStore.publish (files.folder server.settings.storePath) server.temporaryEntry
        event.provider (Mirror.stateOf server.instanceId transition)

/-- Adopt what others have published, if breakers are shared.  Faults of the store do not stop the
server. -/
def synchronize (files : FileAccess m) (moment : Moment) (server : Server) : m Server := do
  if server.settings.storeEnabled then
    let fetched ← FolderStore.fetchAll (files.folder server.settings.storePath)
    let pulled := Mirror.pull server.instanceId moment fetched server.engine.bank
    let engine := { server.engine with bank := pulled.bank }.report pulled.events
    let server := { server with engine := engine }
    server.publish files pulled.events
    return server
  else return server

/-- Make the catalog's file the whole catalog again; a file that cannot be loaded changes
nothing. -/
def reload (files : FileAccess m) (server : Server) : m Server := do
  match server.settings.catalogPath with
  | none => return server
  | some path =>
    match ← Catalog.load files path with
    | .ok models => return { server with engine := server.engine.onRegistry (·.replaceAll models) }
    | .error _ => return server

/-- Export the metrics and adopt what others have published.  Faults of the export do not stop the
server. -/
def start (files : FileAccess m) (moment : Moment) (server : Server) : m Server := do
  let _ ← server.exportMetrics files
  server.synchronize files moment

/-- Whether something that is done every `period` seconds is due after a number of seconds. -/
def isDue (period seconds : Nat) : Bool := seconds % max period 1 = 0

/-- Do what is due after a number of seconds. -/
def tick (files : FileAccess m) (moment : Moment) (seconds : Nat) (server : Server) :
    m Server := do
  let server ← if isDue server.settings.catalogReload seconds then server.reload files
    else pure server
  let server ← if isDue server.settings.storeSync seconds then server.synchronize files moment
    else pure server
  if isDue server.settings.metricsLog seconds then
    let _ ← server.exportMetrics files
    return server
  else return server

/-- Leave the last figures for those who look afterwards. -/
def stop (files : FileAccess m) (server : Server) : m Unit := do
  let _ ← server.exportMetrics files

end Server

end ProviderRouting
