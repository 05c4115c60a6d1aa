import ProviderRouting.Daemon.Commands
import ProviderRouting.Files.Local
import Std.Internal.UV.Signal
import Std.Time.DateTime.Timestamp

/-!
# The daemon

The command line: it gathers what the process finds around it, carries out the command on the files
of the machine and tells the outcome.  A server does every second what is due, until it is
interrupted.
-/

namespace ProviderRouting

namespace Daemon

/-- The environment of the process. -/
def environment : IO Environment := do
  let found ← Environment.variableNames.filterMapM fun name => do
    return (← IO.getEnv name).map (name, ·)
  return ⟨.ofList found, none⟩

/-- An identifier that nobody else has. -/
def freshInstance : IO InstanceId := do
  let bytes ← IO.getRandomBytes 16
  return .ofRandomBits (bytes.foldl (fun bits byte => bits * 256 + byte.toNat) 0)

/-- The present moment. -/
def now : IO Moment := do
  let stamp ← Std.Time.Timestamp.now
  return ⟨← IO.monoNanosNow, .ofNanoseconds stamp.toNanosecondsSinceUnixEpoch.val⟩

/-- Do every second what is due until the process is interrupted. -/
partial def serveUntil (interrupted : BaseIO Bool) (seconds : Nat) (server : Server) :
    IO Server := do
  if ← interrupted then return server
  else
    IO.sleep 1000
    let server ← server.tick .machine (← now) (seconds + 1)
    serveUntil interrupted (seconds + 1) server

/-- Serve until the process is interrupted. -/
def serve (server : Server) : IO Unit := do
  let signal ← Std.Internal.UV.Signal.mk 2 false
  let interruption ← signal.next
  let server ← server.start .machine (← now)
  let server ← serveUntil interruption.isResolved 0 server
  server.stop .machine

/-- Tell the outcome. -/
def tell (outcome : Outcome) : IO UInt32 := do
  IO.print outcome.output
  match outcome.report with
  | some report => IO.eprintln report.write
  | none => pure ()
  return outcome.code.toUInt32

end Daemon

end ProviderRouting

open ProviderRouting in
/-- The process. -/
def main (words : List String) : IO UInt32 := do
  match ← Daemon.start .machine (← Daemon.environment) (← Daemon.freshInstance) words with
  | .finished outcome => Daemon.tell outcome
  | .serving server => do
    Daemon.serve server
    return 0
