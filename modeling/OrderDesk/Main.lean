import OrderDesk.Health.Http
import OrderDesk.Net.Listener
import OrderDesk.Order.Policy
import OrderDesk.Startup
import Std.Async.Signal
import Std.Async.TCP

/-!
# The program

Starts the desk from the variables of the process and a `.env` file in this directory or one above
it. While it runs, the simulator passes over the orders and the health pages are served. It ends on
an interrupt or a request to terminate.
-/

namespace OrderDesk.Program

open Std.Async

/-- The version that the health page reports. -/
def version : String := "0.1.0"

/-- The text of the nearest file of variables, from a directory upwards. `fuel` bounds the climb. -/
def findFile (directory : String) : Nat → IO (Option String)
  | 0 => return none
  | fuel + 1 => do
    try
      return some (← IO.FS.readFile (directory ++ "/.env"))
    catch _ =>
      let above := (directory.toList.reverse.dropWhile (· != '/')).drop 1
      if directory.isEmpty then return none
      else findFile (String.ofList above.reverse) fuel

/-- The variables of the process among those with the given names. -/
def readVariables (names : List String) : IO Environment :=
  names.filterMapM fun name => return (← IO.getEnv name).map (name, ·)

def now : IO Instant := do
  let stamp ← Std.Time.Timestamp.now
  let nanos : Int := stamp.toNanosecondsSinceUnixEpoch.val
  return (Instant.ofUnix? (nanos / 1000000000) (nanos % 1000000000).toNat).getD .epoch

/-- The policy of a pass: each order gets a draw of its own, made from a random seed and its
identifier. -/
def policyOf (p : RandomPolicy) (seed : Nat) : Policy := fun order =>
  let draw (n : Nat) : Nat := n % RandomPolicy.drawLimit
  let mixed := order.id.uuid.digits.foldl (fun n d => draw (n * 31 + d.val + 1)) seed
  p.decideOn (draw (mixed * 6364136223846793005 + 1442695040888963407))

/-- Lets the simulator take its turns for as long as it has a loop. -/
partial def simulate (desk : IO.Ref Desk) (p : RandomPolicy) : IO Unit := do
  IO.sleep 10
  let seed ← IO.rand 0 (RandomPolicy.drawLimit - 1)
  let wall ← now
  let mono ← IO.monoNanosNow
  desk.modify fun d => d.settle OrderStore.get (policyOf p seed) mono wall
  if !(← desk.get).simulator.loops.isEmpty then simulate desk p

def answerClient (desk : IO.Ref Desk) (started : Nanos) (client : TCP.Socket.Client) : IO Unit := do
  match ← (client.recv? 8192).block with
  | none => return ()
  | some bytes =>
    let report := HealthReport.ofDesk (← desk.get) version ((← IO.monoNanosNow) - started) (← now)
    let answer := Page.respond (← desk.get) report ((String.fromUTF8? bytes).getD "")
    (client.send answer.toUTF8).block
    client.shutdown.block

/-- Answers connections, one after the other, until the desk is shut down. -/
partial def servePages (desk : IO.Ref Desk) (started : Nanos) (server : TCP.Socket.Server) :
    IO Unit := do
  if (← desk.get).isShutDown then return ()
  match ← server.tryAccept with
  | none => IO.sleep 10
  | some client =>
    try answerClient desk started client catch _ => pure ()
  servePages desk started server

/-- An address as the network library writes it; a scope plays no part. -/
def networkAddress (a : SocketAddress) : Std.Net.SocketAddress :=
  match a.host with
  | .v4 p q r s =>
    .v4 ⟨.ofParts p.toUInt8 q.toUInt8 r.toUInt8 s.toUInt8, a.port.toUInt16⟩
  | .v6 groups _ =>
    let g (i : Nat) : UInt16 := (groups.getD i 0).toUInt16
    .v6 ⟨.ofParts (g 0) (g 1) (g 2) (g 3) (g 4) (g 5) (g 6) (g 7), a.port.toUInt16⟩

/-- Serves the health pages; a listener that fails is reported, and the desk goes on without it. -/
def listen (desk : IO.Ref Desk) (started : Nanos) (address : SocketAddress) : IO Unit := do
  try
    let server ← TCP.Socket.Server.mk
    server.bind (networkAddress address)
    server.listen 128
    servePages desk started server
  catch e => IO.eprintln (ListenError.bindFailed address (toString e)).message

/-- Waits until the process is asked to end. -/
def awaitSignal : IO Unit := do
  let interrupt ← (← Signal.Waiter.mk .sigint false).wait
  let terminate ← (← Signal.Waiter.mk .sigterm false).wait
  discard <| IO.wait (← IO.asTask (do
    while !((← IO.hasFinished interrupt) || (← IO.hasFinished terminate)) do
      IO.sleep 20))

def run (ready : Ready) : IO Unit := do
  let s := ready.settings
  let started ← IO.monoNanosNow
  let fresh := Desk.make s.pollInterval s.bufferCapacity s.simulatorInterval
  let desk ← IO.mkRef (fresh.startSimulator started)
  let simulator ← IO.asTask (simulate desk (.make s.fillProbability)) .dedicated
  let pages ← IO.asTask (listen desk started ready.health) .dedicated
  IO.println ("order desk ready, health pages at " ++ ready.health.toText)
  awaitSignal
  desk.modify Desk.shutDown
  discard <| IO.wait simulator
  discard <| IO.wait pages

end OrderDesk.Program

open OrderDesk in
/-- Starts the desk, and runs it unless the start fails. -/
def main : IO UInt32 := do
  let file ← Program.findFile (← IO.currentDir).toString 64
  let names := Settings.variableNames ++ (file.map DotEnv.mentioned).getD []
  let startup := Startup.run (← Program.readVariables names) file
  IO.eprint startup.errorText
  match startup.outcome with
  | .error _ => return 1
  | .ok ready =>
    Program.run ready
    return 0
