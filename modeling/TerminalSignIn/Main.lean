import Std.Async.DNS
import Std.Async.System
import Std.Async.TCP
import Std.Async.Timer
import Std.Time
import TerminalSignIn.Program
import TerminalSignIn.Terminal.Control

/-!
# The command line program

Reading, writing and waiting around `Program`. Connections are not encrypted, so only a service at an `http`
address can be reached from here; the terminal is expected to send every key at once and to show none.
-/

namespace TerminalSignIn

namespace Console

open Std.Async Std.Net

def say (text : Text) : IO Unit := do
  let output ← IO.getStdout
  output.putStr (String.ofList text)
  output.flush

def complain (text : Text) : IO Unit :=
  IO.eprint (String.ofList text)

/-! ### Files -/

def kindOf (path : Text) : IO PathKind := do
  let place := (← IO.currentDir) / String.ofList path
  if ← place.isDir then return .directory
  return if ← place.pathExists then .file else .absent

def fileContent (path : Text) : IO FileContent := do
  match ← kindOf path with
  | .absent => return .missing
  | .directory => return .directory
  | .file => return .bytes (← IO.FS.readBinFile (String.ofList path)).toList

def findSurroundings : IO Program.Surroundings := do
  let found ← System.getEnv
  let home := (found.get? "HOME").getD ""
  let home := home.toList
  let paths := Journal.Place.all.flatMap fun place =>
    [place.root home, place.directory home, place.path home]
  let kinds ← paths.mapM fun path => return (path, ← kindOf path)
  return {
    home := home
    environment := ⟨fun name =>
      if Environment.isName name then (found.get? (String.ofList name)).map String.toList else none⟩
    settingsFile := ← fileContent (Settings.filePath home)
    kind := fun path => (kinds.lookup path).getD .absent }

def openJournal (surroundings : Program.Surroundings) : IO (List Journal.Entry → IO Unit) := do
  let home := surroundings.home
  let filter := Journal.Filter.ofEnvironment surroundings.environment
  match Journal.Place.firstFree? home surroundings.kind Journal.Place.all with
  | none => return fun _ => return
  | some (place, obstacles) =>
    IO.FS.createDirAll (String.ofList (place.directory home))
    let file ← IO.FS.Handle.mk (String.ofList (place.path home)) .append
    let tell (entries : List Journal.Entry) : IO Unit := do
      for entry in entries.filter filter.admits do
        let now := Std.Time.PlainDateTime.ofWallTime ((← Std.Time.Timestamp.now).toWallTime .zero)
        let time := now.format "uuuu-MM-dd'T'HH:mm:ss.SSSSSS'Z'"
        file.putStrLn (time ++ " " ++ String.ofList entry.line)
      file.flush
    tell (.opened (place.path home) :: obstacles.map .hindered)
    return tell

/-! ### Connections -/

def addressOf (authority : Authority) : Async (Option SocketAddress) := do
  let name := match authority.host with
    | .ipv6 pieces => Host.ipv6Text pieces
    | host => host.toText
  let port := (authority.port.getD 80).toUInt16
  let addresses ← DNS.getAddrInfo (String.ofList name) (toString port)
  return addresses[0]?.map fun
    | .v4 address => .v4 ⟨address, port⟩
    | .v6 address => .v6 ⟨address, port⟩

partial def receiveAll (client : TCP.Socket.Client) (received : ByteArray) : Async ByteArray := do
  match ← (try client.recv? 65536 catch _ => pure none) with
  | none => return received
  | some bytes => if bytes.isEmpty then return received else receiveAll client (received ++ bytes)

def connect (address : SocketAddress) (seconds : Nat) : Async (Option TCP.Socket.Client) := do
  let client ← TCP.Socket.Client.mk
  let connected : Async Bool := do
    client.connect address
    return true
  let late : Async Bool := do
    Std.Async.sleep (.ofNat (1000 * seconds))
    return false
  return if ← Async.race connected late then some client else none

def post (setup : Program.Setup) (attempt : Attempt) : IO Delivery := do
  let url := setup.endpoint.url
  let some authority := url.authority | return .lost
  if url.scheme ≠ "http".toList then return .lost
  let request := setup.endpoint.request attempt.email attempt.password
  let bytes := request.encode authority.serverName
  try
    Async.block do
      let some address ← addressOf authority | return .lost
      let some client ← connect address setup.connectTimeout | return .lost
      client.send (ByteArray.mk bytes.toArray)
      return .ofBytes (← receiveAll client .empty).toList
  catch _ => return .lost

/-! ### Line mode -/

partial def readLines (count : Nat) (read : ByteArray) : IO ByteArray := do
  if count = 0 then return read
  let next ← (← IO.getStdin).read 1
  if next.isEmpty then return read
  readLines (if next[0]? = some 0x0A then count - 1 else count) (read ++ next)

def runLines (setup : Program.Setup) (tell : List Journal.Entry → IO Unit) : IO UInt32 := do
  let input := (← readLines (if setup.email.isSome then 1 else 2) .empty).toList
  let report (delivery : Delivery) : LineMode.Report :=
    LineMode.run setup.email setup.title input false false fun _ => setup.endpoint.answer delivery
  -- Whether the service is called does not depend on its answer.
  let delivery ← match (report .lost).call with
    | none => pure .lost
    | some attempt => post setup attempt
  let report := Program.ofLines setup.endpoint delivery (report delivery)
  tell report.entries
  say report.output
  complain report.errors
  return report.exitStatus.toUInt32

/-! ### Form mode -/

structure Keyboard where
  bytes : ByteArray
  ended : Bool
  closed : Bool

partial def listen (keyboard : IO.Ref Keyboard) : IO Unit := do
  let next ← (← IO.getStdin).read 1
  if next.isEmpty then keyboard.modify fun heard => { heard with ended := true }
  else
    keyboard.modify fun heard => { heard with bytes := heard.bytes ++ next }
    if !(← keyboard.get).closed then listen keyboard

/-- Stop listening. Only a byte wakes the listener, so the terminal is asked for its status. -/
def hangUp (keyboard : IO.Ref Keyboard) : IO Unit := do
  keyboard.modify fun heard => { heard with closed := true }
  if !(← keyboard.get).ended then say Terminal.askStatus

structure Call where
  number : Nat
  task : Task (Except IO.Error Delivery)

def Call.delivery? (call : Call) : IO (Option (Nat × Delivery)) := do
  if ← IO.hasFinished call.task then
    return some (call.number, match call.task.get with
      | .ok delivery => delivery
      | .error _ => .lost)
  return none

def screenSize (environment : Environment) : Nat × Nat :=
  let size (name : String) (usual : Nat) : Nat :=
    ((environment.get? name.toList).bind (Text.number? 10)).getD usual
  (size "COLUMNS" 80, size "LINES" 24)

def frameTime : UInt32 := 16

partial def runFrames (surroundings : Program.Surroundings) (setup : Program.Setup)
    (tell : List Journal.Entry → IO Unit) (keyboard : IO.Ref Keyboard) (calls : List Call) (tick : Nat)
    (state : FormMode.State) : IO FormMode.State := do
  IO.sleep frameTime
  let heard ← keyboard.modifyGet fun heard => (heard, { heard with bytes := .empty })
  let deliveries := (← calls.mapM Call.delivery?).filterMap id
  let next := state.frame setup.endpoint heard.bytes.toList deliveries
  tell (next.entries.drop state.entries.length)
  let started ← ((next.session.calls.zipIdx).drop state.session.calls.length).mapM fun (attempt, number) =>
    return Call.mk number (← IO.asTask (post setup attempt) .dedicated)
  if next.session.quitting || (heard.ended && heard.bytes.isEmpty) then return next
  let (width, height) := screenSize surroundings.environment
  say ((next.session.draw width height tick).paint .standard)
  let calls := calls.filter fun call => !deliveries.any fun (number, _) => number = call.number
  runFrames surroundings setup tell keyboard (calls ++ started) (tick + 1) next

def runForm (surroundings : Program.Surroundings) (setup : Program.Setup)
    (tell : List Journal.Entry → IO Unit) : IO UInt32 := do
  let keyboard ← IO.mkRef ⟨.empty, false, false⟩
  say Terminal.opening
  let _ ← IO.asTask (listen keyboard) .dedicated
  let state ← try
      runFrames surroundings setup tell keyboard [] 1 (.start setup.session)
    finally
      hangUp keyboard
      say (Terminal.leaveScreen ++ Terminal.closing)
  let report := Program.ofForm setup.endpoint state
  say report.output
  return report.exitStatus.toUInt32

def run (arguments : List Text) : IO UInt32 := do
  match Arguments.read arguments with
  | .error interruption =>
    say interruption.output
    complain interruption.errors
    return interruption.exitStatus.toUInt32
  | .ok arguments =>
    let surroundings ← findSurroundings
    let tell ← openJournal surroundings
    let preparation := Program.prepare surroundings arguments
    complain preparation.warning
    tell preparation.entries
    match preparation.setup with
    | .error error =>
      complain (Program.errorText error.messages)
      return 1
    | .ok setup =>
      if arguments.plain then runLines setup tell else runForm surroundings setup tell

end Console

end TerminalSignIn

def main (arguments : List String) : IO UInt32 :=
  TerminalSignIn.Console.run (arguments.map String.toList)
