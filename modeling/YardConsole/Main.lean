import Std.Async.DNS
import Std.Async.TCP
import YardConsole.Http.Message
import YardConsole.Shell.Launch

/-! # The program on a terminal -/

namespace YardConsole.Terminal

open Std.Async

/-! ## Requests -/

/-- Receives until the other side closes. -/
partial def receiveAll (socket : TCP.Socket.Client) (received : ByteArray) : Async ByteArray := do
  match ← socket.recv? 65536 with
  | some bytes => if bytes.isEmpty then return received else receiveAll socket (received ++ bytes)
  | none => return received

def socketAddress (ip : Std.Net.IPAddr) (port : Nat) : Std.Net.SocketAddress :=
  match ip with
  | .v4 addr => .v4 ⟨addr, port.toUInt16⟩
  | .v6 addr => .v6 ⟨addr, port.toUInt16⟩

def sendAndReceive (a : Http.Address) (request : ByteArray) : Async ByteArray := do
  let addresses ← DNS.getAddrInfo a.host (toString a.port)
  match addresses[0]? with
  | none => throw (IO.userError "host not found")
  | some ip =>
    let socket ← TCP.Socket.Client.mk
    socket.connect (socketAddress ip a.port)
    socket.send request
    receiveAll socket .empty

def deliver (p : Post) : IO Delivery := do
  match Http.Address.ofUrl? p.url with
  | none => return .unreachable "builder error"
  | some a =>
    try
      let bytes ← (sendAndReceive a (Http.requestBytes a p.body)).block
      return Http.deliveryOf bytes.toList
    catch e => return .unreachable (toString e)

/-! ## Jobs -/

def perform : Job α → IO α
  | .done a => return a
  | .say text next => do
    let out ← IO.getStdout
    out.putStr text
    out.flush
    perform next
  | .post p next => do perform (next (← deliver p))

/-- The chat, line by line as they are typed. -/
partial def chat (c : Console) : IO Unit := do
  perform (.say Shell.chatPrompt (.done ()))
  let line ← (← IO.getStdin).getLine
  if line.isEmpty || Shell.isFarewell line then return
  chat (← perform (Shell.answerLine c line))

/-! ## The file -/

def configDirectory? : IO (Option String) := do
  let own := (← IO.getEnv "XDG_CONFIG_HOME").filter (·.startsWith "/")
  let home := (← IO.getEnv "HOME").map (· ++ "/.config")
  return (own.or home).map (· ++ "/moussaillon")

def fileName (directory : String) : String := directory ++ "/config.json"

def readConfig (directory : String) : IO (Option ByteArray) := do
  try return some (← IO.FS.readBinFile (fileName directory))
  catch
    | .noFileOrDirectory .. => return none
    | e => throw e

def writeConfig (directory : String) (bytes : ByteArray) : IO Unit := do
  IO.FS.createDirAll directory
  IO.FS.writeBinFile (fileName directory) bytes

/-! ## The program -/

def finish (directory : String) (before : Option ByteArray) (ending : Shell.Ending) :
    IO UInt32 := do
  if ending.file != before then
    if let some bytes := ending.file then writeConfig directory bytes
  (← IO.getStderr).putStr ending.errors
  return ending.code.toUInt32

def runReady (directory : String) (before : Option ByteArray) (ready : Shell.Ready) :
    IO UInt32 := do
  match ready.command with
  | .chat =>
    chat (← perform (Shell.openChat ready))
    return 0
  | _ => finish directory before (← perform (Shell.perform ready [])).written

def runIn (directory : String) (args : List String) : IO UInt32 := do
  let file ← readConfig directory
  let environment := ⟨← IO.getEnv "MOUSSAILLON_URL", ← IO.getEnv "MOUSSAILLON_PROVIDER"⟩
  let launch : Shell.Launch := ⟨args, environment, file⟩
  match Shell.fileText file with
  | .error message => finish directory file (launch.unreadable message)
  | .ok text =>
    match Shell.start (launch.invocation text) with
    | .error exit => finish directory file exit.written
    | .ok ready => runReady directory file ready

def run (args : List String) : IO UInt32 := do
  match ← configDirectory? with
  | some directory => runIn directory args
  | none => finish "" none (Shell.failed none "Could not determine config directory").written

end YardConsole.Terminal

def main (args : List String) : IO UInt32 := YardConsole.Terminal.run args
