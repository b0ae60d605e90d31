/-
  WeblogDesk.Main

  The command line: reads the settings, talks to the server and the terminal.

  Only unencrypted connections are made here; a request for an encrypted one is
  lost.  Redirects are not followed, and hosts are named in ASCII.
-/

import Std.Async.DNS
import Std.Async.TCP
import WeblogDesk.Desk.Basic
import WeblogDesk.Http.Wire

namespace WeblogDesk
namespace Main

open Http
open Std.Net

/-! ## The network -/

/-- All that comes back before the connection ends or breaks. -/
partial def receive (socket : Std.Async.TCP.Socket.Client) (sofar : ByteArray) : IO ByteArray := do
  let more ← try (socket.recv? 65536).block catch _ => pure none
  match more with
  | none => return sofar
  | some bytes => if bytes.isEmpty then return sofar else receive socket (sofar ++ bytes)

/-- Sends the request to an address. -/
def exchangeWith (address : IPAddr) (port : UInt16) (r : Request) : IO Answer := do
  let socket ← Std.Async.TCP.Socket.Client.mk
  let target : SocketAddress :=
    match address with
    | .v4 a => .v4 ⟨a, port⟩
    | .v6 a => .v6 ⟨a, port⟩
  (socket.connect target).block
  (socket.send (Wire.requestBytes r)).block
  return Wire.readAnswer (← receive socket ByteArray.empty)

/-- The answer of the first address that can be reached. -/
def exchangeFirst (addresses : List IPAddr) (port : UInt16) (r : Request) : IO Answer := do
  for address in addresses do
    try
      return ← exchangeWith address port r
    catch _ => pure ()
  return .dropped

/-- Sends the request to its host. -/
def exchange (r : Request) : IO Answer := do
  match r.url.lead with
  | .authority a =>
    if r.url.scheme = ['h', 't', 't', 'p'] then
      let name := String.ofList (a.host.filter fun c => c != '[' && c != ']')
      try
        let addresses ← (Std.Async.DNS.getAddrInfo name "").block
        exchangeFirst addresses.toList (UInt16.ofNat (a.port.getD 80)) r
      catch _ => return .dropped
    else return .dropped
  | _ => return .dropped

/-- Holds a conversation over the network. -/
def converse {α : Type} : Conversation α → IO α
  | .done a => return a
  | .ask r next => do converse (next (← exchange r))

/-! ## The process -/

/-- The env file of the working directory, or of the nearest directory above that has one. -/
def envFile : IO (Option ByteArray) := do
  let depth := (← IO.currentDir).components.length
  for up in List.range depth do
    try
      return some (← IO.FS.readBinFile (String.join (List.replicate up "../") ++ ".env"))
    catch _ => pure ()
  return none

/-- The variables that settings may come from. -/
def settingNames : List String :=
  ["TB_BASE_URL", "TB_WEBLOG_ID", "TB_REFRESH_URL", "TB_SESSION_COOKIE", "TB_CONFIRM_LABEL",
    "TB_CANCEL_LABEL", "TB_LOG_LEVEL"]

/-- The words of a file, each of which may name a variable. -/
def wordsOf (file : ByteArray) : List String :=
  let isPart (c : Char) : Bool := Text.isAlphanumeric c || c == '_' || c == '.'
  ((String.ofList (Text.repair file.data.toList)).splitToList (!isPart ·)).filter (!·.isEmpty)

/-- The variables of the process among those named. -/
def environment (names : List String) : IO Environment := do
  let mut env : Environment := Dict.empty
  for name in names do
    match ← IO.getEnv name with
    | some value => env := env.insert name value
    | none => pure ()
  return env

/-- The bytes of standard input up to the end of its first line. -/
partial def readLine (input : IO.FS.Stream) (sofar : ByteArray) : IO ByteArray := do
  let more ← input.read 4096
  if more.isEmpty || more.data.contains 0x0A then return sofar ++ more
  readLine input (sofar ++ more)

/-- Writes a report and gives its exit code. -/
def tell (report : Report) : IO UInt32 := do
  IO.print report.out
  IO.eprint report.err
  return UInt32.ofNat report.exit

/-- Carries out the command that words give. -/
def run (words : List String) : IO UInt32 := do
  let file ← envFile
  let env ← environment (settingNames ++ file.elim [] wordsOf)
  match ← converse (Desk.start Url.Idna.asciiOnly (Settings.load env file) words) with
  | .finished report => tell report
  | .question prompt next =>
    IO.eprint prompt
    let input ← readLine (← IO.getStdin) ByteArray.empty
    tell (← converse (next (Desk.consents input.data.toList)))

end Main
end WeblogDesk

def main (words : List String) : IO UInt32 :=
  WeblogDesk.Main.run words
