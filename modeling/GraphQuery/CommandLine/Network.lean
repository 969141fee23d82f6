import GraphQuery.CommandLine.Run
import GraphQuery.Http.Wire
import Std.Async.DNS
import Std.Async.TCP
import Std.Async.Timer

/-
This file reads documents and delivers messages.
-/

namespace GraphQuery.CommandLine.Network

open Std.Async Std.Net

def socketAddress (port : UInt16) : IPAddr → SocketAddress
  | .v4 address => .v4 ⟨address, port⟩
  | .v6 address => .v6 ⟨address, port⟩

/-- All bytes until the other side closes the connection. -/
partial def receiveAll (socket : TCP.Socket.Client) (received : ByteArray) : Async ByteArray := do
  match ← socket.recv? 65536 with
  | none => return received
  | some bytes => receiveAll socket (received ++ bytes)

/-- Only plain connections are made. -/
def exchange (message : Http.Message) : Async Http.Delivery := do
  let some authority := message.url.authority | return .failed "the URL has no host"
  if message.url.scheme ≠ "http" then return .failed "only plain connections are available"
  let port := (authority.port.getD 80).toUInt16
  let host := String.ofList (authority.host.toList.filter fun char => char ≠ '[' ∧ char ≠ ']')
  let some address := (← DNS.getAddrInfo host "")[0]? | return .failed "the host is unknown"
  let socket ← TCP.Socket.Client.mk
  socket.connect (socketAddress port address)
  socket.send ⟨message.bytes.toArray⟩
  let received ← receiveAll socket .empty
  match Http.parseReply? received.toList with
  | some reply => return .answered reply
  | none => return .failed "the reply is incomplete"

/-- A message is given up once its time is over. -/
def timed (message : Http.Message) : Async Http.Delivery :=
  match message.timeout with
  | none => exchange message
  | some limit =>
    let expired : Async (Option Http.Delivery) := do
      sleep (.ofNat limit)
      return none
    do
      match ← Async.race (some <$> exchange message) expired with
      | some delivery => return delivery
      | none => return .failed "operation timed out"

def deliver (message : Http.Message) : IO Http.Delivery :=
  try (timed message).block catch problem => return .failed (toString problem)

/-- The number of a problem of the file system may come with its sign changed. -/
def problemNumber (number : UInt32) : String :=
  numberText (if number < 0x80000000 then number else 0 - number).toNat

def describedProblem (description : String) (number : UInt32) : String :=
  description ++ " (os error " ++ problemNumber number ++ ")"

def readProblem : IO.Error → String
  | .noFileOrDirectory _ number _ => describedProblem "No such file or directory" number
  | .permissionDenied _ number _ => describedProblem "Permission denied" number
  | .inappropriateType _ number _ => describedProblem "Is a directory" number
  | problem => toString problem

partial def readAll (stream : IO.FS.Stream) (read : ByteArray) : IO ByteArray := do
  let bytes ← stream.read 65536
  if bytes.isEmpty then return read else readAll stream (read ++ bytes)

def readSource : DocumentSource → IO ByteArray
  | .standardInput => do readAll (← IO.getStdin) .empty
  | .file path => IO.FS.readBinFile path

def readText (source : DocumentSource) : IO (Except String String) := do
  try
    match String.fromUTF8? (← readSource source) with
    | some text => return .ok text
    | none => return .error "stream did not contain valid UTF-8"
  catch problem => return .error (readProblem problem)

def surroundings : Surroundings IO := ⟨readText, deliver⟩

end GraphQuery.CommandLine.Network
