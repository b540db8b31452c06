import XianyuAdmin.Core.Procedure

/-!
# The SOCKS bridge

`SocksBridge._handle_client` reads a greeting and a request from the client, connects through
the upstream proxy and relays.  The client sends some bytes and then the end of its stream, and
reads what it is sent.
-/

namespace XianyuAdmin.Proxies

open Procedure

structure BridgeLibrary where
  /-- `str(ipaddress.ip_address(packed))`, of 4 or 16 bytes. -/
  ipText : List UInt8 → String
  /-- `host.decode("idna")`, or `none` for a `UnicodeError`. -/
  idna : List UInt8 → Option String
  /-- `Proxy.connect` and `open_connection` return. -/
  connects : String → ℕ → Bool

inductive BridgeError
  | incompleteRead
  | connectionError
  | unicodeError
  /-- What the connecting raises. -/
  | proxyError
  /-- What is read does not unpack. -/
  | valueError
  deriving DecidableEq, Repr

structure BridgeSession where
  /-- What the client has sent and the handler has not read. -/
  input : List UInt8
  /-- What the client is sent before the relay. -/
  written : List (List UInt8) := []
  connected : List (String × ℕ) := []
  relayed : Bool := false
  deriving DecidableEq

abbrev BridgeProcedure := Procedure BridgeSession BridgeError

variable (library : BridgeLibrary)

/-- `await reader.readexactly(count)` -/
def readexactly (count : ℕ) : BridgeProcedure (List UInt8) := do
  let session ← get
  if count ≤ session.input.length then
    set { session with input := session.input.drop count }
    pure (session.input.take count)
  else throw .incompleteRead

/-- `writer.write(data)` and `await writer.drain()` -/
def writeBytes (data : List UInt8) : BridgeProcedure Unit :=
  modify fun session => { session with written := session.written ++ [data] }

/-- The bytes of `_reply`. -/
def replyBytes (status : UInt8) : List UInt8 := [5, status, 0, 1, 0, 0, 0, 0, 0, 0]

/-- `_reply` -/
def socksReply (status : UInt8) : BridgeProcedure Unit := writeBytes (replyBytes status)

/-- `int.from_bytes(data, "big")` -/
def fromBigEndian (data : List UInt8) : ℕ :=
  data.foldl (fun value byte => value * 256 + byte.toNat) 0

/-- `host.decode("idna")` -/
def decodeHost (host : List UInt8) : BridgeProcedure String :=
  match library.idna host with
  | some name => pure name
  | none => throw .unicodeError

def readDestination (addressType : UInt8) : BridgeProcedure String := do
  if addressType = 1 then
    let packed ← readexactly 4
    pure (library.ipText packed)
  else if addressType = 3 then
    let length ← readexactly 1
    let host ← readexactly (fromBigEndian length)
    decodeHost library host
  else if addressType = 4 then
    let packed ← readexactly 16
    pure (library.ipText packed)
  else throw .connectionError

/-- `Proxy.connect(destination, port)` and `open_connection` -/
def connectUpstream (destination : String) (port : ℕ) : BridgeProcedure Unit := do
  modify fun session => { session with connected := session.connected ++ [(destination, port)] }
  if library.connects destination port then pure () else throw .proxyError

/-- The inner `try` of `_handle_client`; whether the handler goes on. -/
def tryConnect (destination : String) (port : ℕ) : BridgeProcedure Bool :=
  tryCatch
    (do
      connectUpstream library destination port
      pure true)
    fun _ => do
      socksReply 5
      pure false

def serveRequest : BridgeProcedure Unit := do
  match ← readexactly 4 with
  | [version, command, _, addressType] =>
      if version ≠ 5 ∨ command ≠ 1 then socksReply 7
      else
        let destination ← readDestination library addressType
        let port ← readexactly 2
        if ← tryConnect library destination (fromBigEndian port) then
          socksReply 0
          modify fun session => { session with relayed := true }
  | _ => throw .valueError

/-- The body of the outer `try` of `_handle_client`. -/
def serveClient : BridgeProcedure Unit := do
  match ← readexactly 2 with
  | [version, methodCount] =>
      if version ≠ 5 then pure ()
      else
        let methods ← readexactly methodCount.toNat
        if 0 ∈ methods then
          writeBytes [5, 0]
          serveRequest library
        else writeBytes [5, 255]
  | _ => throw .valueError

def handleClient : BridgeProcedure Unit :=
  tryCatch (serveClient library) fun error =>
    match error with
    | .incompleteRead | .connectionError => pure ()
    | .unicodeError | .proxyError | .valueError => throw error

def handled (stream : List UInt8) : BridgeSession :=
  (handleClient library).after { input := stream }

end XianyuAdmin.Proxies
