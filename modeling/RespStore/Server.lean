import RespStore.Address
import RespStore.Network
import RespStore.Registry
import RespStore.Service
import RespStore.Settings.Basic

/-!
# Servers

A server with its clients in memory. Each client is a connection of one service, under the same
number in the registry; what a client writes reaches its connection in pieces of the read buffer's
size, and what the connection writes waits at the client until it is read.
-/

set_option autoImplicit false

namespace RespStore

namespace Server

/-- The client's side of a connection: replies that it has not read, and whether more can come. -/
structure Client where
  unread : Bytes
  ended : Bool
  deriving DecidableEq, Repr

inductive StartError where
  | address (fault : Address.Fault)
  | listen (error : Network.ListenError)
  deriving DecidableEq, Repr

def StartError.message : StartError → String
  | .address fault => fault.message
  | .listen error => error.message

end Server

structure Server where
  network : Network
  address : Address
  readBuffer : Nat
  shutdownPasses : Nat
  running : Bool
  service : Service
  registry : Registry
  clients : List Server.Client

namespace Server

open Connection (Event Request)

def start (network : Network) (settings : Settings) : Except StartError Server :=
  match Address.parse settings.address with
  | .error fault => .error (.address fault)
  | .ok address =>
    match network.listen address.host with
    | .error error => .error (.listen error)
    | .ok () =>
      .ok {
        network := network
        address := address
        readBuffer := settings.readBuffer.toNat
        shutdownPasses := settings.shutdownPasses.toNat
        running := true
        service := Service.fresh settings.limits Store.empty
        registry := Registry.empty
        clients := [] }

/-- Whether a second server can listen on this server's address: not while this one does. -/
def bindAgain (server : Server) : Except Network.ListenError Unit :=
  if server.running then .error .inUse else .ok ()

def count (server : Server) : Nat := server.registry.count

def store (server : Server) : Store := server.service.store

def withStore (server : Server) (store : Store) : Server :=
  { server with service := { server.service with store := store } }

def client? (server : Server) (number : Nat) : Option Client := server.clients[number]?

def putClient (server : Server) (number : Nat) (client : Client) : Server :=
  { server with clients := server.clients.set number client }

def connect (server : Server) : Except Network.ConnectError (Nat × Server) :=
  match server.network.reach server.address.host with
  | .error error => .error error
  | .ok () =>
    if server.running then
      .ok (server.clients.length, { server with
        registry := server.registry.register server.clients.length
        clients := server.clients ++ [⟨[], false⟩] })
    else .error .refused

/-- Lets an event reach a client's connection, and carries out what it wants next. -/
def deliver (server : Server) (number : Nat) (event : Event) : Request × Server :=
  match server.service.step number event with
  | (turn, service) =>
    let server := { server with
      service := service
      registry := if turn.leaves then (server.registry.leave number).2 else server.registry }
    match turn.request, server.client? number with
    | .write bytes, some client =>
      (turn.request, server.putClient number { client with unread := client.unread ++ bytes })
    | .stop, some client => (turn.request, server.putClient number { client with ended := true })
    | _, _ => (turn.request, server)

def releaseWaiting (server : Server) : Server :=
  { server with registry := server.registry.drain.2 }

/-- Lets an event reach a connection; if it writes, the write is completed. -/
def complete (server : Server) (number : Nat) (event : Event) : Server :=
  match server.deliver number event with
  | (.write _, next) => (next.deliver number .sent).2.releaseWaiting
  | (_, next) => next.releaseWaiting

/-- Lets pieces of input reach a connection one by one, until it has ended. -/
def receive (server : Server) (number : Nat) : List Bytes → Server
  | [] => server
  | piece :: rest =>
    match server.client? number with
    | some ⟨_, false⟩ => (server.complete number (.received piece)).receive number rest
    | _ => server

/-- Takes what a client has to read, at most `size` bytes, and says whether the stream ended
before there were as many. -/
def read (server : Server) (number size : Nat) : Bytes × Bool × Server :=
  match server.client? number with
  | none => ([], false, server)
  | some client =>
    (client.unread.take size, client.unread.length < size && client.ended,
      server.putClient number { client with unread := client.unread.drop size })

/-- A client writes bytes and then reads `size` bytes, or what comes before the stream ends. -/
def send (server : Server) (number : Nat) (bytes : Bytes) (size : Nat) : Bytes × Bool × Server :=
  (server.receive number (Bytes.pieces server.readBuffer bytes)).read number size

/-- The input of a client ends: its connection meets the end of the stream. -/
def finishInput (server : Server) (number : Nat) : Server :=
  server.receive number [[]]

def readToEnd (server : Server) (number : Nat) : Bytes × Server :=
  match server.client? number with
  | none => ([], server)
  | some client => (client.unread, server.putClient number { client with unread := [] })

def finish (server : Server) (number : Nat) : Bytes × Server :=
  (server.finishInput number).readToEnd number

def drop (server : Server) (number : Nat) : Server :=
  ((server.finishInput number).readToEnd number).2

def finishAll (server : Server) : List Nat → Server
  | [] => server
  | number :: rest => (server.finishInput number).finishAll rest

/-- Stops listening, lets every connection end, and empties the registry. -/
def close (server : Server) : Server :=
  if server.running then
    let numbers := List.range server.clients.length
    let passes := if server.shutdownPasses = 0 then [] else [numbers.map Registry.Event.leave]
    { server.finishAll numbers with
      running := false
      registry := (server.registry.run (Registry.shutdown passes)).2 }
  else server

end Server

end RespStore
