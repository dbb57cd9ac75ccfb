import SsP2p.Ice.SoundIceExchange
import SsP2p.Kademlia.DhtGrowth
import SsP2p.Kademlia.SoundExchange
import SsP2p.Net.NodeController
import SsP2p.Net.Peer
import SsP2p.Net.UdpServer

/-!
# The node in its event loop

`NodeLoop` is a whole `node_controller`: the Kademlia layer and the ICE agent in one event
loop, the message pool, and the peers of the application.  The Kademlia layer sends its
requests by `signaling_send` of the ICE agent and its answers by itself.  No message arrives
before `start`.  After `stop` the event loop runs nothing any more, and an exception that
leaves it ends the node.
-/

namespace SsP2p.Net

open Ice Kademlia

/-- `node_controller` with its event loop. -/
structure NodeLoop (platform : Platform) where
  dht : MaintainedDht
  ice : IceLoop
  msgPool : MessagePool platform
  peers : List Peer
  /-- The answers of the Kademlia layer. -/
  answers : List Outgoing
  /-- What the application has passed to `peer::send`. -/
  given : List (Endpoint × String)
  /-- What `peer::receive` has returned. -/
  returned : List SsMessage
  /-- The UDP server receives. -/
  isStarted : Bool
  isStopped : Bool
  isCrashed : Bool

namespace NodeLoop

/-- What the event loop runs, apart from the arrival of messages; callbacks bring the ids
that are drawn in the two layers. -/
inductive LoopEvent where
  /-- A timer of the Kademlia layer runs out. -/
  | expireDht (position : ℕ)
  | runDht (position : ℕ) (id : Uuid) (drawn : List Uuid)
  /-- The timer of the maintainer runs out. -/
  | expireMaintainer (position : ℕ)
  | runMaintainer (position : ℕ) (ids drawn : List Uuid)
  /-- A timer of the ICE agent runs out. -/
  | expireIce (position : ℕ)
  | runIce (position : ℕ)
  /-- `refresh_tick` of the observer storage of the ICE agent. -/
  | refreshIce
  /-- `refresh_tick` of the message pool. -/
  | refreshPool
  | tick (id : Uuid)

/-- What the application calls, and the event loop. -/
inductive Event where
  | start (bootEps : List Endpoint) (ids drawn : List Uuid) (id : Uuid)
  | stop
  | syncGetGlobalAddress (bootEps : List Endpoint) (id : Uuid)
  | updateGlobalSelfEndpoint (ep : Endpoint)
  /-- `auto_update` of the routing table controller. -/
  | autoUpdate (ep : Endpoint)
  /-- `auto_update_batch` of the routing table controller. -/
  | autoUpdateBatch (eps : List Endpoint)
  | hubStart
  | hubStop
  /-- `get_peer` or `get_peer_ref`. -/
  | getPeer (ep : Endpoint)
  /-- `send` of the peer at this position. -/
  | send (position : ℕ) (text : String) (id : Uuid)
  /-- `receive` of the peer at this position. -/
  | receive (position : ℕ) (timeout : ℤ)
  | advance (seconds : ℕ)
  | serve (event : LoopEvent)

variable (platform : Platform)

def make (ep : Endpoint) (now : ℕ) : NodeLoop platform where
  dht := .make platform ep now
  ice := .start ep (.empty (calcNodeId platform ep)) now
  msgPool := .empty
  peers := []
  answers := []
  given := []
  returned := []
  isStarted := false
  isStopped := false
  isCrashed := false

def signal (id : Uuid) (request : Outgoing) (ice : IceLoop) : Option IceLoop :=
  (request.msg.getParam "kademlia").bind fun payload =>
    ice.step platform (.signalingSend id request.dest "kademlia" payload)

variable {platform}

def sent (node : NodeLoop platform) : List Outgoing := node.answers ++ node.ice.io.sent

def issued (node : NodeLoop platform) : List Uuid :=
  node.dht.loop.issued ++ node.ice.issued

def sentSince (dht next : MaintainedDht) : List Outgoing :=
  next.loop.io.sent.drop dht.loop.io.sent.length

/-- A step of the Kademlia layer; the requests that it sends draw ids in the ICE agent. -/
def kademlia (node : NodeLoop platform) (event : MaintainedDht.Event) (drawn : List Uuid) :
    Option (NodeLoop platform) :=
  (node.dht.step platform event).bind fun dht =>
    (Supply.forEach (signal platform) (sentSince node.dht dht) drawn
      { node.ice with table := dht.loop.table }).map fun rest =>
        { node with dht := dht, ice := rest.1 }

def iceAgent (node : NodeLoop platform) (event : IceLoop.Event) :
    Option (NodeLoop platform) :=
  (node.ice.step platform event).map fun ice => { node with ice := ice }

/-- Both layers are told an endpoint. -/
def updateGlobalSelfEndpoint (node : NodeLoop platform) (ep : Endpoint) :
    Option (NodeLoop platform) :=
  (node.iceAgent (.updateGlobalSelfEndpoint ep)).bind
    (·.kademlia (.updateGlobalSelfEndpoint ep) [])

/-- A callback of the ICE agent is run; the handler of `start` and `tick` tells both layers
the endpoint. -/
def runIce (node : NodeLoop platform) (position : ℕ) : Option (NodeLoop platform) :=
  (node.ice.io.take position).bind fun taken =>
    (node.iceAgent (.run position)).bind fun node =>
      match taken.1 with
      | .srHandler _ (some ep) => node.kademlia (.updateGlobalSelfEndpoint ep) []
      | _ => some node

/-- `tick`: the `binding_request` has its default arguments. -/
def tick (node : NodeLoop platform) (id : Uuid) : Option (NodeLoop platform) :=
  node.iceAgent (.bindingRequest id [] 3 true)

def serve (node : NodeLoop platform) : LoopEvent → Option (NodeLoop platform)
  | .expireDht position => node.kademlia (.expire position) []
  | .runDht position id drawn => node.kademlia (.run position id) drawn
  | .expireMaintainer position => node.kademlia (.expireTimer position) []
  | .runMaintainer position ids drawn => node.kademlia (.runTask position ids) drawn
  | .expireIce position => node.iceAgent (.expire position)
  | .runIce position => node.runIce position
  | .refreshIce => node.iceAgent .refreshTick
  | .refreshPool => some { node with msgPool := node.msgPool.refreshTick node.dht.now }
  | .tick id => node.tick id

def send (node : NodeLoop platform) (ep : Endpoint) (text : String) (id : Uuid) :
    Option (NodeLoop platform) :=
  ({ node with given := node.given ++ [(ep, text)] } : NodeLoop platform).iceAgent
    (.signalingSend id ep "messenger" (.string text))

/-- `peer::receive`; a call that does not return is no step. -/
def receive (node : NodeLoop platform) (position : ℕ) (peer : Peer) (timeout : ℤ) :
    Option (NodeLoop platform) :=
  match peer.receive timeout with
  | (.returned _ msg, peer) => some
      { node with peers := node.peers.set position peer, returned := node.returned ++ [msg] }
  | _ => none

def startServer (node : NodeLoop platform) : NodeLoop platform :=
  { node with isStarted := true }

/-- What an event does to a node that still runs. -/
def act (node : NodeLoop platform) : Event → Option (NodeLoop platform)
  | .start bootEps ids drawn id =>
      (node.startServer.kademlia (.start ids) drawn).bind
        (·.iceAgent (.bindingRequest id bootEps 3 true))
  | .stop => some { node with dht := node.dht.stop, isStopped := true }
  | .syncGetGlobalAddress bootEps id => node.iceAgent (.bindingRequest id bootEps 3 false)
  | .updateGlobalSelfEndpoint ep => node.updateGlobalSelfEndpoint ep
  | .autoUpdate ep => node.kademlia (.autoUpdate ep) []
  | .autoUpdateBatch eps => node.kademlia (.autoUpdateBatch eps) []
  | .hubStart => some { node with msgPool := node.msgPool.hubStart }
  | .hubStop => some { node with msgPool := node.msgPool.hubStop }
  | .getPeer ep => some { node with peers := node.peers ++ [.ofPool node.msgPool ep] }
  | .send position text id =>
      node.peers[position]?.bind fun peer => node.send peer.ep text id
  | .receive position timeout =>
      node.peers[position]?.bind fun peer => node.receive position peer timeout
  | .advance seconds =>
      (node.kademlia (.advance seconds) []).bind (·.iceAgent (.advance seconds))
  | .serve event => if node.isStopped then none else node.serve event

def step (node : NodeLoop platform) (event : Event) : Option (NodeLoop platform) :=
  if node.isCrashed then none else node.act event

/-! ## The arrival of a message -/

/-- The part of `on_receive_packet` for `"kademlia"`. -/
def incomeKademlia (msg : Message) (ep : Endpoint) (node : NodeLoop platform) :
    NodeLoop platform :=
  let dht := (node.dht.step platform (.receive msg ep)).getD node.dht
  { node with
    dht := dht
    ice := { node.ice with table := dht.loop.table }
    answers := node.answers ++ sentSince node.dht dht
    isCrashed := (node.dht.loop.step platform (.receive msg ep)).isNone }

/-- The part of `on_receive_packet` for `"ice_agent"`. -/
def incomeIceAgent (draws : Draws) (msg : Message) (ep : Endpoint)
    (node : NodeLoop platform) : NodeLoop platform :=
  match node.ice.receive platform draws.observerId msg ep with
  | none => { node with isCrashed := true }
  | some ice => { node with ice := ice }

/-- The store: `flag` is 1 unless the ICE agent was asked, which returns 0. -/
def storeMessage (draws : Draws) (msg : Message) (ep : Endpoint)
    (node : NodeLoop platform) : NodeLoop platform :=
  if msg.isContainParam "ice_agent" then node
  else
    match node.msgPool.store node.dht.now draws.messageId draws.usage msg ep with
    | .error _ => { node with isCrashed := true }
    | .ok msgPool => { node with msgPool := msgPool }

/-- Run the next part of the handler, unless the one before has raised. -/
def andThen (part : NodeLoop platform → NodeLoop platform) (node : NodeLoop platform) :
    NodeLoop platform :=
  if node.isCrashed then node else part node

def onReceivePacket (node : NodeLoop platform) (draws : Draws) (raw : List UInt8)
    (ep : Endpoint) : NodeLoop platform :=
  match Message.decode platform raw with
  | .error _ => { node with isCrashed := true }
  | .ok msg =>
      andThen (storeMessage draws msg ep)
        (andThen (incomeIceAgent draws msg ep) (node.incomeKademlia msg ep))

/-- A datagram arrives while the event loop runs, and the handler is given the endpoint `ep`;
the id that a new observer draws is new. -/
def arrive (node : NodeLoop platform) (draws : Draws) (datagram : Datagram) (ep : Endpoint) :
    Option (NodeLoop platform) :=
  if node.isCrashed ∨ ¬ node.isStarted ∨ node.isStopped ∨
      draws.observerId ∈ node.ice.issued then none
  else some (node.onReceivePacket draws datagram.payload ep)

end NodeLoop

end SsP2p.Net
