import SsP2p.Kademlia.BucketIterator
import SsP2p.Kademlia.DhtLoop
import SsP2p.Lib.Supply

/-!
# The connection maintainer

`connection_maintainer` pings every stored node, deletes the ones that do not answer
and, while it knows few nodes, asks the known ones for more.  `MaintainedDht` is a DHT
manager in its event loop with the maintainer and the timer that drives it.
-/

namespace SsP2p.Kademlia

abbrev minimumNodes : ℕ := 5

namespace DhtLoop

variable (platform : Platform)

/-- The refresh ping of one node: its handlers work on the bucket it was found in. -/
def refreshPing (id : Uuid) (entry : Fin kBucketCount × KNode) (loop : DhtLoop) :
    Option DhtLoop :=
  loop.pingRequest platform id entry.2.ep (.moveBack entry.1 entry.2)
    (.deleteNode entry.1 entry.2)

/-- The loop of `send_refresh_ping` from an iterator on, with the ids that the observers
draw. -/
def refreshFrom : ℕ → KBucketIterator → List Uuid → DhtLoop →
    Option (DhtLoop × List Uuid)
  | 0, _, _, _ => none
  | fuel + 1, itr, ids, loop =>
      if itr.isInvalid then some (loop, ids)
      else
        match itr.getRaw with
        | none => none
        | some index =>
            let bucketNodes := (loop.table.bucketAt index).getNodes
            (Supply.forEach (refreshPing platform) (bucketNodes.map (index, ·)) ids
              loop).bind fun rest =>
                refreshFrom fuel itr.increment rest.2 rest.1

def sendRefreshPing (loop : DhtLoop) (ids : List Uuid) :
    Option (DhtLoop × List Uuid) :=
  refreshFrom platform (kBucketCount + 1) KRoutingTable.getBeginBucketIterator ids loop

/-- The `for` loop of `get_remote_nodes`. -/
def findNodeFrom (requestEps : List Endpoint) (ids : List Uuid) (loop : DhtLoop) :
    Option (DhtLoop × List Uuid) :=
  Supply.forEach (fun id ep (loop : DhtLoop) =>
    loop.findNodeRequest platform id ep requestEps .pingFound) requestEps ids loop

variable {platform}

theorem table_pingRequest {loop next : DhtLoop} {id : Uuid} {ep : Endpoint}
    {pongHandler timeoutHandler : Handler}
    (hrequest : loop.pingRequest platform id ep pongHandler timeoutHandler = some next) :
    next.table = loop.table := by
  obtain ⟨-, payload, rfl⟩ := pingRequest_eq_some platform hrequest
  rfl

/-- Pinging the nodes leaves the table alone. -/
theorem table_forEach_refreshPing {entries : List (Fin kBucketCount × KNode)}
    {ids rest : List Uuid} {loop last : DhtLoop}
    (heach : Supply.forEach (refreshPing platform) entries ids loop = some (last, rest)) :
    last.table = loop.table :=
  Supply.invariant_of_forEach (fun state => state.table = loop.table)
    (fun _ _ _ _ _ htable hping => (table_pingRequest hping).trans htable) rfl heach

theorem refreshFrom_of_isInvalid {itr : KBucketIterator} (hinvalid : itr.isInvalid = true)
    (fuel : ℕ) (ids : List Uuid) (loop : DhtLoop) :
    refreshFrom platform (fuel + 1) itr ids loop = some (loop, ids) := by
  rw [refreshFrom, if_pos hinvalid]

theorem refreshFrom_of_lt {position : ℕ} (hposition : position < kBucketCount)
    (fuel : ℕ) (ids : List Uuid) (loop : DhtLoop) :
    refreshFrom platform (fuel + 1) (.ofPosition position) ids loop =
      (Supply.forEach (refreshPing platform)
        ((loop.table.bucketAt ⟨position, hposition⟩).getNodes.map (⟨position, hposition⟩, ·))
          ids loop).bind fun rest =>
            refreshFrom platform fuel (KBucketIterator.ofPosition position).increment rest.2
              rest.1 := by
  have hvalid : ¬ (KBucketIterator.ofPosition position).isInvalid = true := by
    rw [KBucketIterator.isInvalid_ofPosition]
    exact Nat.not_le_of_lt hposition
  rw [refreshFrom, if_neg hvalid, KBucketIterator.getRaw_ofPosition hposition]

/-- With enough rounds the loop pings every node from a position on. -/
theorem refreshFrom_eq {rounds position : ℕ} (hrounds : rounds + position = kBucketCount)
    (hpositive : 0 < rounds) (ids : List Uuid) (loop : DhtLoop) :
    refreshFrom platform (rounds + 1) (.ofPosition position) ids loop =
      Supply.forEach (refreshPing platform) (loop.table.entriesFrom position) ids loop := by
  induction rounds generalizing position ids loop with
  | zero => exact absurd hpositive (lt_irrefl 0)
  | succ rounds ih =>
      have hposition : position < kBucketCount := by omega
      rw [refreshFrom_of_lt hposition, KRoutingTable.entriesFrom_of_lt _ hposition,
        Supply.forEach_append]
      apply Option.bind_congr
      intro rest heach
      have htable : rest.1.table = loop.table := table_forEach_refreshPing heach
      rw [← htable]
      by_cases hnext : position + 1 < kBucketCount
      · rw [KBucketIterator.increment_ofPosition hnext]
        exact ih (by omega) (by omega) rest.2 rest.1
      · obtain rfl : position = kBucketCount - 1 := by omega
        rw [refreshFrom_of_isInvalid KBucketIterator.isInvalid_increment_last,
          KRoutingTable.entriesFrom_of_ge _ (by omega)]
        rfl

/-- `send_refresh_ping` pings every stored node once, bucket by bucket. -/
theorem sendRefreshPing_eq (ids : List Uuid) (loop : DhtLoop) :
    loop.sendRefreshPing platform ids =
      Supply.forEach (refreshPing platform) (loop.table.entriesFrom 0) ids loop :=
  refreshFrom_eq (Nat.add_zero _) (by decide) ids loop

end DhtLoop

inductive MaintainerTask where
  | tick
  | getRemoteNodes
  deriving DecidableEq

/-- A message that arrived, its source and what the node had sent until then. -/
structure Arrival where
  msg : Message
  ep : Endpoint
  sentBefore : List Outgoing

/-- A `dht_manager` with its `connection_maintainer`; the endpoints that the application
passed in and the messages that arrived are noted. -/
structure MaintainedDht where
  loop : DhtLoop
  /-- `_requires_tick`. -/
  requiresTick : Bool
  /-- The waits of `_timer`. -/
  waits : List (ℕ × MaintainerTask)
  /-- The waits of `_timer` that are over. -/
  ready : List MaintainerTask
  applied : List Endpoint
  arrivals : List Arrival

namespace MaintainedDht

variable (platform : Platform)

def make (ep : Endpoint) (now : ℕ) : MaintainedDht :=
  ⟨.start platform ep now, false, [], [], [], []⟩

/-- `expires_from_now` cancels the pending wait, whose handler takes no error code, and
`async_wait` adds the new one. -/
def setTimer (dht : MaintainedDht) (delay : ℕ) (task : MaintainerTask) :
    MaintainedDht :=
  { dht with
    ready := dht.ready ++ dht.waits.map Prod.snd
    waits := [(dht.loop.io.now + delay, task)] }

def tick (dht : MaintainedDht) (ids : List Uuid) : Option MaintainedDht :=
  if dht.requiresTick then
    (dht.loop.sendRefreshPing platform ids).map fun rest =>
      ({ dht with loop := rest.1 } : MaintainedDht).setTimer
        (defaultPingResponseTimeout + 1) .getRemoteNodes
  else some dht

def tickDone (dht : MaintainedDht) : MaintainedDht :=
  let nodeCount := dht.loop.table.getNodeCount
  let nextTickTime := if nodeCount < minimumNodes then 10 else nodeCount * 20
  if dht.requiresTick then dht.setTimer nextTickTime .tick else dht

def getRemoteNodes (dht : MaintainedDht) (ids : List Uuid) : Option MaintainedDht :=
  if dht.loop.table.getNodeCount < minimumNodes then
    let requestEps := dht.loop.table.collectEndpoint platform .unspecified 5 []
    (dht.loop.findNodeFrom platform requestEps ids).map fun rest =>
      ({ dht with loop := rest.1 } : MaintainedDht).tickDone
  else some dht.tickDone

def startTicks (dht : MaintainedDht) (ids : List Uuid) : Option MaintainedDht :=
  ({ dht with requiresTick := true } : MaintainedDht).tick platform ids

def stop (dht : MaintainedDht) : MaintainedDht :=
  { dht with requiresTick := false }

/-- What can happen; a task and a callback bring the ids that the requests they send
draw. -/
inductive Event where
  | receive (msg : Message) (ep : Endpoint)
  /-- The application calls `auto_update`. -/
  | autoUpdate (ep : Endpoint)
  /-- The application calls `auto_update_batch`. -/
  | autoUpdateBatch (eps : List Endpoint)
  | updateGlobalSelfEndpoint (ep : Endpoint)
  | start (ids : List Uuid)
  | stop
  | advance (seconds : ℕ)
  /-- A timer of the event loop runs out, among them the ones of the pings. -/
  | expire (position : ℕ)
  /-- A callback of the event loop is run. -/
  | run (position : ℕ) (id : Uuid)
  /-- The timer of the maintainer runs out. -/
  | expireTimer (position : ℕ)
  | runTask (position : ℕ) (ids : List Uuid)

def loopStep (dht : MaintainedDht) (event : DhtLoop.Event) : Option MaintainedDht :=
  (dht.loop.step platform event).map fun loop => { dht with loop := loop }

theorem loopStep_eq_some {dht next : MaintainedDht} {event : DhtLoop.Event}
    (hstep : dht.loopStep platform event = some next) :
    ∃ loop, dht.loop.step platform event = some loop ∧ next = { dht with loop := loop } := by
  obtain ⟨loop, hloop, rfl⟩ := Option.map_eq_some_iff.mp hstep
  exact ⟨loop, hloop, rfl⟩

def runTask (dht : MaintainedDht) (ids : List Uuid) :
    MaintainerTask → Option MaintainedDht
  | .tick => dht.tick platform ids
  | .getRemoteNodes => dht.getRemoteNodes platform ids

def step (dht : MaintainedDht) : Event → Option MaintainedDht
  | .receive msg ep =>
      let noted : MaintainedDht :=
        { dht with arrivals := dht.arrivals ++ [⟨msg, ep, dht.loop.io.sent⟩] }
      -- A message that raises does so before it has changed anything.
      some ((noted.loopStep platform (.receive msg ep)).getD noted)
  | .autoUpdate ep => some { dht with
      loop := dht.loop.withTable (dht.loop.table.autoUpdateEndpoint platform ep)
      applied := dht.applied ++ [ep] }
  | .autoUpdateBatch eps => some { dht with
      loop := dht.loop.withTable (dht.loop.table.autoUpdateBatch platform eps)
      applied := dht.applied ++ eps }
  | .updateGlobalSelfEndpoint ep => dht.loopStep platform (.updateGlobalSelfEndpoint ep)
  | .start ids => dht.startTicks platform ids
  | .stop => some dht.stop
  | .advance seconds => dht.loopStep platform (.advance seconds)
  | .expire position => dht.loopStep platform (.expire position)
  | .run position id => dht.loopStep platform (.run position id)
  | .expireTimer position =>
      dht.waits[position]?.bind fun wait =>
        if wait.1 ≤ dht.loop.io.now then some { dht with
          ready := dht.ready ++ [wait.2]
          waits := dht.waits.eraseIdx position }
        else none
  | .runTask position ids =>
      dht.ready[position]?.bind fun task =>
        ({ dht with ready := dht.ready.eraseIdx position } : MaintainedDht).runTask
          platform ids task

end MaintainedDht

end SsP2p.Kademlia
