import SsP2p.Net.ClusterSafety

/-!
# Nodes know nodes

Where the applications do what `Admits` says, every endpoint in the routing table of a node was
passed in by its application, or is the endpoint of a node that has sent it a datagram.  A node
that others only tell of is pinged first, and nobody else can answer the ping: its id is known
to the node that was pinged.
-/

namespace SsP2p.Net

open Ice Kademlia

variable {platform : Platform}

/-- What is read as a ping was written as one. -/
theorem exists_sound_of_isPing (hreads : platform.ReadsBack) {msg : Message} {id : Uuid}
    (hsound : KMessage.SoundPart platform msg) (hping : KMessage.IsPing platform msg id) :
    ∃ body messageType, msg.getParam "kademlia" = some body ∧
      KMessage.Sound platform body .ping messageType id := by
  obtain ⟨body, hpart, hrpc, hid⟩ := hping
  obtain ⟨rpc, messageType, other, hwritten⟩ := hsound body hpart
  have hmsg := hwritten.wellFormed hreads hpart
  obtain rfl := Except.ok.inj (hmsg.getRpc_eq.symm.trans hrpc)
  obtain rfl := Except.ok.inj (hmsg.observerId.symm.trans hid)
  exact ⟨body, messageType, hpart, hwritten⟩

namespace NodeLoop

/-- A ping message, as it arrives, is a ping of its sender to where it arrives, or it answers
one that has arrived at its sender. -/
theorem Writes.ping_cases (hreads : platform.ReadsBack) (hshort : platform.ShortTexts)
    {Named : Endpoint → Prop} {node : NodeLoop platform} {out : Outgoing}
    (hproper : node.Proper Named) (hwrites : node.Writes platform out) {body : Json}
    {messageType : KMessage.MessageType} {id : Uuid}
    (hpart : out.msg.ordered.getParam "kademlia" = some body)
    (hsound : KMessage.Sound platform body .ping messageType id) :
    KMessage.PingSent platform node.dht.loop.io.sent id out.dest ∨
      messageType = .response ∧ ∃ arrival ∈ node.dht.arrivals, ∃ asked,
        arrival.msg.getParam "kademlia" = some asked ∧
          KMessage.Sound platform asked .ping .request id := by
  rw [Message.getParam_ordered, Option.map_eq_some_iff] at hpart
  obtain ⟨sent, hsent, rfl⟩ := hpart
  have hmem := hwrites.mem_sent_of_kademlia hsent
  have hkind : ∀ {rpc otherType other}, KMessage.Sound platform sent rpc otherType other →
      rpc = .ping ∧ otherType = messageType ∧ other = id := fun hother =>
    hother.ordered.unique hreads hsound
  generalize hout : (⟨out.dest, .ofPart "kademlia" sent⟩ : Outgoing) = request at hmem
  cases hproper.dht.sent request hmem with
  | ping ep other hv4 hissued =>
      obtain ⟨rfl, hmsg⟩ := Outgoing.mk.inj hout
      obtain rfl := KMessage.ofPart_injective hmsg
      obtain ⟨-, -, rfl⟩ := hkind (KMessage.sound_pingRequestBody hshort other)
      exact Or.inl hmem
  | findNode ep other ignoreEps hv4 hignore hissued =>
      obtain rfl := KMessage.ofPart_injective (Outgoing.mk.inj hout).2
      obtain ⟨hrpc, -⟩ := hkind (KMessage.sound_findNodeRequestBody hshort other hignore)
      cases hrpc
  | reply arrival asked body rpc other harrival hv4 hasked hrequest hresponse =>
      obtain rfl := KMessage.ofPart_injective (Outgoing.mk.inj hout).2
      obtain ⟨rfl, htype, rfl⟩ := hkind hresponse
      exact Or.inr ⟨htype.symm, arrival, harrival, asked, hasked, hrequest⟩

end NodeLoop

namespace Cluster

/-- Whoever is known was passed in by the application, or is a node that has sent
something. -/
def Acquainted (cluster : Cluster platform) : Prop :=
  ∀ ep known, (cluster.node ep).dht.loop.table.Knows known →
    known ∈ (cluster.node ep).dht.applied ∨
      ∃ other : V4Endpoint, known = other.val ∧ cluster.HasSent other ep

variable {naming : Naming}

/-- A ping is answered by the node that was pinged. -/
theorem Proper.hasSent_of_pingAnswered (hreads : platform.ReadsBack)
    (hshort : platform.ShortTexts) {cluster : Cluster platform}
    (hproper : cluster.Proper naming) {ep : V4Endpoint} {id : Uuid} {known : Endpoint}
    (hanswered : (cluster.node ep).dht.PingAnswered platform id known) :
    ∃ other : V4Endpoint, known = other.val ∧ cluster.HasSent other ep := by
  have hnode := hproper.nodes ep
  obtain ⟨arrival, harrival, hping, hbefore⟩ := hanswered
  have hpinged : KMessage.PingSent platform (cluster.node ep).dht.loop.io.sent id known :=
    hnode.before arrival harrival hbefore
  have hissued := hnode.dht.issued_of_pingSent hreads hshort hpinged
  obtain ⟨src, out, hout, hdest, hfits, hmsg⟩ := (hproper.arrivals ep arrival harrival).sent
  have hwrites := (hproper.nodes src).writes hshort hout
  rw [hmsg] at hping
  obtain ⟨body, messageType, hpart, hsound⟩ :=
    exists_sound_of_isPing hreads
      (hwrites.soundKademlia hshort (hproper.nodes src)).ordered hping
  rcases hwrites.ping_cases hreads hshort (hproper.nodes src) hpart hsound with
    hown | ⟨-, asking, hasking, asked, hasked, hrequest⟩
  · have hsrcIssued := (hproper.nodes src).dht.issued_of_pingSent hreads hshort hown
    obtain rfl := hproper.apart src ep id (List.mem_append_left _ hsrcIssued)
      (List.mem_append_left _ hissued)
    exact ⟨src, (hnode.dht.once id known out.dest hpinged hown).trans hdest,
      out, hout, hdest, hfits⟩
  · obtain ⟨asker, request, hrequestSent, hrequestDest, -, hrequestMsg⟩ :=
      (hproper.arrivals src asking hasking).sent
    rw [hrequestMsg] at hasked
    have hasker := (hproper.nodes asker).writes hshort hrequestSent
    have haskerIssued := hasker.issued_of_request hreads hshort (hproper.nodes asker) hasked
      hrequest
    obtain rfl := hproper.apart asker ep id (List.mem_append_left _ haskerIssued)
      (List.mem_append_left _ hissued)
    have hsrc := (hasker.ping_cases hreads hshort hnode hasked hrequest).resolve_right
      fun hresponse => KMessage.MessageType.noConfusion hresponse.1
    exact ⟨src, (hnode.dht.once id known request.dest hpinged hsrc).trans hrequestDest,
      out, hout, hdest, hfits⟩

theorem Proper.acquainted (hreads : platform.ReadsBack) (hshort : platform.ShortTexts)
    {cluster : Cluster platform} (hproper : cluster.Proper naming) : cluster.Acquainted := by
  intro ep known hknows
  rcases (hproper.nodes ep).sourced.table known hknows with
    happlied | ⟨arrival, harrival, rfl, -⟩ | ⟨id, hanswered⟩
  · exact Or.inl happlied
  · exact Or.inr (hproper.arrivals ep arrival harrival).shown
  · exact Or.inr (hproper.hasSent_of_pingAnswered hreads hshort hanswered)

/-- In every run in which the applications use IPv4 endpoints and texts that can be
encoded, every node knows nodes only, unless its application has passed in others. -/
theorem throughout_acquainted (hreads : platform.ReadsBack) (hbson : platform.ReadsBson)
    (hshort : platform.ShortTexts) (now : ℕ) (events : List Event)
    (hadmits : ∀ event ∈ events, Admits .anyV4 event) :
    Runs.Throughout step Acquainted (start now : Cluster platform) events :=
  throughout_of_proper hreads hbson hshort (fun _ hproper => hproper.acquainted hreads hshort)
    now events hadmits

theorem throughout_acquainted_greet :
    Runs.Throughout step Acquainted (start 0 : Cluster bsonPlatform) greet :=
  throughout_acquainted readsBack_bsonPlatform readsBson_bsonPlatform shortTexts_bsonPlatform 0
    greet admits_greet

end Cluster

end SsP2p.Net
