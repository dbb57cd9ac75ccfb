import SsP2p.Core.Endpoint
import SsP2p.Lib.Runs

/-!
# The UDP server

`udp_server` keeps one receive outstanding.  The socket writes the payload of a
datagram into `_recv_buff` and its sender into `_src_ep`; the completion handler
copies the bytes into a closure, posts it and re-arms the receive, and the
closure reads `_src_ep` when the event loop runs it.  Each receive and each
closure carries the datagram it stems from, which no step looks at.
-/

namespace SsP2p.Net

abbrev recvBuffSize : ℕ := 65535

/-- The most bytes that the socket sends in one datagram over IPv4. -/
abbrev maxDatagramSize : ℕ := 65507

/-- A datagram as the network delivers it. -/
structure Datagram where
  source : Endpoint
  payload : List UInt8
  length_le : payload.length ≤ recvBuffSize

/-- The datagram that these bytes make, unless they are too many. -/
def Datagram.ofBytes (source : Endpoint) (raw : List UInt8) : Option Datagram :=
  if hfits : raw.length ≤ maxDatagramSize then some
    ⟨source, raw, Nat.le_trans hfits (by decide)⟩
  else none

theorem Datagram.payload_of_ofBytes {source : Endpoint} {raw : List UInt8}
    {datagram : Datagram} (hbytes : ofBytes source raw = some datagram) :
    datagram.payload = raw := by
  rw [ofBytes] at hbytes
  split_ifs at hbytes
  obtain rfl := Option.some.inj hbytes
  rfl

/-- The closure that `call_income_message_handler` posts. -/
structure PostedReceive where
  rawMsg : List UInt8
  origin : Datagram

/-- One call of `_recv_handler`, with the closure that made it. -/
structure ReceiveCall where
  rawMsg : List UInt8
  ep : Endpoint
  origin : Datagram

/-- The one `async_receive_from`. -/
inductive Receive where
  | armed
  | failed
  | completed (bytesTransferred : ℕ) (origin : Datagram)

/-- `udp_server` together with the part of the event loop that serves it. -/
structure UdpServer where
  recvBuff : List UInt8
  srcEp : Endpoint
  receive : Receive
  posted : List PostedReceive
  calls : List ReceiveCall

namespace UdpServer

inductive Event where
  /-- The armed receive takes a datagram from the socket. -/
  | arrive (datagram : Datagram)
  /-- The armed receive ends with an error. -/
  | fail
  /-- The event loop runs `call_income_message_handler`. -/
  | complete
  /-- The event loop runs the posted closure at this position. -/
  | runPosted (position : ℕ)

/-- `start`, with whatever the uninitialised buffer holds. -/
def start (recvBuff : List UInt8) : UdpServer where
  recvBuff := recvBuff
  srcEp := Endpoint.unspecified
  receive := .armed
  posted := []
  calls := []

def step (server : UdpServer) : Event → Option UdpServer
  | .arrive datagram =>
      match server.receive with
      | .armed => some
          { server with
            recvBuff := datagram.payload ++
              server.recvBuff.drop datagram.payload.length
            srcEp := datagram.source
            receive := .completed datagram.payload.length datagram }
      | _ => none
  | .fail =>
      match server.receive with
      | .armed => some { server with receive := .failed }
      | _ => none
  | .complete =>
      match server.receive with
      | .armed => none
      | .failed => some { server with receive := .armed }
      | .completed bytesTransferred origin => some
          { server with
            receive := .armed
            posted := server.posted ++
              [⟨server.recvBuff.take bytesTransferred, origin⟩] }
  | .runPosted position =>
      match server.posted[position]? with
      | none => none
      | some closure => some
          { server with
            posted := server.posted.eraseIdx position
            calls := server.calls ++
              [⟨closure.rawMsg, server.srcEp, closure.origin⟩] }

/-- Every call of the receive handler got the bytes and the sender of one and
the same datagram. -/
def Attributed (server : UdpServer) : Prop :=
  ∀ call ∈ server.calls,
    call.rawMsg = call.origin.payload ∧ call.ep = call.origin.source

/-- A datagram is stored only while every closure that still waits stems from
the same sender. -/
def SameSenderWaiting (server : UdpServer) : Event → Prop
  | .arrive datagram =>
      ∀ closure ∈ server.posted, closure.origin.source = datagram.source
  | _ => True

/-! ## The bytes are always right -/

/-- What the buffer, the closures and the calls hold are the bytes of their own
datagrams. -/
structure BytesKept (server : UdpServer) : Prop where
  received : ∀ bytesTransferred origin,
    server.receive = .completed bytesTransferred origin →
      server.recvBuff.take bytesTransferred = origin.payload
  posted : ∀ closure ∈ server.posted, closure.rawMsg = closure.origin.payload
  called : ∀ call ∈ server.calls, call.rawMsg = call.origin.payload

/-- What one step does to the server. -/
theorem step_cases {server next : UdpServer} {event : Event}
    (hstep : server.step event = some next) :
    (∃ datagram, event = .arrive datagram ∧ server.receive = .armed ∧
      next = { server with
        recvBuff := datagram.payload ++
          server.recvBuff.drop datagram.payload.length
        srcEp := datagram.source
        receive := .completed datagram.payload.length datagram }) ∨
    (event = .fail ∧ server.receive = .armed ∧
      next = { server with receive := .failed }) ∨
    (event = .complete ∧ server.receive = .failed ∧
      next = { server with receive := .armed }) ∨
    (∃ bytesTransferred origin, event = .complete ∧
      server.receive = .completed bytesTransferred origin ∧
      next = { server with
        receive := .armed
        posted := server.posted ++
          [⟨server.recvBuff.take bytesTransferred, origin⟩] }) ∨
    (∃ position closure, event = .runPosted position ∧
      server.posted[position]? = some closure ∧
      next = { server with
        posted := server.posted.eraseIdx position
        calls := server.calls ++
          [⟨closure.rawMsg, server.srcEp, closure.origin⟩] }) := by
  cases event with
  | arrive datagram =>
      cases hreceive : server.receive with
      | armed =>
          simp only [step, hreceive, Option.some.injEq] at hstep
          exact Or.inl ⟨datagram, rfl, rfl, hstep.symm⟩
      | failed => simp [step, hreceive] at hstep
      | completed bytesTransferred origin => simp [step, hreceive] at hstep
  | fail =>
      cases hreceive : server.receive with
      | armed =>
          simp only [step, hreceive, Option.some.injEq] at hstep
          exact Or.inr (Or.inl ⟨rfl, rfl, hstep.symm⟩)
      | failed => simp [step, hreceive] at hstep
      | completed bytesTransferred origin => simp [step, hreceive] at hstep
  | complete =>
      cases hreceive : server.receive with
      | armed => simp [step, hreceive] at hstep
      | failed =>
          simp only [step, hreceive, Option.some.injEq] at hstep
          exact Or.inr (Or.inr (Or.inl ⟨rfl, rfl, hstep.symm⟩))
      | completed bytesTransferred origin =>
          simp only [step, hreceive, Option.some.injEq] at hstep
          exact Or.inr (Or.inr (Or.inr (Or.inl
            ⟨bytesTransferred, origin, rfl, rfl, hstep.symm⟩)))
  | runPosted position =>
      cases hposted : server.posted[position]? with
      | none => simp [step, hposted] at hstep
      | some closure =>
          simp only [step, hposted, Option.some.injEq] at hstep
          exact Or.inr (Or.inr (Or.inr (Or.inr
            ⟨position, closure, rfl, hposted, hstep.symm⟩)))

theorem bytesKept_start (recvBuff : List UInt8) : BytesKept (start recvBuff) where
  received := by intro bytesTransferred origin hreceive; cases hreceive
  posted := by intro closure hclosure; cases hclosure
  called := by intro call hcall; cases hcall

/-- A closure after a step is an old one, or was made by the completion handler
from the outstanding receive. -/
theorem mem_posted_of_step {server next : UdpServer} {event : Event}
    (hstep : server.step event = some next) {closure : PostedReceive}
    (hclosure : closure ∈ next.posted) :
    closure ∈ server.posted ∨
      ∃ bytesTransferred origin, event = .complete ∧
        server.receive = .completed bytesTransferred origin ∧
        closure = ⟨server.recvBuff.take bytesTransferred, origin⟩ := by
  rcases step_cases hstep with
    ⟨datagram, rfl, hreceive, rfl⟩ | ⟨rfl, hreceive, rfl⟩ | ⟨rfl, hreceive, rfl⟩ |
    ⟨bytesTransferred, origin, rfl, hreceive, rfl⟩ |
    ⟨position, other, rfl, hposted, rfl⟩
  · exact Or.inl hclosure
  · exact Or.inl hclosure
  · exact Or.inl hclosure
  · rcases List.mem_append.mp hclosure with hold | hnew
    · exact Or.inl hold
    · exact Or.inr ⟨bytesTransferred, origin, rfl, hreceive,
        List.mem_singleton.mp hnew⟩
  · exact Or.inl (List.eraseIdx_subset hclosure)

/-- A call after a step is an old one, or was made by a waiting closure with the
endpoint stored last. -/
theorem mem_calls_of_step {server next : UdpServer} {event : Event}
    (hstep : server.step event = some next) {call : ReceiveCall}
    (hcall : call ∈ next.calls) :
    call ∈ server.calls ∨
      ∃ closure ∈ server.posted,
        call = ⟨closure.rawMsg, server.srcEp, closure.origin⟩ := by
  rcases step_cases hstep with
    ⟨datagram, rfl, hreceive, rfl⟩ | ⟨rfl, hreceive, rfl⟩ | ⟨rfl, hreceive, rfl⟩ |
    ⟨bytesTransferred, origin, rfl, hreceive, rfl⟩ |
    ⟨position, closure, rfl, hposted, rfl⟩
  · exact Or.inl hcall
  · exact Or.inl hcall
  · exact Or.inl hcall
  · exact Or.inl hcall
  · rcases List.mem_append.mp hcall with hold | hnew
    · exact Or.inl hold
    · exact Or.inr ⟨closure, List.mem_of_getElem? hposted, List.mem_singleton.mp hnew⟩

/-- The receive, the buffer and the stored sender only change together, when a
datagram arrives; otherwise a completed receive was completed before. -/
theorem receive_of_step {server next : UdpServer} {event : Event}
    (hstep : server.step event = some next) {bytesTransferred : ℕ}
    {origin : Datagram}
    (hreceive : next.receive = .completed bytesTransferred origin) :
    (event = .arrive origin ∧ bytesTransferred = origin.payload.length ∧
        next.recvBuff = origin.payload ++ server.recvBuff.drop origin.payload.length ∧
        next.srcEp = origin.source) ∨
      (server.receive = .completed bytesTransferred origin ∧
        next.recvBuff = server.recvBuff ∧ next.srcEp = server.srcEp) := by
  rcases step_cases hstep with
    ⟨datagram, rfl, harmed, rfl⟩ | ⟨rfl, harmed, rfl⟩ | ⟨rfl, hfailed, rfl⟩ |
    ⟨bytes, other, rfl, hcompleted, rfl⟩ | ⟨position, closure, rfl, hposted, rfl⟩
  · cases hreceive
    exact Or.inl ⟨rfl, rfl, rfl, rfl⟩
  · cases hreceive
  · cases hreceive
  · cases hreceive
  · exact Or.inr ⟨hreceive, rfl, rfl⟩

theorem srcEp_of_step {server next : UdpServer} {event : Event}
    (hstep : server.step event = some next) :
    (∃ datagram, event = .arrive datagram ∧ next.srcEp = datagram.source) ∨
      next.srcEp = server.srcEp := by
  rcases step_cases hstep with
    ⟨datagram, rfl, harmed, rfl⟩ | ⟨rfl, harmed, rfl⟩ | ⟨rfl, hfailed, rfl⟩ |
    ⟨bytes, origin, rfl, hcompleted, rfl⟩ | ⟨position, closure, rfl, hposted, rfl⟩
  · exact Or.inl ⟨datagram, rfl, rfl⟩
  all_goals exact Or.inr rfl

theorem bytesKept_step {server next : UdpServer} {event : Event}
    (hkept : BytesKept server) (hstep : server.step event = some next) :
    BytesKept next where
  received bytesTransferred origin hreceive := by
    rcases receive_of_step hstep hreceive with
      ⟨rfl, rfl, hbuff, -⟩ | ⟨hold, hbuff, -⟩
    · rw [hbuff]
      exact List.take_left
    · rw [hbuff]
      exact hkept.received bytesTransferred origin hold
  posted closure hclosure := by
    rcases mem_posted_of_step hstep hclosure with
      hold | ⟨bytesTransferred, origin, -, hreceive, rfl⟩
    · exact hkept.posted closure hold
    · exact hkept.received bytesTransferred origin hreceive
  called call hcall := by
    rcases mem_calls_of_step hstep hcall with hold | ⟨closure, hclosure, rfl⟩
    · exact hkept.called call hold
    · exact hkept.posted closure hclosure

/-- Every call gets the bytes of its own datagram, in every run. -/
theorem bytesKept_execute (recvBuff : List UInt8) {events : List Event}
    {last : UdpServer} (hrun : Runs.execute step (start recvBuff) events = some last) :
    BytesKept last :=
  Runs.invariant_of_step BytesKept
    (fun _ _ _ hkept hstep => bytesKept_step hkept hstep)
    (bytesKept_start recvBuff) hrun

/-! ## The sender -/

/-- While the condition holds, `_src_ep` is the sender of everything that still
waits. -/
structure SenderKept (server : UdpServer) : Prop where
  received : ∀ bytesTransferred origin,
    server.receive = .completed bytesTransferred origin →
      server.srcEp = origin.source
  posted : ∀ closure ∈ server.posted, server.srcEp = closure.origin.source
  called : ∀ call ∈ server.calls, call.ep = call.origin.source

theorem senderKept_start (recvBuff : List UInt8) : SenderKept (start recvBuff) where
  received := by intro bytesTransferred origin hreceive; cases hreceive
  posted := by intro closure hclosure; cases hclosure
  called := by intro call hcall; cases hcall

theorem senderKept_step {server next : UdpServer} {event : Event}
    (hkept : SenderKept server) (hcondition : SameSenderWaiting server event)
    (hstep : server.step event = some next) : SenderKept next where
  received bytesTransferred origin hreceive := by
    rcases receive_of_step hstep hreceive with
      ⟨-, -, -, hsource⟩ | ⟨hold, -, hsource⟩
    · exact hsource
    · rw [hsource]
      exact hkept.received bytesTransferred origin hold
  posted closure hclosure := by
    rcases mem_posted_of_step hstep hclosure with
      hold | ⟨bytesTransferred, origin, rfl, hreceive, rfl⟩
    · rcases srcEp_of_step hstep with ⟨datagram, rfl, hsource⟩ | hsource
      · rw [hsource]
        exact (hcondition closure hold).symm
      · rw [hsource]
        exact hkept.posted closure hold
    · rcases srcEp_of_step hstep with ⟨datagram, hevent, -⟩ | hsource
      · cases hevent
      · rw [hsource]
        exact hkept.received bytesTransferred origin hreceive
  called call hcall := by
    rcases mem_calls_of_step hstep hcall with hold | ⟨closure, hclosure, rfl⟩
    · exact hkept.called call hold
    · exact hkept.posted closure hclosure

/-- In a run that stores a sender only while every waiting closure has that
sender, the receive handler always gets a datagram with its own sender. -/
theorem attributed_of_meets (recvBuff : List UInt8) (events : List Event)
    (last : UdpServer)
    (hmeets : Runs.Meets step SameSenderWaiting (start recvBuff) events)
    (hrun : Runs.execute step (start recvBuff) events = some last) :
    last.Attributed := by
  have hbytes := bytesKept_execute recvBuff hrun
  have hsender : SenderKept last :=
    Runs.invariant_of_meets SenderKept
      (fun _ _ _ hkept hcondition hstep => senderKept_step hkept hcondition hstep)
      (senderKept_start recvBuff) hmeets hrun
  intro call hcall
  exact ⟨hbytes.called call hcall, hsender.called call hcall⟩

theorem step_runPosted {server : UdpServer} {position : ℕ} {closure : PostedReceive}
    (hposition : server.posted[position]? = some closure) :
    ∃ last, server.step (.runPosted position) = some last ∧
      ⟨closure.rawMsg, server.srcEp, closure.origin⟩ ∈ last.calls := by
  simp only [step, hposition]
  exact ⟨_, rfl, by simp⟩

/-- When a datagram is stored while a closure of another sender waits, that closure
can be run next, and then names the wrong sender. -/
theorem exists_misattributed {server next : UdpServer} {datagram : Datagram}
    (harrive : server.step (.arrive datagram) = some next)
    (hother : ¬ server.SameSenderWaiting (.arrive datagram)) :
    ∃ position last, next.step (.runPosted position) = some last ∧
      ¬ last.Attributed := by
  simp only [SameSenderWaiting, not_forall] at hother
  obtain ⟨closure, hclosure, hsource⟩ := hother
  obtain ⟨position, hposition⟩ := List.mem_iff_getElem?.mp hclosure
  have hkept : next.posted = server.posted ∧ next.srcEp = datagram.source := by
    rcases step_cases harrive with
      ⟨other, hevent, -, rfl⟩ | ⟨hevent, -⟩ | ⟨hevent, -⟩ |
      ⟨_, _, hevent, -⟩ | ⟨_, _, hevent, -⟩ <;> cases hevent
    exact ⟨rfl, rfl⟩
  obtain ⟨hposted, hnewSource⟩ := hkept
  rw [← hposted] at hposition
  obtain ⟨last, hlast, hcalled⟩ := step_runPosted hposition
  refine ⟨position, last, hlast, fun hattributed => hsource ?_⟩
  rw [← hnewSource]
  exact (hattributed _ hcalled).2.symm

def firstSender : Datagram := ⟨⟨.v4 0x0A000001, 1000⟩, [1], by decide⟩

def secondSender : Datagram := ⟨⟨.v4 0x0A000002, 2000⟩, [2], by decide⟩

/-- Two senders one after the other, each served before the next arrives. -/
def servedInTurn : List Event :=
  [.arrive firstSender, .complete, .runPosted 0,
    .arrive secondSender, .complete, .runPosted 0]

theorem attributed_servedInTurn :
    ∃ last, Runs.execute step (start []) servedInTurn = some last ∧
      last.Attributed := by
  refine ⟨_, rfl, attributed_of_meets [] servedInTurn _ ?_ rfl⟩
  simp [servedInTurn, Runs.Meets, SameSenderWaiting, step, start]

/-- The second datagram arrives while the closure of the first one waits: the
first payload is handled under the second sender. -/
theorem not_attributed_overtaken :
    ∃ last, Runs.execute step (start [])
        [.arrive firstSender, .complete, .arrive secondSender, .runPosted 0] =
          some last ∧ ¬ last.Attributed := by
  refine ⟨_, rfl, ?_⟩
  intro hattributed
  have hcall := hattributed ⟨[1], secondSender.source, firstSender⟩ (by
    simp [firstSender])
  revert hcall
  decide

end UdpServer

end SsP2p.Net
