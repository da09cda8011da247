import PinBridge.Proofs.Packet
import PinBridge.Proofs.Session.Observers

/-!
# Turns of a session

A *turn* is one call on a session with all that it has come to: what passed between the session and
the bus, and the result. What a caller can tell from a turn alone is read off it here: whether it
has opened or closed a device (`opens`, `closes`), staged an image (`stages`) or emptied the receive
side (`flushes`), which bytes it has handed out (`returned`) and which replies to bulk reads have
come in (`received`).

`Change` lists, kind by kind, what a turn can do to a session. That these are all is shown in
`PinBridge.Proofs.Session.Change`.
-/

namespace PinBridge

/-- Whether a call asks for a device to be opened. -/
def Action.isOpening : Action → Bool
  | openIds .. | openFilter .. | openDevice .. => true
  | _ => false

/-- Whether an event is a granted request to empty the receive buffer. -/
def Event.emptiesReceive : Event → Bool
  | asked (.controlOut _ request value _ _) (.ok _) =>
    request == Request.reset && value == Request.receiveBuffer
  | _ => false

/-- The requests of a full read of the EEPROM, from an address on, each with its reply. -/
def wordReads (handle : Handle) (timeout : Nat) : Nat → List (List UInt8) → List Event
  | _, [] => []
  | address, reply :: rest =>
    .asked (.controlIn handle Request.readEeprom 0 (UInt16.ofNat address) 2 timeout) (.ok reply) ::
      wordReads handle timeout (address + 1) rest

/-- **A turn of a session**: a call, what passed between the session and the bus, and the result. -/
structure Turn where
  action : Action
  events : List Event
  result : Except Error action.Result

namespace Turn

/-- The call has succeeded. -/
def succeeded (turn : Turn) : Bool :=
  match turn.result with
  | .ok _ => true
  | .error _ => false

/-- The call has opened a device. -/
def opens (turn : Turn) : Bool := turn.action.isOpening && turn.succeeded

/-- The call has closed the device. -/
def closes (turn : Turn) : Bool :=
  match turn.action with
  | .close => turn.succeeded
  | _ => false

/-- The call has staged an image. -/
def stages (turn : Turn) : Bool :=
  match turn.action with
  | .readEeprom => turn.succeeded
  | _ => false

/-- **The call has emptied the receive side**: it has opened a device, reset the channel or purged
the receive buffer, be it as the first half of a purge of both buffers. -/
def flushes (turn : Turn) : Bool :=
  match turn.action with
  | .openIds .. | .openFilter .. | .openDevice .. | .reset | .purgeReceive => turn.succeeded
  | .purge => turn.events.any Event.emptiesReceive
  | _ => false

/-- The bytes that the call has handed out. -/
def returned : Turn → List UInt8
  | ⟨.readData _, _, .ok bytes⟩ => bytes
  | _ => []

/-- The replies of the bulk reads that have succeeded, in order. -/
def received (turn : Turn) : List (List UInt8) := turn.events.filterMap Event.data?

/-- The handle of the device that has been opened in the turn. -/
def handle? (turn : Turn) : Option Handle := turn.events.findSome? Event.handle?

/-- **An idle turn**, from which none of the above can be told. -/
structure Idle (turn : Turn) : Prop where
  opens : turn.opens = false
  closes : turn.closes = false
  stages : turn.stages = false
  flushes : turn.flushes = false
  returned : turn.returned = []
  received : turn.received = []

end Turn

/-- **What a turn can do to a session**, kind by kind. -/
inductive Change (s : Session) : Turn → Session → Prop
  /-- Nothing: the call asks for something, or it has failed. -/
  | idle {turn : Turn} (idle : turn.Idle) : Change s turn s
  /-- It changes the options. -/
  | configured {turn : Turn} {options : Options} (succeeded : turn.succeeded) (idle : turn.Idle) :
      Change s turn { s with options }
  /-- It changes how the open device works. -/
  | tuned {turn : Turn} {d : OpenDevice} {mode : PinMode} {baudRate : UInt32}
      (link : s.link = .opened d) (succeeded : turn.succeeded) (idle : turn.Idle) :
      Change s turn { s with link := .opened { d with mode, baudRate } }
  /-- It empties the receive side. -/
  | flushed {turn : Turn} {d : OpenDevice} (link : s.link = .opened d)
      (succeeded : turn.succeeded) (flushes : turn.flushes) (opens : turn.opens = false)
      (closes : turn.closes = false) (stages : turn.stages = false) :
      Change s turn { s with link := .opened { d with pending := [] } }
  /-- It empties the receive side, and then fails to empty the transmit buffer. -/
  | halfPurged {d : OpenDevice} {e : Error} (link : s.link = .opened d) :
      Change s
        ⟨.purge,
          [.asked (.controlOut d.handle Request.reset Request.receiveBuffer d.channel.index
              s.options.writeTimeout) (.ok ()),
            .asked (.controlOut d.handle Request.reset Request.transmitBuffer d.channel.index
              s.options.writeTimeout) (.error e)],
          .error e⟩
        { s with link := .opened { d with pending := [] } }
  /-- It hands out bytes that were at hand. -/
  | taken {length : Nat} {d : OpenDevice} (link : s.link = .opened d) :
      Change s ⟨.readData length, [], .ok (d.pending.take length)⟩
        { s with link := .opened { d with pending := d.pending.drop length } }
  /-- It hands out bytes of a reply, there being none at hand. -/
  | refilled {length asked : Nat} {d : OpenDevice} {reply : List UInt8}
      (link : s.link = .opened d) (empty : d.pending = []) (positive : 0 < length) :
      Change s
        ⟨.readData length,
          [.asked (.bulkRead d.handle d.channel.inEndpoint asked s.options.readTimeout)
            (.ok reply)],
          .ok ((Packet.payload d.packetSize reply).take length)⟩
        { s with link := .opened { d with
            pending := (Packet.payload d.packetSize reply).drop length } }
  /-- It stages an image. -/
  | staged {d : OpenDevice} {replies : List (List UInt8)} (link : s.link = .opened d)
      (length : replies.length = Eeprom.fullSize / 2) (long : ∀ reply ∈ replies, 2 ≤ reply.length) :
      Change s ⟨.readEeprom, wordReads d.handle s.options.readTimeout 0 replies, .ok ()⟩
        { s with staged := some (.stage (replies.flatMap fun reply => reply.take 2) d.chip) }
  /-- It opens a device. -/
  | opened {turn : Turn} {device : Descriptor} {handle : Handle} (link : s.isOpen = false)
      (opens : turn.opens) (flushes : turn.flushes) (stages : turn.stages = false)
      (found : turn.handle? = some handle) :
      Change s turn
        { s with
          link := .opened { OpenDevice.fresh device handle s.options.interface.channel with
            baudRate := initialRate }
          staged := none }
  /-- It closes the device. -/
  | closed {events : List Event} {d : OpenDevice} (link : s.link = .opened d) :
      Change s ⟨.close, events, .ok ()⟩ { s with link := .closed, staged := none }

end PinBridge
