import PinBridge.Simulator.Board

/-!
# A simulated bus

Boards on one bus, in the order in which they were added, and the failures that are to come. Every
call is counted, and takes an injected failure, before a board sees it. A handle's number is the
position of its board.
-/

namespace PinBridge.Simulator

/-- How a transfer is made to fail. -/
inductive Injected
  | timeout
  | stall
  deriving DecidableEq

/-- The error of a transfer that is made to fail. -/
def Injected.error : Injected → Error
  | timeout => .timeout
  | stall => .transfer .stall

/-- How often each call has been made. -/
structure Tally where
  list : Nat
  strings : Nat
  openDevice : Nat
  controlOut : Nat
  controlIn : Nat
  bulkWrite : Nat
  bulkRead : Nat
  deriving DecidableEq

/-- No call yet. -/
def Tally.zero : Tally := ⟨0, 0, 0, 0, 0, 0, 0⟩

/-- Counts a call. -/
def Tally.add (t : Tally) : Call → Tally
  | .list => { t with list := t.list + 1 }
  | .strings .. => { t with strings := t.strings + 1 }
  | .openDevice .. => { t with openDevice := t.openDevice + 1 }
  | .controlOut .. => { t with controlOut := t.controlOut + 1 }
  | .controlIn .. => { t with controlIn := t.controlIn + 1 }
  | .bulkWrite .. => { t with bulkWrite := t.bulkWrite + 1 }
  | .bulkRead .. => { t with bulkRead := t.bulkRead + 1 }

/-- The bus with its boards and the failures to come. -/
structure State where
  boards : List Board
  /-- How many of the next attempts to open a device fail. -/
  failOpens : Nat
  /-- How many of the next enumerations fail. -/
  failLists : Nat
  /-- Whether devices refuse to tell their strings. -/
  failStrings : Bool
  /-- How the next transfer fails, if it does. -/
  failTransfer : Option Injected
  calls : Tally
  deriving DecidableEq

namespace State

/-- A bus without boards. -/
def empty : State := ⟨[], 0, 0, false, none, .zero⟩

/-- Adds a board, at the next address. -/
def add (s : State) (b : Board) : State :=
  let address := UInt8.ofNat s.boards.length + 1
  { s with boards := s.boards ++ [{ b with descriptor := { b.descriptor with address } }] }

/-- A bus with boards. -/
def ofBoards (boards : List Board) : State := boards.foldl add empty

/-- The position of the board at a descriptor's place. -/
def position (s : State) (d : Descriptor) : Except Error Nat :=
  match s.boards.findIdx? fun b => b.descriptor.isAt d.bus d.address with
  | some i => .ok i
  | none => .error .deviceNotFound

/-- Changes the board at a position. -/
def change (s : State) (i : Nat) (f : Board → Board) : State :=
  { s with boards := s.boards.modify i f }

/-- Queues a payload to be read from a board. -/
def queue (s : State) (i : Nat) (payload : List UInt8) : State :=
  s.change i fun b => { b with queue := b.queue ++ [payload] }

/-- Counts a call. -/
def count (s : State) (c : Call) : State := { s with calls := s.calls.add c }

/-- Enumerates the boards. -/
def list (s : State) : Except Error (List Descriptor) × State :=
  match s.failLists with
  | 0 => (.ok (s.boards.map (·.descriptor)), s)
  | n + 1 => (.error (.transfer .disconnected), { s with failLists := n })

/-- The strings of a board. -/
def strings (s : State) (d : Descriptor) : Except Error Strings :=
  match s.position d with
  | .error e => .error e
  | .ok i =>
    if s.failStrings then .error (.transfer .stall)
    else
      match s.boards[i]? with
      | some b => .ok b.strings
      | none => .error .deviceNotFound

/-- Opens a board. -/
def openDevice (s : State) (d : Descriptor) : Except Error Handle × State :=
  match s.position d with
  | .error e => (.error e, s)
  | .ok i =>
    match s.failOpens, s.boards[i]? with
    | n + 1, _ => (.error .claimFailed, { s with failOpens := n })
    | 0, some b => (.ok ⟨i, b.descriptor.release, b.hasSerial, b.packetSize⟩, s)
    | 0, none => (.error .deviceNotFound, s)

/-- Makes a transfer with the board of a handle, unless it is to fail. The transfer's own result may
be a crash. -/
def transfer {α : Type} (s : State) (h : Handle)
    (f : Board → Option (Except Error α) × Board) : Option (Except Error α) × State :=
  match s.failTransfer with
  | some failure => (some (.error failure.error), { s with failTransfer := none })
  | none =>
    match s.boards[h.id]? with
    | some b =>
      let (result, after) := f b
      (result, s.change h.id fun _ => after)
    | none => (none, s)

/-- The packet size that a board reads by where it does not tell one. -/
def defaultPacketSize : Nat := 64

/-- Reads from a board: whole packets only. A packet size of zero has no whole packets. -/
def bulkRead (h : Handle) (length : Nat) (b : Board) :
    Option (Except Error (List UInt8)) × Board :=
  if length = 0 then (some (.error (.transfer .invalidArgument)), b)
  else
    let size := h.packetSize.getD defaultPacketSize
    if size = 0 then (none, b)
    else if length % size = 0 then
      let (data, b) := b.bulkRead length
      (some (.ok data), b)
    else (some (.error (.transfer .invalidArgument)), b)

/-- Answers a call that has been counted. -/
def answer (s : State) : (c : Call) → Option c.Reply × State
  | .list => Prod.map some id s.list
  | .strings d _ => (some (s.strings d), s)
  | .openDevice d _ => Prod.map some id (s.openDevice d)
  | .controlOut h request value index _ =>
    s.transfer h fun b => Prod.map some id (b.controlOut request value index)
  | .controlIn h request _ index length _ =>
    s.transfer h fun b => (some ((b.controlIn request index).map (·.take length.toNat)), b)
  | .bulkWrite h _ data _ => s.transfer h fun b => (some (.ok data.length), b.bulkWrite data)
  | .bulkRead h _ length _ => s.transfer h (bulkRead h length)

end State

/-- The simulated bus. Giving back a handle changes nothing on it. -/
def bus : Bus State where
  reply c s := (s.count c).answer c
  release _ s := s
  note _ s := s

end PinBridge.Simulator
