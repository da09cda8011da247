import PinBridge.Session.Basic

/-!
# Commands

A `Command` is an operation of a session: bus calls that end in a result and the session afterwards,
whether the operation succeeds or fails. This module holds the steps that operations are made of,
with the transfers that address the open device: `controlOut`, `controlIn` and `sendAll`.
-/

namespace PinBridge

/-- An operation of a session. -/
def Command (α : Type) : Type := Session → Program (Except Error α × Session)

namespace Command

variable {α β : Type}

/-- Goes on with the result of an operation that succeeds. -/
protected def bind (m : Command α) (f : α → Command β) : Command β := fun s =>
  (m s).bind fun
    | (.ok a, s) => f a s
    | (.error e, s) => .done (.error e, s)

instance : Monad Command where
  pure a := fun s => .done (.ok a, s)
  bind := Command.bind

/-- Ends with a result that is at hand. -/
def ofExcept (r : Except Error α) : Command α := fun s => .done (r, s)

/-- Fails. -/
def fail (e : Error) : Command α := ofExcept (.error e)

/-- The session as it is. -/
def session : Command Session := fun s => .done (.ok s, s)

/-- Changes the session. -/
def modify (f : Session → Session) : Command Unit := fun s => .done (.ok (), f s)

/-- Makes a bus call. -/
def ask (c : Call) : Command c.Answer := fun s => .call c fun reply => .done (reply, s)

/-- Gives a handle back to the bus. -/
def giveBack (handle : Handle) : Command Unit := fun s => .release handle (.done (.ok (), s))

/-- Takes a note. -/
def note (n : Note) : Command Unit := fun s => .note n (.done (.ok (), s))

/-- A value that is there, or else a crash. -/
def need (o : Option α) : Command α := fun s =>
  match o with
  | some a => .done (.ok a, s)
  | none => .crash

/-- Does something else where an operation fails; the session is then as the failure left it. -/
def recover (m : Command α) (f : Error → Command α) : Command α := fun s =>
  (m s).bind fun
    | (.ok a, s) => .done (.ok a, s)
    | (.error e, s) => f e s

/-- The open device. -/
def device : Command OpenDevice := fun s => .done (s.device, s)

/-- Fails if a device is open. -/
def requireNotOpen : Command Unit := do
  if (← session).isOpen then fail .alreadyOpen

/-- Changes the open device. -/
def update (f : OpenDevice → OpenDevice) : Command Unit := do
  let d ← device
  modify fun s => { s with link := .opened (f d) }

/-- A control request without data to the channel that is open. -/
def controlOut (request : UInt8) (value : UInt16) : Command Unit := do
  let d ← device
  let s ← session
  ask (.controlOut d.handle request value d.channel.index s.options.writeTimeout)

/-- A control request for `length` bytes; a shorter reply is an error. -/
def controlIn (request : UInt8) (index length : UInt16) : Command (List UInt8) := do
  let d ← device
  let s ← session
  let data ← ask (.controlIn d.handle request 0 index length s.options.readTimeout)
  if data.length < length.toNat then fail (.shortTransfer length.toNat data.length)
  else pure data

/-- Writes bytes in chunks, `sent` having gone out before, and tells how many the device has taken.
A device may take part of a chunk; the next one begins behind that part. -/
def sendAll (d : OpenDevice) (chunk timeout : Nat) :
    List UInt8 → Nat → Program (Except Error Nat)
  | [], sent => .done (.ok sent)
  | b :: rest, sent =>
    let piece := (b :: rest).take chunk
    .call (.bulkWrite d.handle d.channel.outEndpoint piece timeout) fun
      | .error e => .done (.error e)
      | .ok 0 => .done (.error (.shortTransfer piece.length 0))
      | .ok (more + 1) => sendAll d chunk timeout (rest.drop more) (sent + (more + 1))
termination_by data => data.length
decreasing_by
  rw [List.length_drop, List.length_cons]
  exact Nat.lt_succ_of_le (Nat.sub_le _ _)

/-- Writes bytes to the open device and tells how many it has taken. -/
def bulkWrite (data : List UInt8) : Command Nat := do
  let d ← device
  fun s => (sendAll d s.options.writeChunk s.options.writeTimeout data 0).bind fun r => .done (r, s)

end Command

end PinBridge
