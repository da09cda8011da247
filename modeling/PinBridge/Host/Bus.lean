import PinBridge.Host.Kernel

/-!
# The bus of a host

The calls of the library on the kernel's devices. A device is looked up anew for every call that
names one, and a handle stands for one claimed interface of an open device.
-/

namespace PinBridge.Host

namespace Step

/-- The devices, in the order of their places. -/
def list : Step (List Descriptor) := do
  return ((← devices).mergeSort Device.before).map (·.descriptor)

/-- The three strings of an open device. -/
def allStrings (node : Node) : Step Strings := do
  let manufacturer ← string node node.indexes.manufacturer
  let description ← string node node.indexes.description
  let serial ← string node node.indexes.serial
  return ⟨manufacturer, description, serial⟩

/-- Opens a device to read its strings. -/
def strings (d : Descriptor) : Step Strings := do
  let node ← openNode (← lookup d)
  let result ← attempt (allStrings node)
  record .closed
  ExceptT.mk (pure result)

/-- The handle of a claim; the handles are numbered in the order in which they are given out. -/
def handle (claim : Claim) : Step Handle := do
  let k ← get
  set { k with claims := k.claims ++ [claim] }
  return {
    id := k.claims.length
    release := claim.node.release
    hasSerial := claim.node.indexes.serial != 0
    packetSize := claim.node.active?.bind fun c => c.packetSize? claim.interface }

/-- Opens a device and claims an interface of it. -/
def openDevice (d : Descriptor) (interface : Interface) : Step Handle := do
  let node ← openNode (← lookup d)
  let number := interface.channel.number
  match ← claim node number with
  | some fault =>
    note (.claimRefused number fault)
    record .closed
    fail .claimFailed
  | none =>
    note (.attached d node.release)
    handle ⟨node, number⟩

/-- The claim of a handle. -/
def claimOf (h : Handle) : Step Claim := do
  match (← get).claims[h.id]? with
  | some claim => return claim
  | none => fail .deviceNotFound

/-- Makes a call. -/
def make : (c : Call) → Step c.Answer
  | .list => list
  | .strings d _ => strings d
  | .openDevice d interface => openDevice d interface
  | .controlOut _ request value index _ => do
    note (.sentControl request value index)
    controlOut request value index
  | .controlIn _ request value index length _ => do
    let data ← controlIn request value index length
    note (.gotControl request value index data.length)
    return data
  | .bulkWrite h address data _ => do
    let n ← bulkWrite (← claimOf h) address data
    note (.sentBulk address n)
    return n
  | .bulkRead h address length _ => do
    let data ← bulkRead (← claimOf h) address length
    note (.gotBulk address data.length)
    return data

/-- Gives a claimed interface back and closes its device. -/
def release (h : Handle) : Step Unit := do
  record (.released (← claimOf h).interface)
  record .closed

end Step

/-- The reply that a step ends in; there is none if it crashes. -/
def replyOf {α : Type} : Except Stop α → Option (Except Error α)
  | .ok a => some (.ok a)
  | .error (.failed e) => some (.error e)
  | .error .crashed => none

/-- The bus of a host. -/
def bus : Bus Kernel where
  reply c k := Prod.map replyOf id ((Step.make c).run k)
  release h k := ((Step.release h).run k).2
  note n k := ((Step.note n).run k).2

/-- A handle in words. -/
def handleText (h : Handle) : String :=
  let packetSize := match h.packetSize with
    | some n => "Some(" ++ toString n ++ ")"
    | none => "None"
  Fields.textAndMore "NusbDevice"
    [("release_number", toString h.release.toNat), ("max_packet_size", packetSize)]

end PinBridge.Host
