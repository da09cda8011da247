import PinBridge.Session.Command

/-!
# Looking devices up

`findAll` lists the devices with a pair of IDs, `getStrings` asks a device for its strings, and
`findDevice` picks the device that a filter describes, asking for strings only where it must.
-/

namespace PinBridge.Command

/-- How long a device may take to answer for a string, in milliseconds. -/
def stringTimeout : Nat := 1000

/-- The devices with the IDs, in the order of the bus. -/
def findAll (vendor product : UInt16) : Command (List Descriptor) := do
  let devices ← ask .list
  let found := devices.filter fun d => d.matchesIds vendor product
  note (.found vendor product found.length)
  return found

/-- The strings of a device. -/
def getStrings (d : Descriptor) : Command Strings := ask (.strings d stringTimeout)

/-- Whether a device has the strings that a filter asks for. -/
def fits (f : Filter) (d : Descriptor) : Command Bool := do
  if f.needsStrings then
    let strings ← getStrings d
    return f.accepts strings
  else return true

/-- Skips so many fitting candidates and takes the next one. -/
def pick (f : Filter) : List Descriptor → Nat → Command Descriptor
  | [], _ => fail .deviceNotFound
  | d :: rest, skip => do
    if ← fits f d then
      match skip with
      | 0 => return d
      | skip + 1 => pick f rest skip
    else pick f rest skip

/-- The device that a filter describes. -/
def findDevice (f : Filter) : Command Descriptor := do
  let candidates ← findAll f.vendor f.product
  pick f candidates f.index

end PinBridge.Command
