import PinBridge.Interface
import PinBridge.Note

/-!
# Programs of bus calls

All that the library does on a bus is a `Program`: a tree of bus calls (`Call`) in which each reply,
also a failed one, leads on to a continuation. A program does not fix what the devices answer, so a
statement on all of its branches holds for every bus. A `Bus` is a world that answers calls, and
`Program.run` plays a program in it.

A program may also end in a *crash*, an index or a division that has no result, and a bus may crash
in a call. To play one program after another is to play both as one (`Program.run_bind`).
-/

namespace PinBridge

/-- An open device, as the bus hands it out. -/
structure Handle where
  /-- The number by which the bus knows it. -/
  id : Nat
  release : UInt16
  hasSerial : Bool
  /-- The packet size of the bulk endpoints, if the device tells. -/
  packetSize : Option Nat
  deriving DecidableEq

/-- A call on the bus. Timeouts are in milliseconds. -/
inductive Call
  | list
  | strings (device : Descriptor) (timeout : Nat)
  | openDevice (device : Descriptor) (interface : Interface)
  | controlOut (handle : Handle) (request : UInt8) (value index : UInt16) (timeout : Nat)
  | controlIn (handle : Handle) (request : UInt8) (value index length : UInt16) (timeout : Nat)
  | bulkWrite (handle : Handle) (endpoint : UInt8) (data : List UInt8) (timeout : Nat)
  | bulkRead (handle : Handle) (endpoint : UInt8) (length : Nat) (timeout : Nat)
  deriving DecidableEq

/-- What a call yields when it succeeds. -/
abbrev Call.Answer : Call → Type
  | .list => List Descriptor
  | .strings .. => Strings
  | .openDevice .. => Handle
  | .controlOut .. => Unit
  | .controlIn .. => List UInt8
  | .bulkWrite .. => Nat
  | .bulkRead .. => List UInt8

/-- The reply to a call. -/
abbrev Call.Reply (c : Call) : Type := Except Error c.Answer

/-- A tree of bus calls that ends in values, with notes on the way. -/
inductive Program (α : Type) : Type
  | done (value : α)
  | crash
  | call (c : Call) (next : c.Reply → Program α)
  | release (handle : Handle) (rest : Program α)
  | note (n : Note) (rest : Program α)

namespace Program

variable {α β σ : Type}

/-- Goes on with the value that a program ends in. -/
def bind : Program α → (α → Program β) → Program β
  | done value, f => f value
  | crash, _ => crash
  | call c next, f => call c fun reply => (next reply).bind f
  | release handle rest, f => release handle (rest.bind f)
  | note n rest, f => note n (rest.bind f)

instance : Monad Program where
  pure := done
  bind := bind

theorem bind_done (p : Program α) : p.bind done = p := by
  induction p with
  | done value => rfl
  | crash => rfl
  | call c next ih => exact congrArg (call c) (funext ih)
  | release handle rest ih => exact congrArg (release handle) ih
  | note n rest ih => exact congrArg (note n) ih

theorem bind_assoc {γ : Type} (p : Program α) (f : α → Program β) (g : β → Program γ) :
    (p.bind f).bind g = p.bind fun value => (f value).bind g := by
  induction p with
  | done value => rfl
  | crash => rfl
  | call c next ih => exact congrArg (call c) (funext ih)
  | release handle rest ih => exact congrArg (release handle) ih
  | note n rest ih => exact congrArg (note n) ih

end Program

/-- A world of devices that answers calls: each reply with the world afterwards, and no reply where
the call crashes. -/
structure Bus (σ : Type) where
  reply : (c : Call) → σ → Option c.Reply × σ
  release : Handle → σ → σ
  note : Note → σ → σ

/-- Plays a program on a bus: the value it ends in, if it does not crash, and the world then. -/
def Program.run {α σ : Type} (bus : Bus σ) : Program α → σ → Option α × σ
  | done value, world => (some value, world)
  | crash, world => (none, world)
  | call c next, world =>
    match bus.reply c world with
    | (some reply, world) => run bus (next reply) world
    | (none, world) => (none, world)
  | release handle rest, world => run bus rest (bus.release handle world)
  | note n rest, world => run bus rest (bus.note n world)

/-- A program that goes on with the value of another is played in the world left by the other. -/
theorem Program.run_bind {α β σ : Type} (bus : Bus σ) (p : Program α) (f : α → Program β)
    (world : σ) :
    (p.bind f).run bus world =
      match p.run bus world with
      | (some value, world) => (f value).run bus world
      | (none, world) => (none, world) := by
  induction p generalizing world with
  | done value => rfl
  | crash => rfl
  | call c next ih =>
    simp only [bind, run]
    split
    · exact ih _ _
    · rfl
  | release handle rest ih => exact ih _
  | note n rest ih => exact ih _

/-- A bus that keeps the notes of the programs it plays, in order. -/
def Bus.noting {σ : Type} (bus : Bus σ) : Bus (σ × List Note) where
  reply c world :=
    let (reply, after) := bus.reply c world.1
    (reply, after, world.2)
  release handle world := (bus.release handle world.1, world.2)
  note n world := (bus.note n world.1, world.2 ++ [n])

end PinBridge
