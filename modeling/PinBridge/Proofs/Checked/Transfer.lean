import PinBridge.Proofs.Checked.Basic
import PinBridge.Proofs.Packet
import PinBridge.Session.Receive

/-!
# Transfers in machine words

A reply is stripped in place, and bytes go out in pieces of a buffer that an offset runs over. Both
are written out here with their offsets and copies (`strip`, `sendAll`). For a reply of any length
that memory has room for and packets of any size that a word has room for, no copy leaves the buffer
(`strip_eq`); and the offset may run past the end of the bytes to write, where a device claims to
have taken more than it was given, but no piece does (`sendAll_eq`).

The sums of the offset with the size of a chunk, and with what was taken, are left as they are.
-/

namespace PinBridge.Checked

open Packet (headerSize)

/-! ### Receiving -/

/-- Moves together the payloads of the packets from `start` on, behind the `kept` bytes that the
earlier ones take. -/
def compact (size total : Nat) (positive : 0 < size) (buffer : List UInt8) (start kept : Nat) :
    Option (List UInt8 × Nat) :=
  if start < total then do
    let _ ← fits 64 (start + size)
    let stop := min (start + size) total
    let payload ← fits 64 (start + headerSize)
    if payload < stop then
      let moved ← copyWithin buffer payload stop kept
      let more ← fits 64 (kept + (← sub stop payload))
      compact size total positive moved stop more
    else compact size total positive buffer stop kept
  else some (buffer, kept)
termination_by total - start

theorem size_pos {size : Nat} {buffer : List UInt8}
    (h : headerSize < size ∧ headerSize < buffer.length) : 0 < size := Nat.zero_lt_of_lt h.1

/-- The buffer with the payloads of its packets moved to the front, and their length. -/
def strip (size : Nat) (buffer : List UInt8) : Option (List UInt8 × Nat) :=
  if h : headerSize < size ∧ headerSize < buffer.length then
    compact size buffer.length (size_pos h) buffer 0 0
  else some (buffer, 0)

/-- **The moves stay within the buffer.** They begin at the first packet or behind a whole one, so
that a packet size beyond the buffer is added to nothing but zero. -/
theorem compact_eq {size total : Nat} (positive : 0 < size) (hsize : size < 2 ^ 64)
    (htotal : total < 2 ^ 63) :
    ∀ (buffer : List UInt8) (start kept : Nat), buffer.length = total → kept ≤ start →
      start ≤ total → start = 0 ∨ size ≤ start ∨ start = total →
      compact size total positive buffer start kept =
        some (Packet.compact size total positive buffer start kept) := by
  have hheader : headerSize = 2 := rfl
  intro buffer start kept
  induction buffer, start, kept using Packet.compact.induct size total positive with
  | case1 buffer start kept hlt stop payload hpayload ih =>
    intro hlen hkept hstart hwhole
    have hstop : stop = min (start + size) total := rfl
    have hbody : payload = start + headerSize := rfl
    have hnext : start + size < 2 ^ 64 := by omega
    have hfits : payload < 2 ^ 64 := by omega
    have hmore : kept + (stop - payload) < 2 ^ 64 := by omega
    have hmoved : (Packet.moveWithin buffer payload stop kept).length = total := by
      rw [← hlen]
      exact Packet.length_moveWithin (Nat.le_of_lt hpayload) (by omega) (by omega)
    rw [compact, Packet.compact, if_pos hlt, if_pos hlt, fits_of_lt hnext]
    simp only [Option.bind_eq_bind, Option.bind_some, ← hstop, ← hbody, fits_of_lt hfits]
    rw [if_pos hpayload, if_pos hpayload,
      copyWithin_of_le (Nat.le_of_lt hpayload) (by omega) (by omega), Option.bind_some,
      sub_of_le (Nat.le_of_lt hpayload), Option.bind_some, fits_of_lt hmore, Option.bind_some]
    exact ih hmoved (by omega) (by omega) (by omega)
  | case2 buffer start kept hlt stop payload hpayload ih =>
    intro hlen hkept hstart hwhole
    have hstop : stop = min (start + size) total := rfl
    have hbody : payload = start + headerSize := rfl
    have hnext : start + size < 2 ^ 64 := by omega
    have hfits : payload < 2 ^ 64 := by omega
    rw [compact, Packet.compact, if_pos hlt, if_pos hlt, fits_of_lt hnext]
    simp only [Option.bind_eq_bind, Option.bind_some, ← hstop, ← hbody, fits_of_lt hfits]
    rw [if_neg hpayload, if_neg hpayload]
    exact ih hlen (by omega) (by omega) (by omega)
  | case3 buffer start kept hlt =>
    intro _ _ _ _
    rw [compact, Packet.compact, if_neg hlt, if_neg hlt]

/-- **Stripping stays within the reply.** -/
theorem strip_eq {size : Nat} {buffer : List UInt8} (hsize : size < 2 ^ 64)
    (hbuffer : buffer.length < 2 ^ 63) : strip size buffer = some (Packet.strip size buffer) := by
  unfold strip Packet.strip
  split
  · exact compact_eq _ hsize hbuffer buffer 0 0 rfl (Nat.le_refl _) (Nat.zero_le _) (.inl rfl)
  · rfl

/-! ### Writing -/

/-- Writes the bytes of a buffer from an offset on, and tells how far it has come. -/
def sendAll (d : OpenDevice) (chunk timeout : Nat) (data : List UInt8) (offset : Nat) :
    Program (Except Error Nat) :=
  if offset < data.length then
    let stop := min (offset + chunk) data.length
    match slice data offset stop, sub stop offset with
    | some piece, some expected =>
      .call (.bulkWrite d.handle d.channel.outEndpoint piece timeout) fun
        | .error e => .done (.error e)
        | .ok 0 => .done (.error (.shortTransfer expected 0))
        | .ok (more + 1) => sendAll d chunk timeout data (offset + (more + 1))
    | _, _ => .crash
  else .done (.ok offset)
termination_by data.length - offset

/-- **The pieces stay within the bytes to write**, whatever the device says it has taken. -/
theorem sendAll_eq (d : OpenDevice) (chunk timeout : Nat) (data : List UInt8) (offset : Nat) :
    sendAll d chunk timeout data offset =
      Command.sendAll d chunk timeout (data.drop offset) offset := by
  by_cases hlt : offset < data.length
  · obtain ⟨b, rest, hrest⟩ : ∃ b rest, data.drop offset = b :: rest :=
      List.exists_cons_of_ne_nil (by rw [ne_eq, List.drop_eq_nil_iff]; omega)
    have hle : offset ≤ min (offset + chunk) data.length := by omega
    have hpiece : (data.take (min (offset + chunk) data.length)).drop offset =
        (b :: rest).take chunk := by
      rw [← hrest, List.take_drop, ← List.take_eq_take_min]
    have hexpected : min (offset + chunk) data.length - offset =
        ((b :: rest).take chunk).length := by
      rw [← hpiece, List.length_drop, List.length_take]
      omega
    have hdrop : ∀ more, data.drop (offset + (more + 1)) = rest.drop more := by
      intro more
      rw [← List.drop_drop, hrest, List.drop_succ_cons]
    rw [sendAll, if_pos hlt, hrest, Command.sendAll]
    simp only [slice_of_le hle (Nat.min_le_right _ _), sub_of_le hle, hpiece, hexpected]
    refine congrArg (Program.call _) (funext fun reply => ?_)
    rcases reply with e | _ | more
    · rfl
    · rfl
    · exact (sendAll_eq d chunk timeout data (offset + (more + 1))).trans (by rw [hdrop])
  · rw [sendAll, if_neg hlt, List.drop_eq_nil_of_le (Nat.le_of_not_lt hlt), Command.sendAll]
termination_by data.length - offset

end PinBridge.Checked
