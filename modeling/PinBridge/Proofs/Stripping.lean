import PinBridge.Proofs.Checked.Transfer

/-!
# Stripping in place

A buffer is stripped at once where there is no room for a payload, and else in one pass for each
packet. The moves overlap, but none reaches bytes that have not been read (`Underway`), so that
the buffer keeps its length and begins with the payload (`strip_inFront`). Bytes that are sent in
full packets are the payload of what arrives, whatever the headers are (`payload_framed`).

* `stripped_in_place` : how stripping ends, and what it leaves.
-/

namespace PinBridge.Packet

variable {size : Nat}

/-! ### Packets of their own -/

/-- A piece behind the header of its number. -/
def behindHeader (header : Nat → UInt8 × UInt8) (piece : List UInt8 × Nat) : List UInt8 :=
  (header piece.2).1 :: (header piece.2).2 :: piece.1

/-- **Bytes in full packets**, the last one possibly shorter, each behind a header of its own. -/
def framed (size : Nat) (header : Nat → UInt8 × UInt8) (bytes : List UInt8) : List UInt8 :=
  (packets (size - headerSize) bytes).zipIdx.flatMap (behindHeader header)

/-- The packets from some number on. -/
theorem payload_framed_from (hsize : headerSize < size) (header : Nat → UInt8 × UInt8)
    (bytes : List UInt8) : ∀ n,
      payload size (((packets (size - headerSize) bytes).zipIdx n).flatMap (behindHeader header)) =
        bytes := by
  have hheader : headerSize = 2 := rfl
  induction bytes using packets.induct (size - headerSize) with
  | case1 =>
    intro n
    rw [packets, List.zipIdx_nil, List.flatMap_nil, payload_nil]
  | case2 b left ih =>
    intro n
    rw [packets, List.zipIdx_cons, List.flatMap_cons, payload_append hsize, ih (n + 1)]
    · exact congrArg (b :: ·) (List.take_append_drop _ _)
    · -- a piece that leaves bytes behind fills its packet
      by_cases hfull : size - headerSize - 1 ≤ left.length
      · refine .inl ?_
        simp only [behindHeader, List.length_cons, List.length_take]
        omega
      · refine .inr ⟨?_, ?_⟩
        · simp only [behindHeader, List.length_cons, List.length_take]
          omega
        · rw [List.drop_eq_nil_of_le (by omega), packets]
          rfl

/-- **What is sent in full packets arrives.** -/
theorem payload_framed (hsize : headerSize < size) (header : Nat → UInt8 × UInt8)
    (bytes : List UInt8) : payload size (framed size header bytes) = bytes :=
  payload_framed_from hsize header bytes 0

/-! ### What is left in front -/

/-- **Some bytes are in front**: so many are counted, and the buffer begins with them. -/
structure InFront (bytes : List UInt8) (result : List UInt8 × Nat) : Prop where
  count : result.2 = bytes.length
  take : result.1.take result.2 = bytes

/-- The buffer keeps its length, and no more bytes are counted than it has. -/
theorem strip_within (size : Nat) (data : List UInt8) :
    (strip size data).1.length = data.length ∧ (strip size data).2 ≤ data.length := by
  by_cases h : headerSize < size ∧ headerSize < data.length
  · obtain ⟨last, run, -, hresult⟩ := strip_passes h.1 h.2
    have hlast := (Underway.initial size data).passes h.1 run
    rw [hresult]
    exact ⟨hlast.length, Nat.le_trans hlast.behind hlast.within⟩
  · rw [strip_of_le (by omega)]
    exact ⟨rfl, Nat.zero_le _⟩

/-- **Stripping leaves the payload in front.** -/
theorem strip_inFront (size : Nat) (data : List UInt8) :
    InFront (payload size data) (strip size data) := by
  obtain ⟨hlength, hcount⟩ := strip_within size data
  refine ⟨?_, take_strip size data⟩
  rw [← take_strip size data, List.length_take, hlength, Nat.min_eq_left hcount]

/-- **Stripping a buffer.** It ends at once where packets or data have room for no more than a
header, and else after one pass for each packet, and no sum or copy of it goes beyond what a machine
has room for. The buffer keeps its length, and the payload of the data is in front: the consecutive
packets without their headers, all of it and nothing else. So bytes that have been sent in full
packets come out as they were, whatever their headers are. -/
theorem stripped_in_place (size : Nat) (data : List UInt8) :
    ((size ≤ headerSize ∨ data.length ≤ headerSize) ∧ strip size data = (data, 0) ∨
      (headerSize < size ∧ headerSize < data.length) ∧ ∃ last,
        Passes size data.length (packets size data).length ⟨data, 0, 0⟩ last ∧
          last.pass? size data.length = none ∧ strip size data = (last.buffer, last.kept)) ∧
      (size < 2 ^ 64 → data.length < 2 ^ 63 →
        Checked.strip size data = some (strip size data)) ∧
      (strip size data).1.length = data.length ∧
      InFront (payload size data) (strip size data) ∧
      ∀ header bytes, headerSize < size → InFront bytes (strip size (framed size header bytes)) := by
  refine ⟨?_, Checked.strip_eq, (strip_within size data).1, strip_inFront size data, ?_⟩
  · by_cases h : headerSize < size ∧ headerSize < data.length
    · exact .inr ⟨h, strip_passes h.1 h.2⟩
    · have hroom : size ≤ headerSize ∨ data.length ≤ headerSize := by omega
      exact .inl ⟨hroom, strip_of_le hroom⟩
  · intro header bytes hsize
    have hfront := strip_inFront size (framed size header bytes)
    rwa [payload_framed hsize header bytes] at hfront

/-- Five bytes. -/
def Sample.sent : List UInt8 := [0xA0, 0xA1, 0xA2, 0xA3, 0xA4]

/-- The header of the second packet differs from the others. -/
def Sample.header (n : Nat) : UInt8 × UInt8 := (0x01, if n = 1 then 0x62 else 0x60)

/-- The five bytes in two packets of four bytes and a shorter one. -/
def Sample.arrived : List UInt8 :=
  [0x01, 0x60, 0xA0, 0xA1, 0x01, 0x62, 0xA2, 0xA3, 0x01, 0x60, 0xA4]

theorem Sample.packets_arrived : packets 4 Sample.arrived =
    [[0x01, 0x60, 0xA0, 0xA1], [0x01, 0x62, 0xA2, 0xA3], [0x01, 0x60, 0xA4]] := by
  simp [Sample.arrived, packets]

theorem Sample.framed_sent : framed 4 Sample.header Sample.sent = Sample.arrived := by
  simp [framed, behindHeader, Sample.sent, Sample.header, Sample.arrived, headerSize, packets]

/-- Three passes bring the five bytes to the front, over bytes that they have read. -/
theorem stripped_in_place_three :
    framed 4 Sample.header Sample.sent = Sample.arrived ∧
      (∃ last, Passes 4 11 3 ⟨Sample.arrived, 0, 0⟩ last ∧
        strip 4 Sample.arrived = (last.buffer, last.kept)) ∧
      Checked.strip 4 Sample.arrived = some (strip 4 Sample.arrived) ∧
      (strip 4 Sample.arrived).2 = 5 ∧ (strip 4 Sample.arrived).1.take 5 = Sample.sent := by
  obtain ⟨hends, hchecked, -, -, hframed⟩ := stripped_in_place 4 Sample.arrived
  rw [Sample.packets_arrived] at hends
  obtain ⟨hcount, htake⟩ := hframed Sample.header Sample.sent (by decide)
  rw [hcount, Sample.framed_sent] at htake
  rw [Sample.framed_sent] at hcount
  refine ⟨Sample.framed_sent, ?_, hchecked (by decide) (by decide), hcount, htake⟩
  rcases hends with ⟨hroom, -⟩ | ⟨-, last, run, -, hresult⟩
  · exact absurd hroom (by decide)
  · exact ⟨last, run, hresult⟩

end PinBridge.Packet
