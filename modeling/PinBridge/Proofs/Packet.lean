import PinBridge.Packet

/-!
# What stripping leaves

`strip` works in place: it moves each payload to the end of the earlier ones, over bytes that have
been read. `payload` says plainly what should come of it: the data cut into packets (`packets`),
each without its first two bytes.

A compaction goes packet by packet. `Progress.pass?` is what it does with one of them, and
`compact_passes` says that the whole of it is a run of such passes, one for each packet. The
invariant of the passes is `Underway`: what is kept never reaches the packet that comes next,
because each packet has lost its header, and what comes from there on is still as it was. Where no
packet is left, the payload stands at the front (`take_strip`).
-/

namespace PinBridge.Packet

/-! ## The plain definition -/

/-- The packets of some data, the last one possibly shorter. -/
def packets (size : Nat) : List UInt8 → List (List UInt8)
  | [] => []
  | b :: rest => (b :: rest.take (size - 1)) :: packets size (rest.drop (size - 1))
termination_by data => data.length
decreasing_by
  rw [List.length_drop, List.length_cons]
  exact Nat.lt_succ_of_le (Nat.sub_le _ _)

/-- **The payload of some data**: its packets without their headers; packets that have room for
nothing else have none. -/
def payload (size : Nat) (data : List UInt8) : List UInt8 :=
  if size ≤ headerSize then [] else (packets size data).flatMap fun packet => packet.drop headerSize

/-- The first packet, and those of the rest. -/
theorem packets_of_ne_nil {size : Nat} (hsize : 0 < size) {data : List UInt8} (h : data ≠ []) :
    packets size data = data.take size :: packets size (data.drop size) := by
  obtain ⟨b, rest, rfl⟩ := List.exists_cons_of_ne_nil h
  obtain ⟨n, rfl⟩ : ∃ n, size = n + 1 := ⟨size - 1, by omega⟩
  rw [packets, List.take_succ_cons, List.drop_succ_cons]
  rfl

theorem payload_of_ne_nil {size : Nat} (hsize : headerSize < size) {data : List UInt8}
    (h : data ≠ []) :
    payload size data = (data.take size).drop headerSize ++ payload size (data.drop size) := by
  have hpos : 0 < size := by omega
  unfold payload
  rw [if_neg (by omega), if_neg (by omega), packets_of_ne_nil hpos h, List.flatMap_cons]

theorem payload_nil (size : Nat) : payload size [] = [] := by
  unfold payload
  rw [packets]
  simp

/-- The payload of a full packet is followed by that of the rest; a packet that is not full is the
last one. -/
theorem payload_append {size : Nat} (hsize : headerSize < size) {packet rest : List UInt8}
    (h : packet.length = size ∨ packet.length ≤ size ∧ rest = []) :
    payload size (packet ++ rest) = packet.drop headerSize ++ payload size rest := by
  by_cases hne : packet ++ rest = []
  · obtain ⟨rfl, rfl⟩ := List.append_eq_nil_iff.mp hne
    rw [List.append_nil, List.drop_nil, List.nil_append]
  · rw [payload_of_ne_nil hsize hne]
    rcases h with hfull | ⟨hshort, rfl⟩
    · rw [List.take_left' hfull, List.drop_left' hfull]
    · rw [List.append_nil, List.take_of_length_le hshort, List.drop_eq_nil_of_le hshort]

/-- Data no longer than a header has no payload. -/
theorem payload_of_length_le {size : Nat} {data : List UInt8} (h : data.length ≤ headerSize) :
    payload size data = [] := by
  by_cases hsize : size ≤ headerSize
  · unfold payload
    rw [if_pos hsize]
  · by_cases hdata : data = []
    · rw [hdata, payload_nil]
    · rw [payload_of_ne_nil (by omega) hdata,
        List.drop_eq_nil_of_le (by rw [List.length_take]; omega),
        List.drop_eq_nil_of_le (by omega), payload_nil, List.nil_append]

/-! ## The moves -/

theorem length_moveWithin {buffer : List UInt8} {start stop target : Nat} (h₁ : start ≤ stop)
    (h₂ : stop ≤ buffer.length) (h₃ : target ≤ start) :
    (moveWithin buffer start stop target).length = buffer.length := by
  unfold moveWithin
  simp only [List.length_append, List.length_take, List.length_drop]
  omega

/-- A move puts the bytes behind those that are kept. -/
theorem take_moveWithin {buffer : List UInt8} {start stop target : Nat} (h₁ : start ≤ stop)
    (h₂ : stop ≤ buffer.length) (h₃ : target ≤ start) :
    (moveWithin buffer start stop target).take (target + (stop - start)) =
      buffer.take target ++ (buffer.take stop).drop start := by
  unfold moveWithin
  have hlen : (buffer.take target ++ (buffer.take stop).drop start).length =
      target + (stop - start) := by
    simp only [List.length_append, List.length_take, List.length_drop]
    omega
  rw [← hlen, List.take_left']
  rfl

/-- A move leaves alone what comes behind the bytes moved. -/
theorem drop_moveWithin {buffer : List UInt8} {start stop target : Nat} (h₁ : start ≤ stop)
    (h₂ : stop ≤ buffer.length) (h₃ : target ≤ start) :
    (moveWithin buffer start stop target).drop stop = buffer.drop stop := by
  unfold moveWithin
  have hlen : (buffer.take target ++ (buffer.take stop).drop start).length =
      target + (stop - start) := by
    simp only [List.length_append, List.length_take, List.length_drop]
    omega
  rw [List.drop_append, hlen, List.drop_eq_nil_of_le (by omega), List.nil_append, List.drop_drop]
  congr 1
  omega

/-! ## The passes -/

/-- **Where a compaction stands**: the next packet starts at `start`, and the payloads of those
before it take the first `kept` bytes. -/
structure Progress where
  buffer : List UInt8
  start : Nat
  kept : Nat

/-- **A pass** moves the payload of the next packet, if it has one, behind those that are kept.
There is none where no packet is left. -/
def Progress.pass? (size total : Nat) (p : Progress) : Option Progress :=
  if p.start < total then
    let stop := min (p.start + size) total
    let payload := p.start + headerSize
    if payload < stop then
      some ⟨moveWithin p.buffer payload stop p.kept, stop, p.kept + (stop - payload)⟩
    else some ⟨p.buffer, stop, p.kept⟩
  else none

/-- So many passes, one after another. -/
inductive Passes (size total : Nat) : Nat → Progress → Progress → Prop
  | none (p : Progress) : Passes size total 0 p p
  | pass {n : Nat} {p q r : Progress} (first : p.pass? size total = some q)
      (rest : Passes size total n q r) : Passes size total (n + 1) p r

variable {size total : Nat} {data : List UInt8} {p q : Progress}

/-- A pass is made just where a packet is left. -/
theorem Progress.pass?_eq_none_iff : p.pass? size total = none ↔ total ≤ p.start := by
  unfold Progress.pass?
  by_cases h : p.start < total
  · rw [if_pos h]
    simp only
    split <;> simp [h]
  · simp [h, Nat.le_of_not_lt h]

/-- **What a pass does**: it goes to the end of the next packet, and moves the payload or finds that
there is none. -/
theorem Progress.of_pass (h : p.pass? size total = some q) :
    p.start < total ∧ q.start = min (p.start + size) total ∧
      (p.start + headerSize < q.start ∧
          q.buffer = moveWithin p.buffer (p.start + headerSize) q.start p.kept ∧
          q.kept = p.kept + (q.start - (p.start + headerSize)) ∨
        q.start ≤ p.start + headerSize ∧ q.buffer = p.buffer ∧ q.kept = p.kept) := by
  unfold Progress.pass? at h
  split at h
  · next hlt =>
    simp only at h
    split at h
    · next hbody =>
      obtain rfl := Option.some.inj h
      exact ⟨hlt, rfl, .inl ⟨hbody, rfl, rfl⟩⟩
    · next hbody =>
      obtain rfl := Option.some.inj h
      exact ⟨hlt, rfl, .inr ⟨Nat.le_of_not_lt hbody, rfl, rfl⟩⟩
  · cases h

/-- The next packet, and those behind it. -/
theorem packets_drop (hsize : 0 < size) (data : List UInt8) (start : Nat)
    (h : start < data.length) :
    packets size (data.drop start) =
      (data.take (min (start + size) data.length)).drop start ::
        packets size (data.drop (min (start + size) data.length)) := by
  have hne : data.drop start ≠ [] := by
    rw [ne_eq, List.drop_eq_nil_iff]
    omega
  have htake : data.take (start + size) = data.take (min (start + size) data.length) := by
    rw [List.take_eq_take_iff]
    omega
  have hdrop : data.drop (start + size) = data.drop (min (start + size) data.length) := by
    rcases Nat.le_total (start + size) data.length with hle | hle
    · rw [Nat.min_eq_left hle]
    · rw [Nat.min_eq_right hle, List.drop_length, List.drop_eq_nil_of_le hle]
  rw [packets_of_ne_nil hsize hne, List.take_drop, List.drop_drop, htake, hdrop]

theorem payload_drop (hsize : headerSize < size) (data : List UInt8) (start : Nat)
    (h : start < data.length) :
    payload size (data.drop start) =
      (data.take (min (start + size) data.length)).drop (start + headerSize) ++
        payload size (data.drop (min (start + size) data.length)) := by
  have hpos : 0 < size := by omega
  unfold payload
  rw [if_neg (by omega), if_neg (by omega), packets_drop hpos data start h, List.flatMap_cons,
    List.drop_drop]

/-- A pass is one step of the compaction. -/
theorem compact_of_pass (positive : 0 < size) (h : p.pass? size total = some q) :
    compact size total positive p.buffer p.start p.kept =
      compact size total positive q.buffer q.start q.kept := by
  obtain ⟨hlt, hstop, hmove⟩ := Progress.of_pass h
  rw [compact, if_pos hlt]
  simp only [← hstop]
  rcases hmove with ⟨hbody, hbuffer, hkept⟩ | ⟨hbody, hbuffer, hkept⟩
  · rw [if_pos hbody, hbuffer, hkept]
  · rw [if_neg (Nat.not_lt.mpr hbody), hbuffer, hkept]

/-- **The compaction is a run of passes**, one for each packet, up to where none is left. -/
theorem compact_passes (positive : 0 < size) (data : List UInt8) (p : Progress) : ∃ last,
    Passes size data.length (packets size (data.drop p.start)).length p last ∧
      last.pass? size data.length = none ∧
      compact size data.length positive p.buffer p.start p.kept = (last.buffer, last.kept) := by
  generalize hn : (packets size (data.drop p.start)).length = n
  -- on the number of packets that are left
  induction n generalizing p with
  | zero =>
    have hstart : data.length ≤ p.start := by
      refine Nat.le_of_not_lt fun hlt => ?_
      rw [packets_drop positive data p.start hlt, List.length_cons] at hn
      omega
    refine ⟨p, .none p, Progress.pass?_eq_none_iff.mpr hstart, ?_⟩
    rw [compact, if_neg (Nat.not_lt.mpr hstart)]
  | succ n ih =>
    cases hpass : p.pass? size data.length with
    | none =>
      have hstart := Progress.pass?_eq_none_iff.mp hpass
      rw [List.drop_eq_nil_of_le hstart, packets] at hn
      cases hn
    | some q =>
      obtain ⟨hlt, hstop, -⟩ := Progress.of_pass hpass
      have hleft : (packets size (data.drop q.start)).length = n := by
        rw [packets_drop positive data p.start hlt, ← hstop, List.length_cons] at hn
        exact Nat.succ.inj hn
      obtain ⟨last, run, hlast, hresult⟩ := ih q hleft
      exact ⟨last, .pass hpass run, hlast, (compact_of_pass positive hpass).trans hresult⟩

/-! ## What the passes keep -/

/-- **A compaction of some data under way.** What is kept does not reach the next packet, and what
comes from there on has not been touched; together they have the payload of the data. -/
structure Underway (size : Nat) (data : List UInt8) (p : Progress) : Prop where
  length : p.buffer.length = data.length
  behind : p.kept ≤ p.start
  within : p.start ≤ data.length
  unread : p.buffer.drop p.start = data.drop p.start
  whole : p.buffer.take p.kept ++ payload size (p.buffer.drop p.start) = payload size data

namespace Underway

theorem initial (size : Nat) (data : List UInt8) : Underway size data ⟨data, 0, 0⟩ :=
  ⟨rfl, Nat.le_refl _, Nat.zero_le _, rfl, by simp⟩

/-- The bytes farther on have not been touched either. -/
theorem drop_eq (h : Underway size data p) {stop : Nat} (hstop : p.start ≤ stop) :
    p.buffer.drop stop = data.drop stop := by
  obtain ⟨n, rfl⟩ := Nat.exists_eq_add_of_le hstop
  rw [← List.drop_drop, ← List.drop_drop, h.unread]

/-- **A pass keeps a compaction under way.** -/
theorem pass (h : Underway size data p) (hsize : headerSize < size)
    (hpass : p.pass? size data.length = some q) : Underway size data q := by
  have hlength := h.length
  have hbehind := h.behind
  obtain ⟨hlt, hstop, hmove⟩ := Progress.of_pass hpass
  have hnext : p.buffer.take p.kept ++ (p.buffer.take q.start).drop (p.start + headerSize) ++
      payload size (p.buffer.drop q.start) = payload size data := by
    rw [← h.whole, payload_drop hsize p.buffer p.start (hlength ▸ hlt), hlength, ← hstop,
      List.append_assoc]
  have hunread : p.buffer.drop q.start = data.drop q.start := h.drop_eq (by omega)
  rcases hmove with ⟨hbody, hbuffer, hkept⟩ | ⟨hbody, hbuffer, hkept⟩
  · have hle : p.start + headerSize ≤ q.start := Nat.le_of_lt hbody
    have hwithin : q.start ≤ p.buffer.length := by omega
    have hbefore : p.kept ≤ p.start + headerSize := by omega
    refine ⟨?_, by omega, by omega, ?_, ?_⟩
    · rw [hbuffer, length_moveWithin hle hwithin hbefore, hlength]
    · rw [hbuffer, drop_moveWithin hle hwithin hbefore, hunread]
    · rw [hbuffer, hkept, take_moveWithin hle hwithin hbefore,
        drop_moveWithin hle hwithin hbefore, hnext]
  · -- a packet that is all header has nothing to move
    have hshort : (p.buffer.take q.start).drop (p.start + headerSize) = [] := by
      rw [List.drop_eq_nil_iff, List.length_take]
      omega
    rw [hshort, List.append_nil] at hnext
    exact ⟨by rw [hbuffer, hlength], by omega, by omega, by rw [hbuffer, hunread],
      by rw [hbuffer, hkept, hnext]⟩

/-- And so does a run of passes. -/
theorem passes {n : Nat} (h : Underway size data p) (hsize : headerSize < size)
    (run : Passes size data.length n p q) : Underway size data q := by
  induction run with
  | none => exact h
  | pass first _ ih => exact ih (h.pass hsize first)

/-- **Where no packet is left**, what is kept is the payload. -/
theorem take_eq (h : Underway size data p) (hlast : p.pass? size data.length = none) :
    p.buffer.take p.kept = payload size data := by
  have hstart := Progress.pass?_eq_none_iff.mp hlast
  rw [← h.whole, List.drop_eq_nil_of_le (h.length ▸ hstart), payload_nil, List.append_nil]

end Underway

/-! ## Stripping -/

/-- Nothing is moved where there is no room for a payload. -/
theorem strip_of_le (h : size ≤ headerSize ∨ data.length ≤ headerSize) :
    strip size data = (data, 0) := by
  unfold strip
  rw [dif_neg (by omega)]

/-- **Stripping is a run of passes** over the buffer. -/
theorem strip_passes (hsize : headerSize < size) (hdata : headerSize < data.length) : ∃ last,
    Passes size data.length (packets size data).length ⟨data, 0, 0⟩ last ∧
      last.pass? size data.length = none ∧ strip size data = (last.buffer, last.kept) := by
  unfold strip
  rw [dif_pos ⟨hsize, hdata⟩]
  exact compact_passes (Nat.zero_lt_of_lt hsize) data ⟨data, 0, 0⟩

/-- **Stripping leaves the payload** at the front of the buffer. -/
theorem take_strip (size : Nat) (buffer : List UInt8) :
    (strip size buffer).1.take (strip size buffer).2 = payload size buffer := by
  by_cases h : headerSize < size ∧ headerSize < buffer.length
  · obtain ⟨last, run, hlast, hresult⟩ := strip_passes h.1 h.2
    rw [hresult]
    exact ((Underway.initial size buffer).passes h.1 run).take_eq hlast
  · rw [strip_of_le (by omega), List.take_zero]
    by_cases hsize : headerSize < size
    · rw [payload_of_length_le (by omega)]
    · unfold payload
      rw [if_pos (by omega)]

end PinBridge.Packet
