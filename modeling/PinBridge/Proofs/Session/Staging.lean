import PinBridge.Proofs.Eeprom.Image
import PinBridge.Proofs.Session.Run

/-!
# Where a staged image comes from

An image is staged for as long as the device that it was read from is open, and no longer. The
invariant of runs (`Provenance`) says more: it traces the handle of the open device to the turn that
has opened it, and the image to the last full read since that turn. `staged_of_open_device` reads
off it what a caller can rely on.
-/

namespace PinBridge

/-- The open device, by what it keeps for as long as it is open. -/
def Session.holder (s : Session) : Option (Handle × Chip) :=
  match s.link with
  | .opened d => some (d.handle, d.chip)
  | _ => none

/-- The last turn that has staged an image since a device was opened. -/
def lastReading (history : List Turn) : Option Turn := last? Turn.stages (since Turn.opens history)

variable {history : List Turn} {turn : Turn} {s t : Session}

theorem Session.exists_of_holder {handle : Handle} {chip : Chip}
    (h : s.holder = some (handle, chip)) :
    ∃ d, s.link = .opened d ∧ d.handle = handle ∧ d.chip = chip := by
  unfold Session.holder at h
  split at h
  · next d hd =>
    cases h
    exact ⟨d, hd, rfl, rfl⟩
  · cases h

/-- **The open device and the staged image, traced to the turns that they come from.** -/
structure Provenance (history : List Turn) (s : Session) : Prop where
  opening : ∀ handle chip, s.holder = some (handle, chip) →
    ∃ turn, last? Turn.opens history = some turn ∧ turn.handle? = some handle
  reading : ∀ image, s.staged = some image →
    ∃ handle chip turn timeout replies, s.holder = some (handle, chip) ∧
      lastReading history = some turn ∧
      turn.events = wordReads handle timeout 0 replies ∧
      replies.length = Eeprom.fullSize / 2 ∧ (∀ reply ∈ replies, 2 ≤ reply.length) ∧
      image = .stage (replies.flatMap fun reply => reply.take 2) chip

theorem lastReading_snoc (hopens : turn.opens = false) :
    lastReading (history ++ [turn]) = if turn.stages then some turn else lastReading history := by
  unfold lastReading
  rw [since_snoc, hopens, if_neg Bool.false_ne_true, last?_snoc]

theorem lastOpening_snoc (hopens : turn.opens = false) :
    last? Turn.opens (history ++ [turn]) = last? Turn.opens history := by
  rw [last?_snoc, hopens]
  rfl

namespace Provenance

/-- A turn that neither opens a device nor stages an image. -/
theorem of_quiet (h : Provenance history s) (hopens : turn.opens = false)
    (hstages : turn.stages = false) (hholder : t.holder = s.holder)
    (hstaged : t.staged = s.staged) :
    Provenance (history ++ [turn]) t where
  opening handle chip hh := by
    rw [lastOpening_snoc hopens]
    exact h.opening handle chip (hholder ▸ hh)
  reading image himage := by
    rw [lastReading_snoc hopens, hstages, hholder]
    exact h.reading image (hstaged ▸ himage)

/-- A turn that leaves no device open. -/
theorem of_closed (hholder : t.holder = none) (hstaged : t.staged = none) :
    Provenance history t where
  opening handle chip hh := by
    rw [hholder] at hh
    cases hh
  reading image himage := by
    rw [hstaged] at himage
    cases himage

/-- **The step**: each change keeps track. -/
theorem step (h : Provenance history s) (change : Change s turn t) :
    Provenance (history ++ [turn]) t := by
  cases change with
  | idle idle => exact h.of_quiet idle.opens idle.stages rfl rfl
  | configured _ idle => exact h.of_quiet idle.opens idle.stages rfl rfl
  | tuned link _ idle =>
    refine h.of_quiet idle.opens idle.stages ?_ rfl
    unfold Session.holder
    rw [link]
  | flushed link _ _ opens _ stages =>
    refine h.of_quiet opens stages ?_ rfl
    unfold Session.holder
    rw [link]
  | halfPurged link | taken link | refilled link =>
    refine h.of_quiet rfl rfl ?_ rfl
    unfold Session.holder
    rw [link]
  | @staged d replies link length long =>
    constructor
    · intro handle chip hh
      rw [lastOpening_snoc rfl]
      exact h.opening handle chip hh
    · intro image himage
      cases himage
      have hholder : s.holder = some (d.handle, d.chip) := by
        unfold Session.holder
        rw [link]
      exact ⟨d.handle, d.chip, _, _, replies, hholder, lastReading_snoc rfl, rfl, length, long, rfl⟩
  | opened _ opens _ _ found =>
    constructor
    · intro handle chip hh
      cases hh
      refine ⟨turn, ?_, found⟩
      rw [last?_snoc, if_pos opens]
    · intro image himage
      cases himage
  | closed => exact of_closed rfl rfl

end Provenance

/-- The first two bytes of each reply, where each has them. -/
theorem length_flatMap_take_two {replies : List (List UInt8)}
    (long : ∀ reply ∈ replies, 2 ≤ reply.length) :
    (replies.flatMap fun reply => reply.take 2).length = 2 * replies.length :=
  Eeprom.length_flatMap_pairs fun reply hmem => List.length_take_of_le (long reply hmem)

/-- **A staged image is that of the open device.** After every run: where no device is open nothing
is staged; and a staged image has one of the three sizes, the chip of the open device, and as its
256 bytes those that the last full read since that device was opened has been answered with. Only an
image of 256 bytes that are all ones counts as unprogrammed. -/
theorem staged_of_open_device (run : Run history s) :
    (s.isOpen = false → s.staged = none ∧ s.stagedBytes = []) ∧
    ∀ image, s.staged = some image → ∃ d, s.link = .opened d ∧
      image.size ∈ [64, 128, 256] ∧ image.chip = d.chip ∧
      (d.chip = .ft232r → image.size = 128) ∧
      (image.blank → image.size = 256 ∧ ∀ b ∈ image.raw, b = 0xFF) ∧
      image.raw.length = 256 ∧
      ∃ opening reading timeout replies,
        last? Turn.opens history = some opening ∧ opening.handle? = some d.handle ∧
        lastReading history = some reading ∧
        replies.length = 128 ∧ (∀ reply ∈ replies, 2 ≤ reply.length) ∧
        reading.events = wordReads d.handle timeout 0 replies ∧
        image.raw = replies.flatMap fun reply => reply.take 2 := by
  have h : Provenance history s := by
    refine run.invariant (P := Provenance) ?_ Provenance.step
    intro options s made
    obtain ⟨hlink, hstaged⟩ := Session.new_ok made
    refine .of_closed ?_ hstaged
    unfold Session.holder
    rw [hlink]
  constructor
  · intro hclosed
    have hstaged : s.staged = none := by
      cases himage : s.staged with
      | none => rfl
      | some image =>
        obtain ⟨handle, chip, -, -, -, hholder, -⟩ := h.reading image himage
        obtain ⟨d, hd, -⟩ := Session.exists_of_holder hholder
        unfold Session.isOpen Session.status at hclosed
        rw [hd] at hclosed
        cases hclosed
    refine ⟨hstaged, ?_⟩
    unfold Session.stagedBytes
    rw [hstaged]
  · intro image himage
    obtain ⟨handle, chip, reading, timeout, replies, hholder, hreading, hevents, hlen, hlong,
      rfl⟩ := h.reading image himage
    obtain ⟨opening, hopening, hhandle⟩ := h.opening handle chip hholder
    obtain ⟨d, hd, rfl, rfl⟩ := Session.exists_of_holder hholder
    refine ⟨d, hd, Eeprom.detect_size _ _, rfl, Eeprom.detect_size_of_ft232r _,
      Eeprom.detect_blank, ?_, opening, reading, timeout, replies, hopening, hhandle, hreading,
      hlen, hlong, hevents, rfl⟩
    exact (length_flatMap_take_two hlong).trans (by rw [hlen]; rfl)

/-- The run that opens a device and reads its EEPROM, which is not programmed. -/
def Sample.readingOnes : List Turn :=
  [⟨.openDevice Sample.descriptor, Sample.opening (.ok ()), .ok ()⟩,
    ⟨.readEeprom, wordReads Sample.handle 5000 0 (.replicate 128 [0xFF, 0xFF]), .ok ()⟩]

theorem Sample.run_readingOnes :
    Run Sample.readingOnes ⟨.default, .opened Sample.device,
      some (.stage ((List.replicate 128 [0xFF, 0xFF]).flatMap fun reply => reply.take 2)
        .ft232r)⟩ := by
  have hlong : ∀ reply ∈ List.replicate 128 [(0xFF : UInt8), 0xFF], 2 ≤ reply.length := by
    intro reply hreply
    rw [List.eq_of_mem_replicate hreply]
    exact Nat.le_refl 2
  exact Sample.run_opened.turn (@readEeprom_answered ⟨.default, .opened Sample.device, none⟩
    Sample.device rfl _ List.length_replicate hlong)

/-- The chip of the sample has images of 128 bytes, be they all ones. -/
theorem staged_of_open_device_ones : ∃ image d,
    Run Sample.readingOnes ⟨.default, .opened d, some image⟩ ∧
      image.size = 128 ∧ image.chip = d.chip ∧ image.raw.length = 256 := by
  obtain ⟨d, hd, -, hchip, hsize, -, hlen, -⟩ :=
    (staged_of_open_device Sample.run_readingOnes).2 _ rfl
  cases hd
  exact ⟨_, _, Sample.run_readingOnes, hsize rfl, hchip, hlen⟩

end PinBridge
