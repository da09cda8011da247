import PinBridge.Proofs.Eeprom.Image
import PinBridge.Proofs.Session.Footprint
import PinBridge.Proofs.Session.Opening
import PinBridge.Proofs.Session.Words

/-!
# A full read and what it stages

A full read reads 128 words and goes by the account of these (`Reading`): it succeeds just where all
requests are answered with words. What it stages then is made of the first two bytes of each answer
and of nothing else, and shows as many of these as the part has (`stagedPart_of_staged`). A read
that fails on the way leaves the session as it was (`readEeprom_reading`).

* `full_read_stages` : what a full read stages, and what is staged where it fails.
-/

namespace PinBridge

namespace Command

variable {s t : Session} {d : OpenDevice} {events : List Event}

/-- **The courses of a full read** from the open device. -/
theorem readEeprom_reading (hs : s.link = .opened d) {r : Except Error Unit}
    (h : readEeprom.Course s events r t) :
    ∃ replies raw, events = wordRequests d.handle s.options.readTimeout 0 replies ∧
      Reading 128 replies raw ∧
      ((∃ e, raw = .error e ∧ r = .error e ∧ t = s) ∨
        ∃ bytes, raw = .ok bytes ∧ r = .ok () ∧ t = { s with staged := some (.stage bytes d.chip) })
      := by
  unfold readEeprom at h
  simp only [device_bind, hs] at h
  rcases course_bind.mp h with ⟨e, h₁, rfl⟩ | ⟨bytes, first, s₁, second, h₁, h₂, rfl⟩
  · obtain ⟨rfl, -⟩ := readWords_observes _ _ h₁
    obtain ⟨replies, rfl, hreading⟩ := readWords_reading hs _ h₁
    exact ⟨replies, _, rfl, hreading, .inl ⟨e, rfl, rfl, rfl⟩⟩
  · obtain ⟨rfl, -⟩ := readWords_observes _ _ h₁
    obtain ⟨replies, rfl, hreading⟩ := readWords_reading hs _ h₁
    simp only [modify_bind, course_note] at h₂
    obtain ⟨rfl, rfl, rfl⟩ := h₂
    refine ⟨replies, _, List.append_nil _, hreading, .inr ⟨bytes, rfl, rfl, by rw [hs]⟩⟩

/-- A copy of the first staged bytes, or the error that there are not so many. -/
theorem stagedPart_of_bytes (s : Session) (size : Nat) :
    stagedPart size s = .done (if size ≤ s.stagedBytes.length then .ok (s.stagedBytes.take size)
      else .error (.sizeMismatch size s.stagedBytes.length), s) := by
  unfold stagedPart
  change ((if s.stagedBytes.length < size then _ else _ : Command (List UInt8)) s) = _
  by_cases h : s.stagedBytes.length < size
  · rw [if_pos h, if_neg (Nat.not_le_of_lt h)]
    rfl
  · rw [if_neg h, if_pos (Nat.le_of_not_lt h)]
    rfl

end Command

open Command

/-- What can be copied of a staged read. -/
theorem stagedPart_of_staged {s : Session} {bytes : List UInt8} {chip : Chip}
    (staged : s.staged = some (.stage bytes chip)) (hlength : bytes.length = Eeprom.fullSize)
    (size : Nat) :
    (size ≤ (Eeprom.detect bytes chip).size →
      (Action.stagedPart size).perform s = .done (.ok (bytes.take size), s)) ∧
    ((Eeprom.detect bytes chip).size < size → (Action.stagedPart size).perform s =
      .done (.error (.sizeMismatch size (Eeprom.detect bytes chip).size), s)) := by
  have hbytes : s.stagedBytes = bytes.take (Eeprom.detect bytes chip).size := by
    unfold Session.stagedBytes
    rw [staged]
    rfl
  have hsize : (Eeprom.detect bytes chip).size ≤ Eeprom.fullSize := by
    have hmem := Eeprom.detect_size bytes chip
    simp only [List.mem_cons, List.not_mem_nil, or_false] at hmem
    unfold Eeprom.fullSize
    omega
  have hcount : s.stagedBytes.length = (Eeprom.detect bytes chip).size := by
    rw [hbytes, List.length_take, hlength, Nat.min_eq_left hsize]
  have hpart := stagedPart_of_bytes s size
  rw [hcount, hbytes, List.take_take] at hpart
  constructor
  · intro hle
    rw [if_pos hle, Nat.min_eq_left hle] at hpart
    exact hpart
  · intro hlt
    rw [if_neg (Nat.not_le_of_lt hlt)] at hpart
    exact hpart

/-- **A full read stages what the device has answered.** On a bus that answers every call: words are
asked for from the first one on, two bytes each and 128 at most. The read succeeds just where all
128 requests are answered with two bytes or more, and then stages the first two bytes of each
answer, whatever was staged before: as many of them as the part has can be copied, and no more. The
first request that fails or is answered with less is the last one, its error is the result, and what
is staged is what was staged before. -/
theorem full_read_stages {σ : Type} {bus : Bus σ} (answers : bus.Answers fun _ => True)
    {s : Session} {d : OpenDevice} (hs : s.link = .opened d) (world : σ) :
    ∃ replies r t after,
      (Action.readEeprom.perform s).play bus world =
        (wordRequests d.handle s.options.readTimeout 0 replies, some (r, t), after) ∧
      replies.length ≤ 128 ∧
      (r = .ok () ↔ replies.length = 128 ∧
        ∀ reply ∈ replies, ∃ data, reply = .ok data ∧ 2 ≤ data.length) ∧
      (r = .ok () → ∃ image, t = { s with staged := some image } ∧
        image.raw = replies.flatMap WordReply.bytes ∧ image.raw.length = 256 ∧
        image.size = (Eeprom.detect image.raw d.chip).size ∧ ∀ k,
          (k ≤ image.size →
            (Action.stagedPart k).perform t = .done (.ok (image.raw.take k), t)) ∧
          (image.size < k →
            (Action.stagedPart k).perform t = .done (.error (.sizeMismatch k image.size), t))) ∧
      (∀ e, r = .error e → t = s ∧
        ∃ last, replies.getLast? = some last ∧ last.failure? = some e) ∧
      (∀ j reply e, replies[j]? = some reply → reply.failure? = some e →
        replies.length = j + 1 ∧ r = .error e) := by
  obtain ⟨events, ⟨r, t⟩, after, hplay, -, -⟩ :=
    (perform_within .readEeprom s).completes answers world
  obtain ⟨replies, raw, rfl, hreading, hend⟩ :=
    readEeprom_reading hs (Program.course_of_play hplay)
  have hok : r = .ok () ↔ ∃ bytes, raw = .ok bytes := by
    rcases hend with ⟨e, rfl, rfl, -⟩ | ⟨bytes, rfl, rfl, -⟩
    · simp
    · simp
  refine ⟨replies, r, t, after, hplay, hreading.length_le, ?_, ?_, ?_, ?_⟩
  · rw [hok, hreading.ok_iff]
    simp only [WordReply.failure?_eq_none_iff]
  · rintro rfl
    rcases hend with ⟨e, -, he, -⟩ | ⟨bytes, hraw, -, rfl⟩
    · cases he
    · obtain ⟨hcount, hall, hbytes⟩ := hreading.of_ok hraw
      have hlength : bytes.length = Eeprom.fullSize := by
        rw [hbytes, WordReply.length_flatMap_bytes hall, hcount]
        rfl
      exact ⟨.stage bytes d.chip, rfl, hbytes, hlength, rfl,
        fun k => stagedPart_of_staged rfl hlength k⟩
  · rintro e rfl
    rcases hend with ⟨e', hraw, he, rfl⟩ | ⟨bytes, -, he, -⟩
    · cases he
      exact ⟨rfl, hreading.failed_last hraw⟩
    · cases he
  · intro j reply e hreply hfailure
    obtain ⟨hlength, hraw⟩ := hreading.stops hreply hfailure
    refine ⟨hlength, ?_⟩
    rcases hend with ⟨e', hraw', rfl, -⟩ | ⟨bytes, hraw', -, -⟩
    · cases hraw.symm.trans hraw'
      rfl
    · cases hraw.symm.trans hraw'

/-- A bus that answers each request for bytes with three of them, and fails all else. -/
def Sample.wordy : Bus Unit := .fixed fun
  | .controlIn .. => .ok [0x12, 0x34, 0x56]
  | _ => .error .timeout

/-- Of a read that is answered so, 128 bytes can be copied where the chip has that many. -/
theorem full_read_stages_wordy : Sample.wordy.Answers (fun _ => True) ∧
    ∃ (replies : List WordReply) (t : Session) (after : Unit),
      (Action.readEeprom.perform ⟨.default, .opened Sample.device, none⟩).play Sample.wordy () =
        (wordRequests Sample.handle 5000 0 replies, some (.ok (), t), after) ∧
      replies.length = 128 ∧ (Action.stagedPart 129).perform t =
        .done (.error (.sizeMismatch 129 128), t) := by
  have answers : Sample.wordy.Answers fun _ => True := Bus.fixed_answers fun _ => trivial
  have opened : (Session.mk .default (.opened Sample.device) none).link =
      .opened Sample.device := rfl
  obtain ⟨replies, r, t, after, hplay, -, hok, hstages, herror, -⟩ :=
    full_read_stages answers opened ()
  have hr : r = .ok () := by
    cases r with
    | ok a => rfl
    | error e =>
      -- the reply that has failed would be one of the bus
      obtain ⟨-, last, hlast, hfailure⟩ := herror e rfl
      obtain ⟨i, hi⟩ := List.mem_iff_getElem?.mp (List.mem_of_getLast? hlast)
      have hevent : .asked (.controlIn Sample.handle Request.readEeprom 0 (UInt16.ofNat i) 2 5000)
          last ∈ ((Action.readEeprom.perform ⟨.default, .opened Sample.device, none⟩).play
            Sample.wordy ()).1 := by
        rw [hplay]
        exact List.mem_map.mpr ⟨(last, i), List.mem_zipIdx_iff_getElem?.mpr hi, rfl⟩
      cases Bus.eq_of_mem_play_fixed hevent
      cases hfailure
  subst hr
  obtain ⟨image, -, -, -, hsize, hcopy⟩ := hstages rfl
  refine ⟨answers, replies, t, after, hplay, (hok.mp rfl).1, ?_⟩
  have hchip : image.size = 128 := hsize.trans (Eeprom.detect_size_of_ft232r _ rfl)
  have hpart := (hcopy 129).2 (by rw [hchip]; decide)
  rwa [hchip] at hpart

end PinBridge
