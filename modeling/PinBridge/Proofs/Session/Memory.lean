import PinBridge.Proofs.Session.Change
import PinBridge.Proofs.Session.Words

/-!
# Reading the EEPROM

A full read stages an image only where all its requests have been answered with two bytes at least:
then the image is that of the first two bytes of each answer. `readWords_ok` reads this off the
account of any read of words, and `readEeprom_answered` is the converse. Where a read fails on the
way nothing has changed.
-/

namespace PinBridge

open Command

variable {s t : Session} {events : List Event}

/-- Words that have been read are the first two bytes of a reply each. -/
theorem readWords_ok {d : OpenDevice} (hs : s.link = .opened d) {count address : Nat}
    {bytes : List UInt8} (h : (readWords address count).Course s events (.ok bytes) t) :
    ∃ replies : List (List UInt8), replies.length = count ∧
      (∀ reply ∈ replies, 2 ≤ reply.length) ∧
      bytes = (replies.flatMap fun reply => reply.take 2) ∧
      events = wordReads d.handle s.options.readTimeout address replies := by
  obtain ⟨replies, rfl, hreading⟩ := readWords_reading hs count h
  obtain ⟨hlength, hall, rfl⟩ := hreading.of_ok rfl
  obtain ⟨data, rfl, hlong⟩ := WordReply.exists_map_ok hall
  rw [List.length_map] at hlength
  exact ⟨data, hlength, hlong, List.flatMap_map _ _ _, wordRequests_map_ok _ _ data address⟩

/-- Conversely, words that are answered are read. -/
theorem readWord_answered {d : OpenDevice} (hs : s.link = .opened d) (address : UInt16)
    {low high : UInt8} (more : List UInt8) :
    (readWord address).Course s
      [.asked (.controlIn d.handle Request.readEeprom 0 address 2 s.options.readTimeout)
        (.ok (low :: high :: more))] (.ok (low, high)) s := by
  unfold readWord controlIn
  have hlen : ¬ (low :: high :: more).length < (2 : UInt16).toNat := by
    rw [List.length_cons, List.length_cons]
    exact Nat.not_lt_of_le (Nat.le_add_left 2 _)
  simp only [Command.bind_assoc, device_bind, hs, session_bind, ask_bind, ite_bind, course_ite,
    fail_bind, course_fail, pure_bind, need_bind, course_pure]
  refine .inr ⟨low :: high :: more, [], ?_, rfl⟩
  rw [if_neg hlen]
  exact ⟨low, rfl, high, rfl, rfl, rfl, trivial⟩

theorem readWords_answered {d : OpenDevice} (hs : s.link = .opened d)
    {replies : List (List UInt8)} :
    ∀ address, (∀ reply ∈ replies, 2 ≤ reply.length) →
      (readWords address replies.length).Course s
        (wordReads d.handle s.options.readTimeout address replies)
        (.ok (replies.flatMap fun reply => reply.take 2)) s := by
  induction replies with
  | nil =>
    intro address _
    exact course_pure.mpr ⟨rfl, rfl, rfl⟩
  | cons reply rest ih =>
    intro address hlong
    obtain ⟨low, high, more, rfl⟩ := exists_cons_cons (hlong reply List.mem_cons_self)
    have hrest := ih (address + 1) fun r hr => hlong r (List.mem_cons_of_mem _ hr)
    unfold readWords
    refine course_bind.mpr (.inr ⟨(low, high), _, s, _, readWord_answered hs _ more, ?_, rfl⟩)
    refine course_bind.mpr (.inr ⟨_, _, s, [], hrest, ?_, (List.append_nil _).symm⟩)
    exact course_pure.mpr ⟨rfl, rfl, rfl⟩

/-- **A full read that is answered stages** what the answers are. -/
theorem readEeprom_answered {d : OpenDevice} (hs : s.link = .opened d)
    {replies : List (List UInt8)} (hlen : replies.length = Eeprom.fullSize / 2)
    (hlong : ∀ reply ∈ replies, 2 ≤ reply.length) :
    readEeprom.Course s (wordReads d.handle s.options.readTimeout 0 replies) (.ok ())
      { s with staged := some (.stage (replies.flatMap fun reply => reply.take 2) d.chip) } := by
  unfold readEeprom
  rw [device_bind, hs]
  refine course_bind.mpr (.inr ⟨_, _, s, [], hlen ▸ readWords_answered hs 0 hlong, ?_,
    (List.append_nil _).symm⟩)
  rw [modify_bind, course_note]
  exact ⟨rfl, rfl, by rw [hs]⟩

theorem readEeprom_change {r : Except Error Unit} (h : readEeprom.Course s events r t) :
    Change s ⟨.readEeprom, events, r⟩ t := by
  unfold readEeprom at h
  rw [device_bind] at h
  split at h
  · next d hs =>
    rcases course_bind.mp h with ⟨e, hread, rfl⟩ | ⟨raw, first, s₁, second, h₁, h₂, rfl⟩
    · obtain ⟨rfl, hplain⟩ := readWords_observes _ _ hread
      exact .idle (Turn.idle_of_error (Turn.received_eq_nil hplain) rfl)
    · obtain ⟨rfl, -⟩ := readWords_observes _ _ h₁
      simp only [modify_bind, course_note] at h₂
      obtain ⟨rfl, rfl, rfl⟩ := h₂
      obtain ⟨replies, hlen, hlong, rfl, rfl⟩ := readWords_ok hs h₁
      rw [List.append_nil]
      exact .staged hs hlen hlong
  · exact change_of_refused h rfl

end PinBridge
