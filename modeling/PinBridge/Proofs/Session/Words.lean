import PinBridge.Proofs.Eeprom.Image
import PinBridge.Proofs.Session.Observers
import PinBridge.Proofs.Session.Turn

/-!
# Reading words

A read of words asks for one word after the other, and each reply may be an error, too short or
longer than a word. `Reading` is the account of it: the first reply that is no word ends it, and
where all are words it comes to the first two bytes of each. `readWords_reading` says that every
read goes by this account, on whatever bus.

* `Reading.stops` : a reply that is no word is the last one, and its error the result.
* `Reading.of_ok`, `Reading.ok_iff` : the read succeeds just where there are as many words as were
  to be read, and then the result are their bytes.
* `WordReply.exists_map_ok` : replies that are all words come from bytes, two or more each.
-/

namespace PinBridge

/-- What a request for a word is answered with. -/
abbrev WordReply : Type := Except Error (List UInt8)

namespace WordReply

/-- The two bytes of the word; what a reply has beyond them is left out. -/
def bytes : WordReply → List UInt8
  | .ok data => data.take 2
  | .error _ => []

/-- The error of a request that has failed, or has been answered with less than a word. -/
def failure? : WordReply → Option Error
  | .ok data => if data.length < 2 then some (.shortTransfer 2 data.length) else none
  | .error e => some e

theorem failure?_eq_none_iff {reply : WordReply} :
    failure? reply = none ↔ ∃ data, reply = .ok data ∧ 2 ≤ data.length := by
  cases reply with
  | ok data =>
    rw [failure?]
    by_cases hshort : data.length < 2
    · rw [if_pos hshort]
      refine iff_of_false (Option.some_ne_none _) ?_
      rintro ⟨_, ⟨⟩, hlong⟩
      exact absurd hshort (Nat.not_lt_of_le hlong)
    · rw [if_neg hshort]
      exact iff_of_true rfl ⟨data, rfl, Nat.le_of_not_lt hshort⟩
  | error e => simp [failure?]

variable {replies : List WordReply}

/-- Each word has two bytes. -/
theorem length_flatMap_bytes (hall : ∀ reply ∈ replies, reply.failure? = none) :
    (replies.flatMap bytes).length = 2 * replies.length := by
  have hword : ∀ reply ∈ replies, reply.bytes.length = 2 := by
    intro reply hmem
    obtain ⟨data, rfl, hlong⟩ := failure?_eq_none_iff.mp (hall reply hmem)
    exact List.length_take_of_le hlong
  exact Eeprom.length_flatMap_pairs hword

/-- **Replies that are all words** come from bytes, two or more each. -/
theorem exists_map_ok (hall : ∀ reply ∈ replies, reply.failure? = none) :
    ∃ data : List (List UInt8), replies = data.map .ok ∧ ∀ reply ∈ data, 2 ≤ reply.length := by
  induction replies with
  | nil => exact ⟨[], rfl, by simp⟩
  | cons reply rest ih =>
    obtain ⟨first, rfl, hfirst⟩ := failure?_eq_none_iff.mp (hall reply List.mem_cons_self)
    obtain ⟨data, rfl, hlong⟩ := ih fun other hmem => hall other (List.mem_cons_of_mem _ hmem)
    exact ⟨first :: data, rfl, List.forall_mem_cons.mpr ⟨hfirst, hlong⟩⟩

end WordReply

/-- **The requests for words** from an address on, each with its reply. -/
def wordRequests (handle : Handle) (timeout address : Nat) (replies : List WordReply) :
    List Event :=
  (replies.zipIdx address).map fun entry =>
    .asked (.controlIn handle Request.readEeprom 0 (UInt16.ofNat entry.2) 2 timeout) entry.1

/-- Requests that are all answered with bytes. -/
theorem wordRequests_map_ok (handle : Handle) (timeout : Nat) (data : List (List UInt8)) :
    ∀ address, wordRequests handle timeout address (data.map .ok) =
      wordReads handle timeout address data := by
  induction data with
  | nil => exact fun _ => rfl
  | cons reply rest ih => exact fun address => congrArg (List.cons _) (ih (address + 1))

/-- **How reading so many words goes**: the replies, and the bytes or the error in the end. -/
inductive Reading : Nat → List WordReply → Except Error (List UInt8) → Prop
  /-- There are no words left to read. -/
  | through : Reading 0 [] (.ok [])
  /-- The reply is no word. -/
  | failed {count : Nat} {reply : WordReply} {e : Error} (failure : reply.failure? = some e) :
      Reading (count + 1) [reply] (.error e)
  /-- The reply is a word. -/
  | word {count : Nat} {reply : WordReply} {replies : List WordReply}
      {r : Except Error (List UInt8)} (fine : reply.failure? = none)
      (rest : Reading count replies r) :
      Reading (count + 1) (reply :: replies) (r.map (reply.bytes ++ ·))

namespace Reading

variable {count : Nat} {replies : List WordReply} {r : Except Error (List UInt8)}

theorem length_le (h : Reading count replies r) : replies.length ≤ count := by
  induction h with
  | through => exact Nat.le_refl 0
  | failed => exact Nat.le_add_left _ _
  | word _ _ ih => exact Nat.succ_le_succ ih

/-- **A reply that is no word** is the last one, and its error the result. -/
theorem stops (h : Reading count replies r) {j : Nat} {reply : WordReply} {e : Error}
    (hreply : replies[j]? = some reply) (failure : reply.failure? = some e) :
    replies.length = j + 1 ∧ r = .error e := by
  induction h generalizing j with
  | through => cases hreply
  | failed failed =>
    cases j with
    | zero =>
      cases hreply
      cases failed.symm.trans failure
      exact ⟨rfl, rfl⟩
    | succ j => cases hreply
  | word fine _ ih =>
    cases j with
    | zero =>
      cases hreply
      cases fine.symm.trans failure
    | succ j =>
      obtain ⟨hlength, rfl⟩ := ih hreply
      exact ⟨congrArg (· + 1) hlength, rfl⟩

/-- An error is that of the last reply. -/
theorem failed_last (h : Reading count replies r) {e : Error} (he : r = .error e) :
    ∃ last, replies.getLast? = some last ∧ last.failure? = some e := by
  induction h with
  | through => cases he
  | failed failure =>
    cases he
    exact ⟨_, rfl, failure⟩
  | @word _ _ _ r _ _ ih =>
    cases r with
    | ok bytes => cases he
    | error e' =>
      cases he
      obtain ⟨last, hlast, hfailure⟩ := ih rfl
      refine ⟨last, ?_, hfailure⟩
      rw [List.getLast?_cons, hlast]
      rfl

/-- **Where the read succeeds** there are as many words as were to be read, and the result is their
bytes in a row. -/
theorem of_ok (h : Reading count replies r) {bytes : List UInt8} (hr : r = .ok bytes) :
    replies.length = count ∧ (∀ reply ∈ replies, reply.failure? = none) ∧
      bytes = replies.flatMap WordReply.bytes := by
  induction h generalizing bytes with
  | through =>
    cases hr
    exact ⟨rfl, by simp, rfl⟩
  | failed => cases hr
  | @word _ reply replies r fine _ ih =>
    cases r with
    | error e => cases hr
    | ok rest =>
      cases hr
      obtain ⟨hlength, hall, rfl⟩ := ih rfl
      refine ⟨congrArg (· + 1) hlength, fun other hmem => ?_, List.flatMap_cons.symm⟩
      rcases List.mem_cons.mp hmem with rfl | hmem
      · exact fine
      · exact hall other hmem

/-- The read succeeds just where all that were to be read are words. -/
theorem ok_iff (h : Reading count replies r) : (∃ bytes, r = .ok bytes) ↔
    replies.length = count ∧ ∀ reply ∈ replies, reply.failure? = none := by
  constructor
  · rintro ⟨bytes, hr⟩
    obtain ⟨hlength, hall, -⟩ := h.of_ok hr
    exact ⟨hlength, hall⟩
  · rintro ⟨-, hall⟩
    cases r with
    | ok bytes => exact ⟨bytes, rfl⟩
    | error e =>
      obtain ⟨last, hlast, hfailure⟩ := h.failed_last rfl
      have hfine := hall last (List.mem_of_getLast? hlast)
      cases hfine.symm.trans hfailure

end Reading

theorem exists_cons_cons {reply : List UInt8} (h : 2 ≤ reply.length) :
    ∃ low high more, reply = low :: high :: more := by
  rcases reply with _ | ⟨low, _ | ⟨high, more⟩⟩
  · cases h
  · simp at h
  · exact ⟨low, high, more, rfl⟩

namespace Command

variable {s t : Session} {d : OpenDevice} {events : List Event}

/-- **The courses of reading a word.** -/
theorem readWord_course (hs : s.link = .opened d) {address : UInt16}
    {r : Except Error (UInt8 × UInt8)} (h : (readWord address).Course s events r t) :
    ∃ reply : WordReply,
      events = [.asked (.controlIn d.handle Request.readEeprom 0 address 2
        s.options.readTimeout) reply] ∧
      ((∃ e, reply.failure? = some e ∧ r = .error e) ∨
        reply.failure? = none ∧ ∃ low high, r = .ok (low, high) ∧ reply.bytes = [low, high]) := by
  unfold readWord controlIn at h
  simp only [Command.bind_assoc, device_bind, hs, session_bind, ask_bind, ite_bind, course_ite,
    fail_bind, course_fail, pure_bind, need_bind, course_pure] at h
  rcases h with ⟨e, rfl, rfl, -⟩ | ⟨data, rest, h, rfl⟩
  · exact ⟨.error e, rfl, .inl ⟨e, rfl, rfl⟩⟩
  · split at h
    · next hshort =>
      obtain ⟨rfl, rfl, -⟩ := h
      exact ⟨.ok data, rfl, .inl ⟨_, if_pos hshort, rfl⟩⟩
    · next hlen =>
      have hlong : 2 ≤ data.length := Nat.le_of_not_lt hlen
      obtain ⟨a, b, more, rfl⟩ := exists_cons_cons hlong
      obtain ⟨low, hlow, high, hhigh, rfl, rfl, -⟩ := h
      cases hlow
      cases hhigh
      exact ⟨_, rfl, .inr ⟨WordReply.failure?_eq_none_iff.mpr ⟨_, rfl, hlong⟩, a, b, rfl, rfl⟩⟩

/-- **Every read of words goes by its account**, and leaves the session as it is. -/
theorem readWords_reading (hs : s.link = .opened d) (count : Nat) :
    ∀ {address : Nat} {events : List Event} {r : Except Error (List UInt8)},
      (readWords address count).Course s events r t →
        ∃ replies, events = wordRequests d.handle s.options.readTimeout address replies ∧
          Reading count replies r := by
  induction count with
  | zero =>
    intro address events r h
    obtain ⟨rfl, rfl, -⟩ := course_pure.mp h
    exact ⟨[], rfl, .through⟩
  | succ count ih =>
    intro address events r h
    unfold readWords at h
    rcases course_bind.mp h with ⟨e, h₁, rfl⟩ | ⟨word, first, s₁, second, h₁, h₂, rfl⟩
    · obtain ⟨reply, rfl, ⟨e', hfailure, he⟩ | ⟨-, _, _, he, -⟩⟩ := readWord_course hs h₁
      · cases he
        exact ⟨[reply], rfl, .failed hfailure⟩
      · cases he
    · obtain ⟨rfl, -⟩ := readWord_observes _ h₁
      obtain ⟨reply, rfl, ⟨_, -, he⟩ | ⟨hfine, low, high, hword, hbytes⟩⟩ := readWord_course hs h₁
      · cases he
      · cases hword
        rcases course_bind.mp h₂ with ⟨e, h₃, rfl⟩ | ⟨bytes, third, s₂, fourth, h₃, h₄, rfl⟩
        · obtain ⟨replies, rfl, hreading⟩ := ih h₃
          exact ⟨reply :: replies, rfl, hreading.word hfine⟩
        · obtain ⟨rfl, -⟩ := readWords_observes _ _ h₃
          obtain ⟨rfl, rfl, rfl⟩ := course_pure.mp h₄
          obtain ⟨replies, rfl, hreading⟩ := ih h₃
          refine ⟨reply :: replies, by rw [List.append_nil]; rfl, ?_⟩
          have hword := hreading.word hfine
          rw [hbytes] at hword
          exact hword

end Command

end PinBridge
