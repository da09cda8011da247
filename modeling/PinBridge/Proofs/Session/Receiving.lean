import PinBridge.Proofs.Session.Run

/-!
# Nothing received is lost

Between two turns that empty the receive side, the bytes handed out and those still at hand are
together the payload of all that the bulk reads have brought in, in order (`Accounted`). Each kind
of change keeps this (`Accounted.step`), and `received_accounted` has it for every run, with what a
read may ask of the bus.
-/

namespace PinBridge

/-- The bytes handed out since the receive side has last been emptied. -/
def returnedSince (history : List Turn) : List UInt8 :=
  (since Turn.flushes history).flatMap Turn.returned

/-- The replies to bulk reads that have come in since then. -/
def receivedSince (history : List Turn) : List (List UInt8) :=
  (since Turn.flushes history).flatMap Turn.received

/-- **All that has come in is accounted for**: it has been handed out or is at hand. -/
def Accounted (history : List Turn) (s : Session) : Prop :=
  ∀ d, s.link = .opened d →
    returnedSince history ++ d.pending =
      (receivedSince history).flatMap (Packet.payload d.packetSize)

variable {history : List Turn} {turn : Turn} {s t : Session}

theorem returnedSince_snoc : returnedSince (history ++ [turn]) =
    if turn.flushes then [] else returnedSince history ++ turn.returned := by
  unfold returnedSince
  rw [since_snoc]
  split
  · rfl
  · rw [List.flatMap_append, List.flatMap_singleton]

theorem receivedSince_snoc : receivedSince (history ++ [turn]) =
    if turn.flushes then [] else receivedSince history ++ turn.received := by
  unfold receivedSince
  rw [since_snoc]
  split
  · rfl
  · rw [List.flatMap_append, List.flatMap_singleton]

/-- A turn that neither hands out bytes nor brings any in leaves the account alone. -/
theorem since_snoc_of_quiet (history : List Turn) (hflush : turn.flushes = false)
    (hreturned : turn.returned = []) (hreceived : turn.received = []) :
    returnedSince (history ++ [turn]) = returnedSince history ∧
      receivedSince (history ++ [turn]) = receivedSince history := by
  rw [returnedSince_snoc, receivedSince_snoc, hflush, hreturned, hreceived]
  exact ⟨List.append_nil _, List.append_nil _⟩

/-- The requests of a full read of the EEPROM bring no bytes in. -/
theorem filterMap_data_wordReads (handle : Handle) (timeout : Nat) (replies : List (List UInt8)) :
    ∀ address, (wordReads handle timeout address replies).filterMap Event.data? = [] := by
  induction replies with
  | nil =>
    intro address
    rfl
  | cons reply rest ih =>
    intro address
    exact ih (address + 1)

namespace Accounted

theorem of_quiet (h : Accounted history s) (hflush : turn.flushes = false)
    (hreturned : turn.returned = []) (hreceived : turn.received = [])
    (hlink : ∀ d, t.link = .opened d → ∃ d', s.link = .opened d' ∧ d'.pending = d.pending ∧
      d'.packetSize = d.packetSize) : Accounted (history ++ [turn]) t := by
  intro d hd
  obtain ⟨d', hd', hpending, hsize⟩ := hlink d hd
  obtain ⟨hret, hrec⟩ := since_snoc_of_quiet history hflush hreturned hreceived
  rw [hret, hrec, ← hpending, ← hsize]
  exact h d' hd'

/-- What is at hand goes out from its front and is filled up at its end. -/
theorem of_moved {d : OpenDevice} {pending : List UInt8} (h : Accounted history s)
    (link : s.link = .opened d) (hflush : turn.flushes = false)
    (hmoved : turn.returned ++ pending =
      d.pending ++ turn.received.flatMap (Packet.payload d.packetSize)) :
    Accounted (history ++ [turn]) { s with link := .opened { d with pending } } := by
  intro d' hd'
  cases hd'
  rw [returnedSince_snoc, receivedSince_snoc, hflush]
  calc returnedSince history ++ turn.returned ++ pending
      = returnedSince history ++ d.pending ++
          turn.received.flatMap (Packet.payload d.packetSize) := by
        rw [List.append_assoc, hmoved, List.append_assoc]
    _ = (receivedSince history ++ turn.received).flatMap (Packet.payload d.packetSize) := by
        rw [h d link, List.flatMap_append]

theorem of_flush (hflush : turn.flushes) (hlink : ∀ d, t.link = .opened d → d.pending = []) :
    Accounted (history ++ [turn]) t := by
  intro d hd
  rw [returnedSince_snoc, receivedSince_snoc, if_pos hflush, if_pos hflush, hlink d hd]
  rfl

/-- **The step**: no change upsets the account. -/
theorem step (h : Accounted history s) (change : Change s turn t) :
    Accounted (history ++ [turn]) t := by
  cases change with
  | idle idle =>
    exact h.of_quiet idle.flushes idle.returned idle.received fun d hd => ⟨d, hd, rfl, rfl⟩
  | configured _ idle =>
    exact h.of_quiet idle.flushes idle.returned idle.received fun d hd => ⟨d, hd, rfl, rfl⟩
  | tuned link _ idle =>
    refine h.of_quiet idle.flushes idle.returned idle.received fun d hd => ⟨_, link, ?_⟩
    cases hd
    exact ⟨rfl, rfl⟩
  | flushed _ _ flushes =>
    refine of_flush flushes fun d hd => ?_
    cases hd
    rfl
  | halfPurged =>
    refine of_flush rfl fun d hd => ?_
    cases hd
    rfl
  | taken link =>
    refine h.of_moved link rfl ?_
    change _ = _ ++ []
    rw [List.append_nil]
    exact List.take_append_drop _ _
  | refilled link empty =>
    refine h.of_moved link rfl ?_
    rw [empty]
    exact (List.take_append_drop _ _).trans (List.append_nil _).symm
  | staged link =>
    exact h.of_quiet rfl rfl (filterMap_data_wordReads _ _ _ 0) fun d hd => ⟨d, hd, rfl, rfl⟩
  | opened _ _ flushes =>
    refine of_flush flushes fun d hd => ?_
    cases hd
    rfl
  | closed =>
    intro d hd
    cases hd

end Accounted

/-- **Nothing received is lost, repeated or out of order.** After every run, while a device is open,
the bytes handed out since the receive side was last emptied and those at hand are the payload of
the replies to bulk reads since then. A read asks the bus at most once, and only where it is to hand
out something and nothing is at hand; where it is not answered, the session and the account are as
they were. -/
theorem received_accounted (run : Run history s) :
    (∀ d, s.link = .opened d →
      returnedSince history ++ d.pending =
        (receivedSince history).flatMap (Packet.payload d.packetSize)) ∧
    ∀ {length : Nat} {events : List Event} {r : Except Error (List UInt8)} {t : Session},
      (Action.readData length).perform.Course s events r t →
        events = [] ∨ ∃ d asked reply, 0 < length ∧ s.link = .opened d ∧ d.pending = [] ∧
          events = [.asked (.bulkRead d.handle d.channel.inEndpoint asked s.options.readTimeout)
            reply] ∧
          ∀ e, reply = .error e → r = .error e ∧ t = s ∧
            returnedSince (history ++ [⟨.readData length, events, r⟩]) = returnedSince history ∧
            receivedSince (history ++ [⟨.readData length, events, r⟩]) = receivedSince history := by
  refine ⟨run.invariant (P := Accounted) ?_ Accounted.step, ?_⟩
  · intro options s made d hd
    rw [(Session.new_ok made).1] at hd
    cases hd
  · intro length events r t h
    rcases Nat.eq_zero_or_pos length with rfl | hpos
    · exact .inl (Command.course_pure.mp h).1
    · have hc := (readData_course hpos).mp h
      split at hc
      · next d hd =>
        split at hc
        · next hempty =>
          obtain ⟨asked, -, ⟨e, rfl, rfl, rfl⟩ | ⟨reply, rfl, rfl, rfl⟩⟩ := hc
          · refine .inr ⟨d, asked, .error e, hpos, hd, hempty, rfl, fun e' he => ?_⟩
            cases he
            exact ⟨rfl, rfl, since_snoc_of_quiet history rfl rfl rfl⟩
          · refine .inr ⟨d, asked, .ok reply, hpos, hd, hempty, rfl, fun e' he => ?_⟩
            cases he
        · exact .inl hc.1
      · exact .inl hc.1

/-- The run that opens a device and reads one of the two bytes that come in. -/
def Sample.reading : List Turn :=
  [⟨.openDevice Sample.descriptor, Sample.opening (.ok ()), .ok ()⟩,
    ⟨.readData 1,
      [.asked (.bulkRead Sample.handle 0x81 4096 5000) (.ok [0x01, 0x60, 0xAA, 0xBB])],
      .ok [0xAA]⟩]

theorem Sample.run_reading :
    Run Sample.reading ⟨.default, .opened { Sample.device with pending := [0xBB] }, none⟩ := by
  have hpayload : Packet.payload Sample.device.packetSize [0x01, 0x60, 0xAA, 0xBB] =
      [0xAA, 0xBB] := by
    rw [Packet.payload_of_ne_nil (by decide) (by decide)]
    exact congrArg (_ ++ ·) (Packet.payload_nil _)
  refine Sample.run_opened.turn ((readData_course Nat.one_pos).mpr ⟨4096, rfl, .inr ?_⟩)
  refine ⟨[0x01, 0x60, 0xAA, 0xBB], rfl, ?_⟩
  rw [hpayload]
  exact ⟨rfl, rfl⟩

/-- One byte handed out and one at hand are the payload of the one reply. -/
theorem received_accounted_reading :
    Run Sample.reading ⟨.default, .opened { Sample.device with pending := [0xBB] }, none⟩ ∧
      returnedSince Sample.reading = [0xAA] ∧
      [0xAA] ++ [0xBB] =
        (receivedSince Sample.reading).flatMap (Packet.payload Sample.device.packetSize) :=
  ⟨Sample.run_reading, rfl, (received_accounted Sample.run_reading).1 _ rfl⟩

end PinBridge
