import PinBridge.Proofs.Rule
import PinBridge.Proofs.Session.BaudRate
import PinBridge.Proofs.Session.Unopened

/-!
# Where transfers go

A session keeps the interface for the next device among its options, and the open device the channel
of the interface that was claimed for it. Each operation picks handle, index, endpoint and timeout
from the two by itself. The rule `addressing` says what they have to be, in view of a record (`Watch`)
of the device that is held with the interface it was opened on, and of the EEPROM words that a call
is still to read.

`Addresses` is said of an operation that neither opens nor closes a device, and it is kept by `bind`,
so that one line for each operation is enough; opening and closing follow the rule as well (`Keeps`).
The main result is `transfers_addressed`, on all runs of a session.
-/

namespace PinBridge

/-! ### The rule -/

namespace Event

/-- The device that is held after an event, with the interface that was claimed for it. -/
def claim (held : Option (Handle × Interface)) : Event → Option (Handle × Interface)
  | asked (.openDevice _ interface) (.ok handle) => some (handle, interface)
  | released _ => none
  | _ => held

/-- Whether an event is a request for a word of the EEPROM. -/
def readsWord : Event → Bool
  | asked (.controlIn _ request ..) _ => request == Request.readEeprom
  | _ => false

end Event

/-- The device that is held after some events, with the interface that was claimed for it. -/
def claimed (events : List Event) : Option (Handle × Interface) := events.foldl Event.claim none

/-- A record of what has passed. -/
structure Watch where
  /-- The device that is held, with the interface that was claimed for it. -/
  held : Option (Handle × Interface)
  /-- The addresses of the EEPROM words that are still to be read. -/
  words : List UInt16

/-- **A request for a rate**, as it is for an interface: on a high-speed chip the low byte of its
index names the channel, and on the others the request is the same for all channels. -/
def AsksRate (chip : Chip) (interface : Interface) (value index : UInt16) : Prop :=
  ∃ rate actual,
    Baud.Setting.ofRate? chip interface.channel.index rate = some ⟨actual, value, index⟩ ∧
    (chip.isHighSpeed → index.toNat &&& 0xFF = interface.channel.index.toNat) ∧
    (chip.isHighSpeed = false → ∀ other : Interface,
      Baud.Setting.ofRate? chip other.channel.index rate = some ⟨actual, value, index⟩)

/-- **A call that is addressed** as it should be: the interface of the options is claimed, and a
transfer goes to the device that is held, under the numbers of the interface that was claimed for it,
and with the timeout of the options for its direction. -/
def Call.Addressed (options : Options) (watch : Watch) : Call → Prop
  | list | strings .. => True
  | openDevice _ interface => watch.held = none ∧ interface = options.interface
  | controlOut handle request value index timeout =>
    timeout = options.writeTimeout ∧ ∃ interface, watch.held = some (handle, interface) ∧
      if request = Request.setBaudRate then
        AsksRate (.ofRelease handle.release handle.hasSerial) interface value index
      else request ∈ [Request.reset, Request.setLatency, Request.setBitMode] ∧
        index = interface.channel.index
  | controlIn handle request _ index _ timeout =>
    timeout = options.readTimeout ∧ ∃ interface, watch.held = some (handle, interface) ∧
      if request = Request.readEeprom then watch.words.head? = some index
      else request ∈ [Request.getLatency, Request.readPins] ∧ index = interface.channel.index
  | bulkWrite handle endpoint _ timeout =>
    timeout = options.writeTimeout ∧ ∃ interface, watch.held = some (handle, interface) ∧
      endpoint = interface.channel.outEndpoint
  | bulkRead handle endpoint _ timeout =>
    timeout = options.readTimeout ∧ ∃ interface, watch.held = some (handle, interface) ∧
      endpoint = interface.channel.inEndpoint

/-- A request to the channel that is not for a rate. -/
theorem Call.addressed_controlOut {options : Options} {watch : Watch} {handle : Handle}
    {interface : Interface} {request : UInt8} {index : UInt16}
    (h : request ∈ [Request.reset, Request.setLatency, Request.setBitMode]) (value : UInt16)
    (hheld : watch.held = some (handle, interface)) (hindex : index = interface.channel.index) :
    (controlOut handle request value index options.writeTimeout).Addressed options watch := by
  have hrate : request ≠ Request.setBaudRate := by
    rintro rfl
    revert h
    decide
  refine ⟨rfl, interface, hheld, ?_⟩
  rw [if_neg hrate]
  exact ⟨h, hindex⟩

/-- **The rule of addressing**: calls are addressed, and what is given back is the device held. -/
def addressing (options : Options) : Rule Watch where
  allows watch
    | .asked c _ => c.Addressed options watch
    | .released handle => ∃ interface, watch.held = some (handle, interface)
  add watch event :=
    ⟨event.claim watch.held, if event.readsWord then watch.words.tail else watch.words⟩

theorem addressing_after_held (options : Options) (watch : Watch) (events : List Event) :
    ((addressing options).after watch events).held = events.foldl Event.claim watch.held := by
  induction events generalizing watch with
  | nil => rfl
  | cons event events ih => exact ih _

/-- What a session has open is what is held, and addressed by the channel of the interface that was
claimed for it. -/
def Session.Holds (s : Session) (held : Option (Handle × Interface)) : Prop :=
  match s.link with
  | .opened d => ∃ interface, held = some (d.handle, interface) ∧ d.channel = interface.channel ∧
      d.chip = .ofRelease d.handle.release d.handle.hasSerial
  | _ => held = none

namespace Session.Holds

variable {s t : Session} {held : Option (Handle × Interface)} {d : OpenDevice}

theorem of_link (h : s.Holds held) (link : t.link = s.link) : t.Holds held := by
  unfold Session.Holds
  rw [link]
  exact h

theorem exists_interface (h : s.Holds held) (hs : s.link = .opened d) :
    ∃ interface, held = some (d.handle, interface) ∧ d.channel = interface.channel ∧
      d.chip = .ofRelease d.handle.release d.handle.hasSerial := by
  unfold Session.Holds at h
  rw [hs] at h
  exact h

theorem iff_of_not_open (closed : s.isOpen = false) : s.Holds held ↔ held = none := by
  unfold Session.Holds
  cases hlink : s.link with
  | opened d => exact absurd (Session.isOpen_iff.mpr ⟨d, hlink⟩) (Bool.eq_false_iff.mp closed)
  | unopened | closed => rfl

end Session.Holds

namespace Command

variable {α β : Type} {s : Session} {held : Option (Handle × Interface)}
  {words words' : List UInt16}

/-- **An operation that addresses what is held** by a session: it follows the rule, reads the EEPROM
words at the addresses if it succeeds, and leaves the options and the device held as they are. -/
def Addresses (s : Session) (held : Option (Handle × Interface)) (words : List UInt16)
    (m : Command α) : Prop :=
  ∀ rest, (m s).Follows (addressing s.options)
    (fun watch v => watch.held = held ∧ v.2.Holds held ∧ v.2.options = s.options ∧
      ∀ a, v.1 = .ok a → watch.words = rest)
    ⟨held, words ++ rest⟩

/-- An operation that does so in every session. -/
def Addressed (words : List UInt16) (m : Command α) : Prop :=
  ∀ ⦃s held⦄, s.Holds held → Addresses s held words m

/-! ### Steps -/

namespace Addresses

/-- One operation after another. -/
theorem bind {m : Command α} {f : α → Command β} (hm : Addresses s held words m)
    (hf : ∀ a, Addressed words' (f a)) : Addresses s held (words ++ words') (m >>= f) := by
  intro rest
  rw [List.append_assoc]
  refine (hm (words' ++ rest)).bind ?_
  rintro ⟨held', left⟩ ⟨r, t⟩ ⟨rfl, hholds, hoptions, hwords⟩
  cases r with
  | error e =>
    refine ⟨rfl, hholds, hoptions, fun a ha => ?_⟩
    cases ha
  | ok a =>
    cases hwords a rfl
    have h := hf a hholds rest
    rw [hoptions] at h
    exact h

/-- A call that is no request for a word. -/
theorem ask {c : Call} (hs : s.Holds held)
    (hclaim : ∀ reply, (Event.asked c reply).claim held = held)
    (hword : ∀ reply, (Event.asked c reply).readsWord = false)
    (haddressed : ∀ words, c.Addressed s.options ⟨held, words⟩) :
    Addresses s held [] (ask c) := by
  intro rest reply
  refine ⟨haddressed _, hclaim reply, hs, rfl, fun a _ => ?_⟩
  change (if (Event.asked c reply).readsWord then rest.tail else rest) = rest
  rw [hword, if_neg Bool.false_ne_true]

theorem session_bind {f : Session → Command α} (hf : Addresses s held words (f s)) :
    Addresses s held words (session >>= f) := hf

theorem need_bind {o : Option β} {f : β → Command α} (hf : ∀ a, Addresses s held words (f a)) :
    Addresses s held words (need o >>= f) := by
  cases o with
  | none => exact fun _ => trivial
  | some a => exact hf a

theorem ite {c : Prop} [Decidable c] {m n : Command α} (hm : c → Addresses s held words m)
    (hn : ¬c → Addresses s held words n) : Addresses s held words (if c then m else n) := by
  split
  · next h => exact hm h
  · next h => exact hn h

end Addresses

namespace Addressed

theorem ofExcept (r : Except Error α) : Addressed [] (ofExcept r) :=
  fun _ _ hs _ => ⟨rfl, hs, rfl, fun _ _ => rfl⟩

theorem pure (a : α) : Addressed [] (pure a : Command α) := ofExcept (.ok a)

theorem fail (e : Error) : Addressed words (fail e : Command α) := by
  refine fun s held hs rest => ⟨rfl, hs, rfl, fun a ha => ?_⟩
  cases ha

theorem session : Addressed [] session := fun _ _ hs _ => ⟨rfl, hs, rfl, fun _ _ => rfl⟩

theorem device : Addressed [] device := fun _ _ hs _ => ⟨rfl, hs, rfl, fun _ _ => rfl⟩

theorem note (n : Note) : Addressed [] (note n) := fun _ _ hs _ => ⟨rfl, hs, rfl, fun _ _ => rfl⟩

theorem need (o : Option α) : Addressed [] (need o) := by
  cases o with
  | none => exact fun _ _ _ _ => trivial
  | some a => exact fun _ _ hs _ => ⟨rfl, hs, rfl, fun _ _ => rfl⟩

theorem modify {f : Session → Session} (hlink : ∀ s, (f s).link = s.link)
    (hoptions : ∀ s, (f s).options = s.options) : Addressed [] (modify f) :=
  fun s _ hs _ => ⟨rfl, hs.of_link (hlink s), hoptions s, fun _ _ => rfl⟩

/-- A call on the bus that is for no open device. -/
theorem ask {c : Call} (hclaim : ∀ held reply, (Event.asked c reply).claim held = held)
    (hword : ∀ reply, (Event.asked c reply).readsWord = false)
    (haddressed : ∀ options watch, c.Addressed options watch) : Addressed [] (ask c) :=
  fun _ _ hs => .ask hs (hclaim _) hword fun _ => haddressed _ _

theorem bind {m : Command α} {f : α → Command β} (hm : Addressed words m)
    (hf : ∀ a, Addressed words' (f a)) : Addressed (words ++ words') (m >>= f) :=
  fun _ _ hs => (hm hs).bind hf

/-- Something that reads no word, and then something that may. -/
theorem quiet_bind {m : Command α} {f : α → Command β} (hm : Addressed [] m)
    (hf : ∀ a, Addressed words (f a)) : Addressed words (m >>= f) := hm.bind hf

/-- Something that may read words, and then something that reads none. -/
theorem bind_quiet {m : Command α} {f : α → Command β} (hm : Addressed words m)
    (hf : ∀ a, Addressed [] (f a)) : Addressed words (m >>= f) := by
  have h := hm.bind hf
  rwa [List.append_nil] at h

theorem map {f : α → β} {m : Command α} (hm : Addressed words m) : Addressed words (f <$> m) :=
  hm.bind_quiet fun _ => pure _

theorem ite {c : Prop} [Decidable c] {m n : Command α} (hm : c → Addressed words m)
    (hn : ¬c → Addressed words n) : Addressed words (if c then m else n) :=
  fun _ _ hs => .ite (fun h => hm h hs) fun h => hn h hs

/-- An operation that needs an open device. -/
theorem of_gated {m : Command α} (gated : Gated m)
    (hm : ∀ s held d, s.link = .opened d → s.Holds held → Addresses s held words m) :
    Addressed words m := by
  intro s held hs
  cases closed : s.isOpen with
  | true =>
    obtain ⟨d, hlink⟩ := Session.isOpen_iff.mp closed
    exact hm s held d hlink hs
  | false =>
    intro rest
    rw [gated closed]
    exact Addressed.fail .notOpen hs rest

/-- What begins with the open device. -/
theorem device_bind {f : OpenDevice → Command α}
    (hf : ∀ s held d, s.link = .opened d → s.Holds held → Addresses s held words (f d)) :
    Addressed words (Command.device >>= f) := by
  refine .of_gated (Gated.device.bind f) fun s held d hlink hs rest => ?_
  obtain ⟨options, link, staged⟩ := s
  cases hlink
  exact hf _ held d rfl hs rest

theorem update {f : OpenDevice → OpenDevice}
    (h : ∀ d, (f d).handle = d.handle ∧ (f d).channel = d.channel ∧ (f d).chip = d.chip) :
    Addressed [] (update f) := by
  refine .device_bind fun s held d hlink hs rest => ⟨rfl, ?_, rfl, fun _ _ => rfl⟩
  obtain ⟨hhandle, hchannel, hchip⟩ := h d
  obtain ⟨interface, hheld, hinterface, hrelease⟩ := hs.exists_interface hlink
  exact ⟨interface, hhandle ▸ hheld, hchannel.trans hinterface, by rw [hchip, hrelease, hhandle]⟩

end Addressed

/-! ### Transfers -/

theorem controlOut_addressed {request : UInt8}
    (h : request ∈ [Request.reset, Request.setLatency, Request.setBitMode]) (value : UInt16) :
    Addressed [] (controlOut request value) := by
  unfold controlOut
  refine .device_bind fun s held d hlink hs => ?_
  obtain ⟨interface, hheld, hchannel, -⟩ := hs.exists_interface hlink
  exact .ask hs (fun _ => rfl) (fun _ => rfl) fun words =>
    Call.addressed_controlOut h value hheld (congrArg _ hchannel)

theorem controlIn_of_opened {s : Session} {d : OpenDevice} (hlink : s.link = .opened d)
    (request : UInt8) (index length : UInt16) :
    controlIn request index length s =
      .call (.controlIn d.handle request 0 index length s.options.readTimeout) fun reply =>
        match reply with
        | .error e => .done (.error e, s)
        | .ok data => (if data.length < length.toNat
            then fail (.shortTransfer length.toNat data.length) else pure data : Command _) s := by
  obtain ⟨options, link, staged⟩ := s
  cases hlink
  refine congrArg (Program.call _) (funext fun reply => ?_)
  cases reply <;> rfl

/-- A request for bytes, which may be for an EEPROM word. -/
theorem controlIn_addresses {s : Session} {d : OpenDevice} {request : UInt8} {index : UInt16}
    (hlink : s.link = .opened d) (hs : s.Holds held) (length : UInt16)
    (haddressed : ∀ rest, (Call.controlIn d.handle request 0 index length
      s.options.readTimeout).Addressed s.options ⟨held, words ++ rest⟩)
    (hwords : ∀ rest, (if request == Request.readEeprom then (words ++ rest).tail
      else words ++ rest) = rest) :
    Addresses s held words (controlIn request index length) := by
  intro rest
  rw [controlIn_of_opened hlink]
  intro reply
  refine ⟨haddressed rest, ?_⟩
  change Program.Follows _ _ _ (Watch.mk held
    (if request == Request.readEeprom then (words ++ rest).tail else words ++ rest))
  rw [hwords]
  rcases reply with e | data
  · refine ⟨rfl, hs, rfl, fun a ha => ?_⟩
    cases ha
  · exact Addressed.ite (fun _ => .fail _) (fun _ => .pure data) hs rest

/-- A request to the channel of the open device. -/
theorem controlIn_channel {request : UInt8} (h : request ∈ [Request.getLatency, Request.readPins])
    (length : UInt16) {s : Session} {d : OpenDevice} (hlink : s.link = .opened d)
    (hs : s.Holds held) : Addresses s held [] (controlIn request d.channel.index length) := by
  obtain ⟨interface, hheld, hchannel, -⟩ := hs.exists_interface hlink
  have hword : request ≠ Request.readEeprom := by
    rintro rfl
    revert h
    decide
  refine controlIn_addresses hlink hs length (fun rest => ⟨rfl, interface, hheld, ?_⟩) fun rest => ?_
  · rw [if_neg hword, hchannel]
    exact ⟨h, rfl⟩
  · rw [beq_false_of_ne hword, if_neg Bool.false_ne_true]
    rfl

theorem readWord_addressed (address : UInt16) : Addressed [address] (readWord address) := by
  have hread : Addressed [address] (controlIn Request.readEeprom address 2) := by
    refine .of_gated (controlIn_gated _ _ _) fun s held d hlink hs => ?_
    obtain ⟨interface, hheld, -⟩ := hs.exists_interface hlink
    exact controlIn_addresses hlink hs 2 (fun _ => ⟨rfl, interface, hheld, by rfl⟩) fun _ => rfl
  unfold readWord
  exact hread.bind_quiet fun data => .quiet_bind (.need _) fun low =>
    .quiet_bind (.need _) fun high => .pure _

/-- A write goes to the OUT endpoint, chunk by chunk. -/
theorem sendAll_follows {options : Options} {d : OpenDevice} {interface : Interface} {chunk : Nat}
    (hheld : held = some (d.handle, interface)) (hchannel : d.channel = interface.channel)
    (data : List UInt8) (sent : Nat) :
    (sendAll d chunk options.writeTimeout data sent).Follows (addressing options)
      (fun watch _ => watch = ⟨held, words⟩) ⟨held, words⟩ := by
  induction data, sent using sendAll.induct d chunk options.writeTimeout with
  | case1 sent =>
    unfold sendAll
    rfl
  | case2 b rest sent piece =>
    rename_i ih
    unfold sendAll
    intro reply
    refine ⟨⟨rfl, interface, hheld, congrArg _ hchannel⟩, ?_⟩
    rcases reply with e | _ | more
    · rfl
    · rfl
    · exact ih more

theorem bulkWrite_addressed (data : List UInt8) : Addressed [] (bulkWrite data) := by
  unfold bulkWrite
  refine .device_bind fun s held d hlink hs rest => ?_
  obtain ⟨interface, hheld, hchannel, -⟩ := hs.exists_interface hlink
  refine (sendAll_follows hheld hchannel data 0).bind ?_
  rintro watch r rfl
  exact ⟨rfl, hs, rfl, fun _ _ => rfl⟩

end Command

end PinBridge
