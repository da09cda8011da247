import PinBridge.Proofs.Orderly
import PinBridge.Proofs.Session.Turn
import PinBridge.Simulator.Bus

/-!
# Operations that end with the first failure

All operations but the one that closes a device are over with the first call that fails, whatever it
is for, and end in its error (`perform_prompt`). Nearly all of them do not touch the pins either:
they select no bit mode, and they leave alone what the session takes the pins of its device for
(`Steady`, `perform_steady`). Both are kept by `bind`, so that one line for each operation is
enough.
-/

namespace PinBridge

/-- Whether a call asks for a bit mode. -/
def Call.selectsMode : Call → Bool
  | controlOut _ request .. => request == Request.setBitMode
  | _ => false

/-- The device that a session has open, and what it takes its pins for. -/
def Session.drive (s : Session) : Option (Handle × Chip × PinMode) :=
  match s.link with
  | .opened d => some (d.handle, d.chip, d.mode)
  | _ => none

theorem Session.drive_of_opened {s : Session} {d : OpenDevice} (hs : s.link = .opened d) :
    s.drive = some (d.handle, d.chip, d.mode) := by
  unfold drive
  rw [hs]

theorem Session.drive_of_not_opened {s : Session} (hs : ∀ d, s.link ≠ .opened d) :
    s.drive = none := by
  unfold drive
  split
  · next d hd => exact absurd hd (hs d)
  · rfl

namespace Command

variable {α β γ : Type} {allowed : Call → Prop} {view : Session → γ}

/-- **An orderly operation**: it makes allowed calls only, the first one that fails is its last and
its error the result, and it keeps a view of the session. -/
def Orderly (allowed : Call → Prop) (view : Session → γ) (m : Command α) : Prop :=
  ∀ s, (m s).Orderly allowed (fun e v => v.1 = .error e) fun v => view v.2 = view s

namespace Orderly

theorem ofExcept (r : Except Error α) : Orderly allowed view (ofExcept r) := fun _ => rfl

theorem pure (a : α) : Orderly allowed view (pure a) := fun _ => rfl

theorem fail (e : Error) : Orderly allowed view (fail e : Command α) := fun _ => rfl

theorem session : Orderly allowed view session := fun _ => rfl

theorem device : Orderly allowed view device := fun _ => rfl

theorem note (n : Note) : Orderly allowed view (note n) := fun _ => rfl

theorem need (o : Option α) : Orderly allowed view (need o) := fun _ => by
  cases o with
  | none => trivial
  | some a => rfl

theorem modify {f : Session → Session} (h : ∀ s, view (f s) = view s) :
    Orderly allowed view (modify f) := h

/-- A call whose answers are all of use. -/
theorem ask {c : Call} (hallowed : allowed c)
    (hanswer : ∀ a, (Event.asked c (.ok a)).failure? = none) : Orderly allowed view (ask c) := by
  refine fun s => ⟨hallowed, fun reply => ⟨fun e failed => ?_, fun _ => rfl⟩⟩
  rcases reply with e' | a
  · rw [Event.failure?_error] at failed
    cases failed
    exact ⟨rfl, rfl⟩
  · rw [hanswer] at failed
    cases failed

theorem bind {m : Command α} {f : α → Command β} (hm : Orderly allowed view m)
    (hf : ∀ a, Orderly allowed view (f a)) : Orderly allowed view (m >>= f) := by
  intro s
  refine (hm s).bind ?_ ?_
  · rintro ⟨r, s₁⟩ hview
    cases r with
    | error e => exact hview
    | ok a =>
      have h := hf a s₁
      rw [show view s₁ = view s from hview] at h
      exact h
  · rintro e ⟨r, s₁⟩ rfl hview
    exact ⟨rfl, hview⟩

theorem ite {c : Prop} [Decidable c] {m n : Command α} (hm : Orderly allowed view m)
    (hn : Orderly allowed view n) : Orderly allowed view (if c then m else n) := by
  split
  · exact hm
  · exact hn

theorem map {f : α → β} {m : Command α} (hm : Orderly allowed view m) :
    Orderly allowed view (f <$> m) := hm.bind fun _ => pure _

/-- An operation whose way out is over at once, with the error that it has been taken for. -/
theorem recover {m : Command α} {f : Error → Command α} (hm : Orderly allowed view m)
    (hf : ∀ e s, (f e s).Over fun v => v.1 = .error e ∧ view v.2 = view s) :
    Orderly allowed view (recover m f) := by
  intro s
  have hover : ∀ e s₁, view s₁ = view s →
      (f e s₁).Over fun v => v.1 = .error e ∧ view v.2 = view s := by
    intro e s₁ hview
    exact (hf e s₁).mono fun v hv => ⟨hv.1, hv.2.trans hview⟩
  refine (hm s).bind ?_ ?_
  · rintro ⟨r, s₁⟩ hview
    cases r with
    | ok a => exact hview
    | error e => exact ((hover e s₁ hview).mono fun v hv => hv.2).orderly
  · rintro e ⟨r, s₁⟩ rfl hview
    exact hover e s₁ hview

theorem mono {δ : Type} {allowed' : Call → Prop} {view' : Session → δ} {m : Command α}
    (hm : Orderly allowed view m) (hallowed : ∀ c, allowed c → allowed' c)
    (hview : ∀ s t, view t = view s → view' t = view' s) : Orderly allowed' view' m :=
  fun s => (hm s).mono hallowed fun v => hview s v.2

theorem update {f : OpenDevice → OpenDevice}
    (h : ∀ s d, s.link = .opened d → view { s with link := .opened (f d) } = view s) :
    Orderly allowed view (update f) := by
  intro s
  unfold Command.update
  change (Command.bind Command.device _ s).Orderly _ _ _
  unfold Command.bind Command.device Session.device
  cases hs : s.link with
  | opened d =>
    simp only [Program.bind]
    exact h s d hs
  | unopened => rfl
  | closed => rfl

end Orderly

/-- **A prompt operation**: the first call that fails is its last, and its error the result. -/
def Prompt (m : Command α) : Prop := Orderly (fun _ => True) (fun _ => ()) m

/-- **A steady operation**: a prompt one that does not touch the pins. -/
def Steady (m : Command α) : Prop := Orderly (fun c => c.selectsMode = false) Session.drive m

theorem Steady.prompt {m : Command α} (hm : Steady m) : Prompt m :=
  hm.mono (fun _ _ => trivial) fun _ _ _ => rfl

/-! ### Steps -/

theorem controlOut_orderly {request : UInt8} {value : UInt16}
    (hallowed : ∀ handle index timeout,
      allowed (.controlOut handle request value index timeout)) :
    Orderly allowed view (controlOut request value) := by
  unfold controlOut
  exact .bind .device fun d => .bind .session fun s => .ask (hallowed _ _ _) fun _ => rfl

theorem update_steady {f : OpenDevice → OpenDevice}
    (h : ∀ d, (f d).handle = d.handle ∧ (f d).chip = d.chip ∧ (f d).mode = d.mode) :
    Steady (update f) := by
  refine .update fun s d hs => ?_
  obtain ⟨hhandle, hchip, hmode⟩ := h d
  rw [Session.drive_of_opened hs, Session.drive_of_opened rfl, hhandle, hchip, hmode]

/-- A request for bytes fails where too few come. -/
theorem controlIn_steady (request : UInt8) (index length : UInt16) :
    Steady (controlIn request index length) := by
  unfold controlIn
  refine .bind .device fun d => .bind .session fun s t => ⟨rfl, fun reply => ?_⟩
  rcases reply with e' | data
  · refine ⟨fun e failed => ?_, fun fine => ?_⟩
    · rw [Event.failure?_error] at failed
      cases failed
      exact ⟨rfl, rfl⟩
    · rw [Event.failure?_error] at fine
      cases fine
  · simp only [Event.failure?]
    by_cases hshort : data.length < length.toNat
    · rw [if_pos hshort]
      refine ⟨fun e failed => ?_, fun fine => ?_⟩
      · cases failed
        change ((if _ then _ else _ : Command (List UInt8)) t).Over _
        rw [if_pos hshort]
        exact ⟨rfl, rfl⟩
      · cases fine
    · rw [if_neg hshort]
      refine ⟨fun e failed => ?_, fun _ => ?_⟩
      · cases failed
      · exact Orderly.ite (.fail _) (.pure _) t

/-- A write fails with a call that fails or of which nothing is taken. -/
theorem sendAll_orderly (d : OpenDevice) (chunk timeout : Nat) (data : List UInt8) (sent : Nat) :
    (sendAll d chunk timeout data sent).Orderly (fun c => c.selectsMode = false)
      (fun e r => r = .error e) fun _ => True := by
  induction data, sent using sendAll.induct d chunk timeout with
  | case1 sent =>
    unfold sendAll
    trivial
  | case2 b rest sent piece =>
    rename_i ih
    unfold sendAll
    refine ⟨rfl, fun reply => ?_⟩
    rcases reply with e' | _ | more
    · refine ⟨fun e failed => ?_, fun _ => trivial⟩
      cases failed
      exact ⟨rfl, trivial⟩
    · refine ⟨fun e failed => ?_, fun _ => trivial⟩
      cases failed
      exact ⟨rfl, trivial⟩
    · refine ⟨fun e failed => ?_, fun _ => ih more⟩
      cases failed

theorem bulkWrite_steady (data : List UInt8) : Steady (bulkWrite data) := by
  unfold bulkWrite
  refine .bind .device fun d s => (sendAll_orderly d _ _ data 0).bind (fun _ _ => rfl) ?_
  rintro e r rfl -
  exact ⟨rfl, rfl⟩

/-! ### Looking devices up -/

theorem findAll_steady (vendor product : UInt16) : Steady (findAll vendor product) := by
  unfold findAll
  exact .bind (.ask rfl fun _ => rfl) fun devices => .bind (.note _) fun _ => .pure _

theorem getStrings_steady (d : Descriptor) : Steady (getStrings d) := .ask rfl fun _ => rfl

theorem fits_steady (f : Filter) (d : Descriptor) : Steady (fits f d) := by
  unfold fits
  exact .ite (.bind (getStrings_steady d) fun _ => .pure _) (.pure _)

theorem pick_steady (f : Filter) :
    ∀ (candidates : List Descriptor) (skip : Nat), Steady (pick f candidates skip)
  | [], skip => .fail _
  | d :: rest, skip => by
    unfold pick
    refine .bind (fits_steady f d) fun fit => .ite ?_ (pick_steady f rest skip)
    cases skip with
    | zero => exact .pure d
    | succ skip => exact pick_steady f rest skip

theorem findDevice_steady (f : Filter) : Steady (findDevice f) := by
  unfold findDevice
  exact .bind (findAll_steady _ _) fun candidates => pick_steady f candidates f.index

/-! ### The serial line -/

/-- A request that asks for no bit mode. -/
theorem controlOut_steady {request : UInt8} (h : request ≠ Request.setBitMode) (value : UInt16) :
    Steady (controlOut request value) :=
  controlOut_orderly fun _ _ _ => beq_eq_false_iff_ne.mpr h

theorem forgetPending_steady : Steady forgetPending := update_steady fun _ => ⟨rfl, rfl, rfl⟩

theorem reset_steady : Steady reset := by
  unfold reset
  exact .bind (controlOut_steady (by decide) _) fun _ => forgetPending_steady

theorem purgeReceive_steady : Steady purgeReceive := by
  unfold purgeReceive
  exact .bind (controlOut_steady (by decide) _) fun _ => forgetPending_steady

theorem purgeTransmit_steady : Steady purgeTransmit := controlOut_steady (by decide) _

theorem purge_steady : Steady purge := by
  unfold purge
  exact .bind purgeReceive_steady fun _ => purgeTransmit_steady

theorem setBaudRate_steady (rate : UInt32) : Steady (setBaudRate rate) := by
  unfold setBaudRate
  refine .bind .device fun d => ?_
  simp only
  cases Baud.Setting.ofRate? d.chip d.channel.index (effectiveRate d.mode rate) with
  | none => exact .fail _
  | some setting =>
    exact .ite (.bind .session fun s => .bind (.ask rfl fun _ => rfl) fun _ =>
      update_steady fun _ => ⟨rfl, rfl, rfl⟩) (.fail _)

theorem setLatency_steady (ms : UInt8) : Steady (setLatency ms) := by
  unfold setLatency
  exact .ite (.fail _) (controlOut_steady (by decide) _)

theorem latency_steady : Steady latency := by
  unfold latency
  exact .bind .device fun d => .bind (controlIn_steady _ _ _) fun data => .need _

theorem refill_steady : Steady refill := by
  unfold refill
  exact .bind .device fun d => .ite (.bind .session fun s => .bind (.need _) fun length =>
    .bind (.ask rfl fun _ => rfl) fun reply => update_steady fun _ => ⟨rfl, rfl, rfl⟩) (.pure _)

theorem readData_steady (length : Nat) : Steady (readData length) := by
  unfold readData
  exact .ite (.pure _) (.bind refill_steady fun _ => .bind .device fun d =>
    .bind (update_steady fun _ => ⟨rfl, rfl, rfl⟩) fun _ => .pure _)

/-! ### The pins and the memory of the chip -/

theorem requireDriven_steady : Steady requireDriven := by
  unfold requireDriven
  exact .bind .device fun d => .ite (.fail _) (.pure _)

theorem writePattern_steady (pattern : List UInt8) : Steady (writePattern pattern) := by
  unfold writePattern
  exact .bind requireDriven_steady fun _ => bulkWrite_steady pattern

theorem writeData_steady (value : UInt8) : Steady (writeData value) := by
  unfold writeData
  exact .bind (writePattern_steady _) fun _ => .pure _

theorem readPins_steady : Steady readPins := by
  unfold readPins
  exact .bind requireDriven_steady fun _ => .bind .device fun d =>
    .bind (controlIn_steady _ _ _) fun data => .need _

theorem readWord_steady (address : UInt16) : Steady (readWord address) := by
  unfold readWord
  exact .bind (controlIn_steady _ _ _) fun data => .bind (.need _) fun low =>
    .bind (.need _) fun high => .pure _

theorem readWords_steady : ∀ (count address : Nat), Steady (readWords address count)
  | 0, address => .pure _
  | count + 1, address => by
    unfold readWords
    exact .bind (readWord_steady _) fun word =>
      .bind (readWords_steady count (address + 1)) fun rest => .pure _

theorem readEeprom_steady : Steady readEeprom := by
  unfold readEeprom
  exact .bind .device fun d => .bind (readWords_steady _ _) fun raw =>
    .bind (.modify fun _ => rfl) fun _ => .note _

theorem stagedPart_steady (size : Nat) : Steady (stagedPart size) := by
  unfold stagedPart
  exact .bind .session fun s => .ite (.fail _) (.pure _)

theorem readEepromWord_steady (address : UInt16) : Steady (readEepromWord address) := by
  unfold readEepromWord
  exact .bind .device fun d => .ite (.fail _) (.bind (readWord_steady _) fun word => .pure _)

theorem readChipId_steady : Steady readChipId := by
  unfold readChipId
  exact .bind .device fun d => .ite
    (.bind (readWord_steady _) fun first => .bind (readWord_steady _) fun second =>
      .bind (.note _) fun _ => .pure _)
    (.fail _)

/-! ### Options -/

theorem requireNotOpen_orderly : Orderly allowed view requireNotOpen := by
  unfold requireNotOpen
  exact .bind .session fun s => .ite (.fail _) (.pure _)

theorem setInterface_steady (interface : Interface) : Steady (setInterface interface) := by
  unfold setInterface
  exact .bind requireNotOpen_orderly fun _ => .modify fun _ => rfl

theorem setReadChunk_steady (size : Nat) : Steady (setReadChunk size) := by
  unfold setReadChunk
  exact .ite (.fail _) (.modify fun _ => rfl)

theorem setWriteChunk_steady (size : Nat) : Steady (setWriteChunk size) := by
  unfold setWriteChunk
  exact .ite (.fail _) (.modify fun _ => rfl)

/-! ### Opening a device and selecting a bit mode -/

/-- Opening asks for no bit mode, but it changes the device that the session has open. -/
theorem openDevice_orderly (d : Descriptor) :
    Orderly (fun c => c.selectsMode = false) (fun _ => ()) (openDevice d) := by
  have hsetUp : Steady (reset >>= fun _ => setBaudRate initialRate) :=
    .bind reset_steady fun _ => setBaudRate_steady _
  unfold openDevice setLink forgetStaged
  refine .bind requireNotOpen_orderly fun _ => .bind .session fun before =>
    .bind (.ask rfl fun _ => rfl) fun handle => .bind (.modify fun _ => rfl) fun _ =>
      .bind (.recover (hsetUp.mono (fun _ h => h) fun _ _ _ => rfl) fun e s => ?_) fun _ =>
        .bind (.modify fun _ => rfl) fun _ => .note _
  exact ⟨rfl, rfl⟩

theorem openIds_orderly (vendor product : UInt16) :
    Orderly (fun c => c.selectsMode = false) (fun _ => ()) (openIds vendor product) := by
  unfold openIds
  refine .bind requireNotOpen_orderly fun _ =>
    .bind ((findAll_steady _ _).mono (fun _ h => h) fun _ _ _ => rfl) fun found => ?_
  cases found with
  | nil => exact .fail _
  | cons d rest => exact openDevice_orderly d

theorem openFilter_orderly (f : Filter) :
    Orderly (fun c => c.selectsMode = false) (fun _ => ()) (openFilter f) := by
  unfold openFilter
  exact .bind requireNotOpen_orderly fun _ =>
    .bind ((findDevice_steady f).mono (fun _ h => h) fun _ _ _ => rfl) openDevice_orderly

theorem setBitMode_prompt (mask : UInt8) (mode : BitMode) : Prompt (setBitMode mask mode) := by
  unfold setBitMode
  exact .bind .device fun d => .ite
    (.bind (controlOut_orderly fun _ _ _ => trivial) fun _ =>
      .bind (.update fun _ _ _ => rfl) fun _ => .note _)
    (.fail _)

theorem setBitModeByte_prompt (mask value : UInt8) : Prompt (setBitModeByte mask value) := by
  unfold setBitModeByte
  exact .bind .device fun _ => .bind (.ofExcept _) fun mode => setBitMode_prompt mask mode

end Command

/-! ### All calls -/

/-- The mask that a call puts on the pins, if it asks for a bit mode. -/
def Action.mask? : Action → Option UInt8
  | setBitMode mask _ | setBitModeByte mask _ => some mask
  | disableBitMode => some 0
  | _ => none

open Command

/-- **All calls but those that open or close a device or ask for a bit mode are steady.** -/
theorem perform_steady {action : Action} (opening : action.isOpening = false)
    (hmask : action.mask? = none) (close : action ≠ .close) :
    Steady action.perform := by
  cases action with
  | mode | chip | ids | baudRate | packetSize => exact .map .device
  | setInterface interface => exact setInterface_steady interface
  | setReadTimeout ms => exact .modify fun _ => rfl
  | setWriteTimeout ms => exact .modify fun _ => rfl
  | setReadChunk size => exact setReadChunk_steady size
  | setWriteChunk size => exact setWriteChunk_steady size
  | openIds | openFilter | openDevice => cases opening
  | close => exact absurd rfl close
  | findAll vendor product => exact findAll_steady vendor product
  | getStrings device => exact getStrings_steady device
  | findDevice filter => exact findDevice_steady filter
  | reset => exact reset_steady
  | purgeReceive => exact purgeReceive_steady
  | purgeTransmit => exact purgeTransmit_steady
  | purge => exact purge_steady
  | setBaudRate rate => exact setBaudRate_steady rate
  | setLatency ms => exact setLatency_steady ms
  | latency => exact latency_steady
  | readData length => exact readData_steady length
  | setBitMode | setBitModeByte | disableBitMode => cases hmask
  | writeData value => exact writeData_steady value
  | writePattern pattern => exact writePattern_steady pattern
  | readPins => exact readPins_steady
  | readEeprom => exact readEeprom_steady
  | stagedPart size => exact stagedPart_steady size
  | readEepromWord address => exact readEepromWord_steady address
  | readChipId => exact readChipId_steady

/-- Opening a device asks for no bit mode. -/
theorem perform_orderly_of_opening {action : Action} (opening : action.isOpening) :
    Orderly (fun c => c.selectsMode = false) (fun _ => ()) action.perform := by
  cases action with
  | openIds vendor product => exact openIds_orderly vendor product
  | openFilter filter => exact openFilter_orderly filter
  | openDevice device => exact openDevice_orderly device
  | _ => cases opening

/-- **All calls but the one that closes a device are prompt.** -/
theorem perform_prompt {action : Action} (close : action ≠ .close) : Prompt action.perform := by
  cases opening : action.isOpening with
  | true => exact (perform_orderly_of_opening opening).mono (fun _ _ => trivial) fun _ _ h => h
  | false =>
    cases hmask : action.mask? with
    | none => exact (perform_steady opening hmask close).prompt
    | some mask =>
      cases action with
      | setBitMode mask mode => exact setBitMode_prompt mask mode
      | setBitModeByte mask value => exact setBitModeByte_prompt mask value
      | disableBitMode => exact setBitMode_prompt 0 .reset
      | _ => cases hmask

/-- **Nothing is tried again.** Whatever the bus, the session and the call, be it any but the one
that closes: a call on the bus that fails is the last one, what is left to do is no more than to
give a handle back, and the failure is the result. -/
theorem failure_ends_action {σ : Type} {bus : Bus σ} {world : σ} {s : Session} {action : Action}
    {before rest : List Event} {event : Event} {e : Error} (close : action ≠ .close)
    (hplay : ((action.perform s).play bus world).1 = before ++ event :: rest)
    (failed : event.failure? = some e) :
    (∀ later ∈ rest, later.call? = none) ∧
      ∃ t, ((action.perform s).play bus world).2.1 = some (.error e, t) := by
  obtain ⟨hrest, ⟨r, t⟩, hvalue, rfl⟩ := (perform_prompt close s).of_play hplay failed
  exact ⟨hrest, t, hvalue⟩

/-- A board that is opened and then does not answer is given back, and that is all. -/
theorem failure_ends_action_unreset :
    (∀ later ∈ [Event.released ⟨0, 0x0600, false, some 64⟩], later.call? = none) ∧
      ∃ t, (((Action.openDevice ⟨vendorId, ProductId.board, "1", 1, 0x0600, .none⟩).perform
        ⟨.default, .unopened, none⟩).play Simulator.bus
          { Simulator.State.ofBoards [.light] with failTransfer := some .timeout }).2.1 =
        some (.error .timeout, t) := by
  have hplay : (((Action.openDevice ⟨vendorId, ProductId.board, "1", 1, 0x0600, .none⟩).perform
      ⟨.default, .unopened, none⟩).play Simulator.bus
        { Simulator.State.ofBoards [.light] with failTransfer := some .timeout }).1 =
      [.asked (.openDevice ⟨vendorId, ProductId.board, "1", 1, 0x0600, .none⟩ .any)
        (.ok ⟨0, 0x0600, false, some 64⟩)] ++
        .asked (.controlOut ⟨0, 0x0600, false, some 64⟩ Request.reset Request.everything 1 5000)
          (.error .timeout) :: [.released ⟨0, 0x0600, false, some 64⟩] := rfl
  exact failure_ends_action (by decide) hplay rfl

end PinBridge
