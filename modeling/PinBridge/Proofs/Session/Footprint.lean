import PinBridge.Proofs.Within
import PinBridge.Session.Action

/-!
# What a call may set off

A call on the bus takes a device, goes to its receive side, writes to it or selects what its pins
do, or else it only asks for something or sets the line up (`Effect`). `Action.May` lists which of
these may come of a call on a session. No call on a session comes to anything else, none crashes on
a branch of its program, and none makes a chunk empty: `perform_within`.

All of this is kept by `bind`, so that one line for each operation is enough. What no crash rests on
is that the bytes that are looked at are there: `controlIn` yields no fewer than were asked for.
-/

namespace PinBridge

/-- What a call on the bus may set off at the other end. -/
inductive Effect
  /-- A device is taken. -/
  | claim (device : Descriptor)
  /-- What waits to be read is handed out or thrown away. -/
  | receive
  /-- Bytes are taken in. -/
  | transmit
  /-- A bit mode is selected. -/
  | drive

/-- What a call sets off; most requests ask for something or set the line up only. -/
def Call.effect? : Call → Option Effect
  | openDevice d _ => some (.claim d)
  | controlOut _ request value _ _ =>
    if request = Request.setBitMode then some .drive
    else if request = Request.reset ∧ value ≠ Request.transmitBuffer then some .receive
    else none
  | bulkWrite .. => some .transmit
  | bulkRead .. => some .receive
  | list | strings .. | controlIn .. => none

/-- A call sets off only what it may. -/
def Call.Minds (may : Effect → Prop) (c : Call) : Prop :=
  ∀ effect, c.effect? = some effect → may effect

/-- **What a call on a session may set off.** -/
def Action.May : Action → Effect → Prop
  | openDevice d, .claim device => device = d
  | openIds .., .claim _ | openFilter .., .claim _ => True
  | openIds .., .receive | openFilter .., .receive | openDevice _, .receive => True
  | reset, .receive | purgeReceive, .receive | purge, .receive | readData _, .receive => True
  | writeData _, .transmit | writePattern _, .transmit => True
  | setBitMode .., .drive | setBitModeByte .., .drive | disableBitMode, .drive => True
  | close, .drive => True
  | _, _ => False

/-- No chunk is empty. -/
def Options.Usable (options : Options) : Prop := 0 < options.readChunk ∧ 0 < options.writeChunk

theorem Session.usable_of_new {options : Options} {s : Session}
    (made : Session.new options = .ok s) : s.options.Usable := by
  unfold Session.new at made
  split at made
  · cases made
  · next h =>
    cases made
    simp only [Bool.or_eq_true, decide_eq_true_eq, not_or] at h
    exact ⟨Nat.pos_of_ne_zero h.1, Nat.pos_of_ne_zero h.2⟩

namespace Command

variable {α β : Type} {may : Effect → Prop} {Q : α → Prop} {R : β → Prop}

/-- **An operation that stays within bounds**, keeps the options usable and yields what it should
where it succeeds. -/
def Yields (may : Effect → Prop) (Q : α → Prop) (m : Command α) : Prop :=
  ∀ s, (m s).Within (Call.Minds may) fun v =>
    (s.options.Usable → v.2.options.Usable) ∧ ∀ a, v.1 = .ok a → Q a

/-- An operation that stays within bounds, whatever it yields. -/
def Within (may : Effect → Prop) (m : Command α) : Prop := Yields may (fun _ => True) m

/-! ### Steps -/

namespace Yields

theorem ofExcept (r : Except Error α) (h : ∀ a, r = .ok a → Q a) : Yields may Q (ofExcept r) :=
  fun _ => ⟨id, h⟩

theorem pure {a : α} (h : Q a) : Yields may Q (pure a : Command α) := by
  refine .ofExcept _ fun a' ha => ?_
  cases ha
  exact h

theorem fail (e : Error) : Yields may Q (fail e : Command α) := by
  refine .ofExcept _ fun a ha => ?_
  cases ha

theorem session : Within may session := fun _ => ⟨id, fun _ _ => trivial⟩

theorem device : Within may device := fun _ => ⟨id, fun _ _ => trivial⟩

theorem note (n : Note) : Within may (note n) := fun _ => ⟨id, fun _ _ => trivial⟩

theorem giveBack (handle : Handle) : Within may (giveBack handle) :=
  fun _ => ⟨id, fun _ _ => trivial⟩

theorem modify {f : Session → Session} (h : ∀ s, s.options.Usable → (f s).options.Usable) :
    Within may (modify f) := fun s => ⟨h s, fun _ _ => trivial⟩

theorem need {o : Option α} (h : o.isSome) : Within may (need o) := by
  cases o with
  | none => cases h
  | some a => exact pure trivial

theorem ask {c : Call} (h : c.Minds may) : Within may (ask c) :=
  fun _ => ⟨h, fun _ => ⟨id, fun _ _ => trivial⟩⟩

/-- One operation after another, where what the first one yields matters. -/
theorem bind_of {m : Command α} {f : α → Command β} (hm : Yields may Q m)
    (hf : ∀ a, Q a → Yields may R (f a)) : Yields may R (m >>= f) := by
  intro s
  refine (hm s).bind ?_
  rintro ⟨r, t⟩ ⟨husable, hr⟩
  cases r with
  | ok a => exact (hf a (hr a rfl) t).mono fun v hv => ⟨fun h => hv.1 (husable h), hv.2⟩
  | error e =>
    refine ⟨husable, fun b hb => ?_⟩
    cases hb

theorem bind {m : Command α} {f : α → Command β} (hm : Within may m)
    (hf : ∀ a, Yields may R (f a)) : Yields may R (m >>= f) := bind_of hm fun a _ => hf a

/-- What comes behind an operation matters only for what it can yield. -/
theorem bind_congr {m : Command α} {f g : α → Command β} (hm : Yields may Q m)
    (hfg : ∀ a, Q a → f a = g a) : m >>= f = m >>= g := by
  funext s
  refine (hm s).bind_congr ?_
  rintro ⟨r, t⟩ ⟨-, hr⟩
  cases r with
  | ok a => exact congrFun (hfg a (hr a rfl)) t
  | error e => rfl

theorem map {f : α → β} {m : Command α} (hm : Within may m) : Within may (f <$> m) :=
  bind hm fun _ => pure trivial

theorem ite {c : Prop} [Decidable c] {m n : Command α} (hm : Yields may Q m)
    (hn : Yields may Q n) : Yields may Q (if c then m else n) := by
  split
  · exact hm
  · exact hn

theorem recover {m : Command α} {f : Error → Command α} (hm : Within may m)
    (hf : ∀ e, Within may (f e)) : Within may (recover m f) := by
  intro s
  refine (hm s).bind ?_
  rintro ⟨r, t⟩ ⟨husable, -⟩
  cases r with
  | ok a => exact ⟨husable, fun _ _ => trivial⟩
  | error e => exact (hf e t).mono fun v hv => ⟨fun h => hv.1 (husable h), hv.2⟩

theorem update (f : OpenDevice → OpenDevice) : Within may (update f) := by
  unfold Command.update
  exact bind .device fun _ => .modify fun _ h => h

end Yields

theorem requireNotOpen_within : Within may requireNotOpen := by
  unfold requireNotOpen
  exact .bind .session fun s => .ite (.fail _) (.pure trivial)

/-! ### Transfers -/

/-- A request that neither selects a bit mode nor empties the receive buffer. -/
theorem minds_of_effect_none {c : Call} (h : c.effect? = none) : c.Minds may := by
  intro effect heffect
  rw [h] at heffect
  cases heffect

theorem minds_of_effect {c : Call} {effect : Effect} (h : c.effect? = some effect)
    (hmay : may effect) : c.Minds may := by
  intro effect' heffect
  cases h.symm.trans heffect
  exact hmay

theorem controlOut_within {request : UInt8} {value : UInt16}
    (h : ∀ handle index timeout, (Call.controlOut handle request value index timeout).Minds may) :
    Within may (controlOut request value) := by
  unfold controlOut
  exact .bind .device fun d => .bind .session fun s => .ask (h _ _ _)

/-- A request for bytes yields no fewer than were asked for. -/
theorem controlIn_yields (request : UInt8) (index length : UInt16) :
    Yields may (fun data => length.toNat ≤ data.length) (controlIn request index length) := by
  unfold controlIn
  refine .bind .device fun d => .bind .session fun s =>
    .bind (.ask (minds_of_effect_none rfl)) fun data => ?_
  split
  · exact .fail _
  · next long => exact .pure (Nat.le_of_not_lt long)

theorem sendAll_within (hmay : may .transmit) (d : OpenDevice) (chunk timeout : Nat)
    (data : List UInt8) (sent : Nat) :
    (sendAll d chunk timeout data sent).Within (Call.Minds may) fun _ => True := by
  induction data, sent using sendAll.induct d chunk timeout with
  | case1 sent =>
    unfold sendAll
    trivial
  | case2 b rest sent piece =>
    rename_i ih
    unfold sendAll
    refine ⟨minds_of_effect rfl hmay, fun reply => ?_⟩
    rcases reply with e | _ | more
    · trivial
    · trivial
    · exact ih more

theorem bulkWrite_within (hmay : may .transmit) (data : List UInt8) :
    Within may (bulkWrite data) := by
  unfold bulkWrite
  exact .bind .device fun d s =>
    (sendAll_within hmay d _ _ data 0).bind fun _ _ => ⟨id, fun _ _ => trivial⟩

/-! ### Looking devices up -/

theorem findAll_within (vendor product : UInt16) : Within may (findAll vendor product) := by
  unfold findAll
  exact .bind (.ask (minds_of_effect_none rfl)) fun devices =>
    .bind (.note _) fun _ => .pure trivial

theorem getStrings_within (d : Descriptor) : Within may (getStrings d) :=
  .ask (minds_of_effect_none rfl)

theorem fits_within (f : Filter) (d : Descriptor) : Within may (fits f d) := by
  unfold fits
  exact .ite (.bind (getStrings_within d) fun _ => .pure trivial) (.pure trivial)

theorem pick_within (f : Filter) :
    ∀ (candidates : List Descriptor) (skip : Nat), Within may (pick f candidates skip)
  | [], skip => .fail _
  | d :: rest, skip => by
    unfold pick
    refine .bind (fits_within f d) fun fit => .ite ?_ (pick_within f rest skip)
    cases skip with
    | zero => exact .pure trivial
    | succ skip => exact pick_within f rest skip

theorem findDevice_within (f : Filter) : Within may (findDevice f) := by
  unfold findDevice
  exact .bind (findAll_within _ _) fun candidates => pick_within f candidates f.index

/-! ### The serial line -/

theorem forgetPending_within : Within may forgetPending := .update _

theorem reset_within (hmay : may .receive) : Within may reset := by
  unfold reset
  exact .bind (controlOut_within fun _ _ _ => minds_of_effect rfl hmay) fun _ =>
    forgetPending_within

theorem purgeReceive_within (hmay : may .receive) : Within may purgeReceive := by
  unfold purgeReceive
  exact .bind (controlOut_within fun _ _ _ => minds_of_effect rfl hmay) fun _ =>
    forgetPending_within

theorem purgeTransmit_within : Within may purgeTransmit :=
  controlOut_within fun _ _ _ => minds_of_effect_none rfl

theorem purge_within (hmay : may .receive) : Within may purge := by
  unfold purge
  exact .bind (purgeReceive_within hmay) fun _ => purgeTransmit_within

theorem setBaudRate_within (rate : UInt32) : Within may (setBaudRate rate) := by
  unfold setBaudRate
  refine .bind .device fun d => ?_
  simp only
  cases Baud.Setting.ofRate? d.chip d.channel.index (effectiveRate d.mode rate) with
  | none => exact .fail _
  | some setting =>
    exact .ite (.bind .session fun s => .bind (.ask (minds_of_effect_none rfl)) fun _ =>
      .update _) (.fail _)

theorem setLatency_within (ms : UInt8) : Within may (setLatency ms) := by
  unfold setLatency
  exact .ite (.fail _) (controlOut_within fun _ _ _ => minds_of_effect_none rfl)

/-- A byte that there are enough bytes for. -/
theorem need_within {data : List α} {i n : Nat} (h : n ≤ data.length) (hi : i < n) :
    Within may (need data[i]?) := by
  refine .need ?_
  rw [List.getElem?_eq_getElem (Nat.lt_of_lt_of_le hi h)]
  rfl

theorem latency_within : Within may latency := by
  unfold latency
  exact .bind .device fun d => .bind_of (controlIn_yields _ _ _) fun data h =>
    need_within h Nat.one_pos

/-- Packets that are not empty can be counted. -/
theorem wholePackets?_isSome (chunk size : Nat) : (wholePackets? chunk (max size 1)).isSome := by
  unfold wholePackets?
  rw [if_neg (by omega)]
  rfl

theorem refill_within (hmay : may .receive) : Within may refill := by
  unfold refill
  exact .bind .device fun d => .ite (.bind .session fun s =>
    .bind (.need (wholePackets?_isSome _ _)) fun length =>
      .bind (.ask (minds_of_effect rfl hmay)) fun reply => .update _) (.pure trivial)

theorem readData_within (hmay : may .receive) (length : Nat) : Within may (readData length) := by
  unfold readData
  exact .ite (.pure trivial) (.bind (refill_within hmay) fun _ => .bind .device fun d =>
    .bind (.update _) fun _ => .pure trivial)

/-! ### The pins and the memory of the chip -/

theorem setBitMode_within (hmay : may .drive) (mask : UInt8) (mode : BitMode) :
    Within may (setBitMode mask mode) := by
  unfold setBitMode
  exact .bind .device fun d => .ite
    (.bind (controlOut_within fun _ _ _ => minds_of_effect rfl hmay) fun _ =>
      .bind (.update _) fun _ => .note _)
    (.fail _)

theorem setBitModeByte_within (hmay : may .drive) (mask value : UInt8) :
    Within may (setBitModeByte mask value) := by
  unfold setBitModeByte
  exact .bind .device fun _ => .bind (.ofExcept _ fun _ _ => trivial) fun mode =>
    setBitMode_within hmay mask mode

theorem requireDriven_within : Within may requireDriven := by
  unfold requireDriven
  exact .bind .device fun d => .ite (.fail _) (.pure trivial)

theorem writePattern_within (hmay : may .transmit) (pattern : List UInt8) :
    Within may (writePattern pattern) := by
  unfold writePattern
  exact .bind requireDriven_within fun _ => bulkWrite_within hmay pattern

theorem writeData_within (hmay : may .transmit) (value : UInt8) : Within may (writeData value) := by
  unfold writeData
  exact .bind (writePattern_within hmay _) fun _ => .pure trivial

theorem readPins_within : Within may readPins := by
  unfold readPins
  exact .bind requireDriven_within fun _ => .bind .device fun d =>
    .bind_of (controlIn_yields _ _ _) fun data h => need_within h Nat.one_pos

theorem readWord_within (address : UInt16) : Within may (readWord address) := by
  unfold readWord
  exact .bind_of (controlIn_yields _ _ _) fun data h =>
    .bind (need_within h Nat.two_pos) fun low =>
      .bind (need_within h Nat.one_lt_two) fun high => .pure trivial

/-- The words of the EEPROM have two bytes each. -/
theorem readWords_yields : ∀ (count address : Nat),
    Yields may (fun bytes => bytes.length = 2 * count) (readWords address count)
  | 0, address => .pure rfl
  | count + 1, address => by
    unfold readWords
    refine .bind (readWord_within _) fun word =>
      .bind_of (readWords_yields count (address + 1)) fun rest h => .pure ?_
    rw [List.length_cons, List.length_cons, h]
    omega

theorem readEeprom_within : Within may readEeprom := by
  unfold readEeprom
  exact .bind .device fun d => .bind_of (readWords_yields _ _) fun raw _ =>
    .bind (.modify fun _ h => h) fun _ => .note _

theorem stagedPart_within (size : Nat) : Within may (stagedPart size) := by
  unfold stagedPart
  exact .bind .session fun s => .ite (.fail _) (.pure trivial)

theorem readEepromWord_within (address : UInt16) : Within may (readEepromWord address) := by
  unfold readEepromWord
  exact .bind .device fun d => .ite (.fail _) (.bind (readWord_within _) fun word => .pure trivial)

theorem readChipId_within : Within may readChipId := by
  unfold readChipId
  exact .bind .device fun d => .ite
    (.bind (readWord_within _) fun first => .bind (readWord_within _) fun second =>
      .bind (.note _) fun _ => .pure trivial)
    (.fail _)

/-! ### Options -/

theorem setInterface_within (interface : Interface) : Within may (setInterface interface) := by
  unfold setInterface
  exact .bind requireNotOpen_within fun _ => .modify fun _ h => h

theorem setReadChunk_within (size : Nat) : Within may (setReadChunk size) := by
  unfold setReadChunk
  split
  · exact .fail _
  · next hsize => exact .modify fun s h => ⟨Nat.pos_of_ne_zero hsize, h.2⟩

theorem setWriteChunk_within (size : Nat) : Within may (setWriteChunk size) := by
  unfold setWriteChunk
  split
  · exact .fail _
  · next hsize => exact .modify fun s h => ⟨h.1, Nat.pos_of_ne_zero hsize⟩

/-! ### Opening and closing -/

theorem openDevice_within {d : Descriptor} (hclaim : may (.claim d)) (hreceive : may .receive) :
    Within may (openDevice d) := by
  unfold openDevice setLink forgetStaged
  exact .bind requireNotOpen_within fun _ => .bind .session fun before =>
    .bind (.ask (minds_of_effect rfl hclaim)) fun handle => .bind (.modify fun _ h => h) fun _ =>
      .bind (.recover (.bind (reset_within hreceive) fun _ => setBaudRate_within _) fun e =>
        .bind (.note _) fun _ => .bind (.modify fun _ h => h) fun _ =>
          .bind (.giveBack _) fun _ => .fail _)
        fun _ => .bind (.modify fun _ h => h) fun _ => .note _

theorem openIds_within (hclaim : ∀ d, may (.claim d)) (hreceive : may .receive)
    (vendor product : UInt16) : Within may (openIds vendor product) := by
  unfold openIds
  refine .bind requireNotOpen_within fun _ => .bind (findAll_within _ _) fun found => ?_
  cases found with
  | nil => exact .fail _
  | cons d rest => exact openDevice_within (hclaim d) hreceive

theorem openFilter_within (hclaim : ∀ d, may (.claim d)) (hreceive : may .receive) (f : Filter) :
    Within may (openFilter f) := by
  unfold openFilter
  exact .bind requireNotOpen_within fun _ => .bind (findDevice_within f) fun d =>
    openDevice_within (hclaim d) hreceive

theorem shutDown_within (hmay : may .drive) (d : OpenDevice) : Within may (shutDown d) := by
  have hend : Within may (note (.closing d.vendor d.product) >>= fun _ => giveBack d.handle) :=
    .bind (.note _) fun _ => .giveBack _
  unfold shutDown forgetStaged setLink
  exact .bind (.modify fun _ h => h) fun _ => .bind (.modify fun _ h => h) fun _ => .ite hend
    (.bind .session fun s => .bind
      (.recover (.ask (minds_of_effect rfl hmay)) fun e => .note _) fun _ => hend)

theorem close_within (hmay : may .drive) : Within may close := by
  unfold close
  exact .bind .device fun d => shutDown_within hmay d

theorem drop_within (hmay : may .drive) : Within may drop := by
  unfold drop
  refine .bind .session fun s => ?_
  cases s.link with
  | opened d => exact shutDown_within hmay d
  | unopened | closed => exact .pure trivial

theorem release_within (hmay : may .drive) : Within may release := by
  unfold release
  exact .bind (drop_within hmay) fun _ => drop_within hmay

end Command

open Command

/-- **No call on a session crashes, and none sets off what it may not.** -/
theorem perform_within (action : Action) : Command.Within action.May action.perform := by
  cases action with
  | mode | chip | ids | baudRate | packetSize => exact .map .device
  | setInterface interface => exact setInterface_within interface
  | setReadTimeout ms => exact .modify fun _ h => h
  | setWriteTimeout ms => exact .modify fun _ h => h
  | setReadChunk size => exact setReadChunk_within size
  | setWriteChunk size => exact setWriteChunk_within size
  | openIds vendor product => exact openIds_within (fun _ => trivial) trivial vendor product
  | openFilter filter => exact openFilter_within (fun _ => trivial) trivial filter
  | openDevice device => exact openDevice_within rfl trivial
  | close => exact close_within trivial
  | findAll vendor product => exact findAll_within vendor product
  | getStrings device => exact getStrings_within device
  | findDevice filter => exact findDevice_within filter
  | reset => exact reset_within trivial
  | purgeReceive => exact purgeReceive_within trivial
  | purgeTransmit => exact purgeTransmit_within
  | purge => exact purge_within trivial
  | setBaudRate rate => exact setBaudRate_within rate
  | setLatency ms => exact setLatency_within ms
  | latency => exact latency_within
  | readData length => exact readData_within trivial length
  | setBitMode mask mode => exact setBitMode_within trivial mask mode
  | setBitModeByte mask value => exact setBitModeByte_within trivial mask value
  | disableBitMode => exact setBitMode_within trivial 0 .reset
  | writeData value => exact writeData_within trivial value
  | writePattern pattern => exact writePattern_within trivial pattern
  | readPins => exact readPins_within
  | readEeprom => exact readEeprom_within
  | stagedPart size => exact stagedPart_within size
  | readEepromWord address => exact readEepromWord_within address
  | readChipId => exact readChipId_within

end PinBridge
