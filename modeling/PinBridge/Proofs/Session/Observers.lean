import PinBridge.Proofs.Session.Course
import PinBridge.Session.Action

/-!
# Operations that observe

Most operations only look: whatever the bus replies, they leave the session as it is. An operation
*observes* (`Observes`) if it does so and if moreover all its events are plain (`Event.IsPlain`):
no payload comes in by a bulk read, and no device is opened. To observe is kept by `bind`, so that
each operation below is settled by the steps that it is made of.
-/

namespace PinBridge

namespace Event

/-- The reply of a successful bulk read. -/
def data? : Event → Option (List UInt8)
  | asked (.bulkRead ..) (.ok data) => some data
  | _ => none

/-- The handle of a device that has been opened. -/
def handle? : Event → Option Handle
  | asked (.openDevice ..) (.ok handle) => some handle
  | _ => none

/-- Neither a reply to a bulk read nor a handle. -/
def IsPlain (event : Event) : Prop := event.data? = none ∧ event.handle? = none

/-- A call that fails yields neither. -/
theorem isPlain_error (c : Call) (e : Error) : (asked c (.error e)).IsPlain := by
  cases c <;> exact ⟨rfl, rfl⟩

end Event

namespace Command

variable {α β : Type}

/-- **An operation that observes**: on each of its courses the session stays as it is, and all
events are plain. -/
def Observes (m : Command α) : Prop :=
  ∀ ⦃s events r t⦄, m.Course s events r t → t = s ∧ ∀ event ∈ events, event.IsPlain

namespace Observes

/-- An operation that is over without an event and without a change. -/
theorem of_silent {m : Command α} (h : ∀ ⦃s events r t⦄, m.Course s events r t →
    events = [] ∧ t = s) : Observes m := by
  intro s events r t hm
  obtain ⟨rfl, rfl⟩ := h hm
  exact ⟨rfl, by simp⟩

theorem ofExcept (r : Except Error α) : Observes (ofExcept r) :=
  of_silent fun _ _ _ _ h => by
    obtain ⟨h₁, -, h₂⟩ := course_ofExcept.mp h
    exact ⟨h₁, h₂⟩

theorem pure (a : α) : Observes (pure a) := ofExcept (.ok a)

theorem fail (e : Error) : Observes (fail e : Command α) := ofExcept (.error e)

theorem need (o : Option α) : Observes (need o) :=
  of_silent fun _ _ _ _ h => by
    obtain ⟨_, -, h₁, -, h₂⟩ := course_need.mp h
    exact ⟨h₁, h₂⟩

theorem note (n : Note) : Observes (note n) :=
  of_silent fun _ _ _ _ h => by
    obtain ⟨h₁, -, h₂⟩ := course_note.mp h
    exact ⟨h₁, h₂⟩

theorem session : Observes session :=
  of_silent fun s events r t h => by
    obtain ⟨h₁, h₂⟩ := Program.course_done.mp h
    cases h₂
    exact ⟨h₁, rfl⟩

theorem device : Observes device :=
  of_silent fun _ _ _ _ h => by
    obtain ⟨h₁, -, h₂⟩ := course_device.mp h
    exact ⟨h₁, h₂⟩

theorem ask {c : Call} (h : ∀ a, (Event.asked c (.ok a)).IsPlain) : Observes (ask c) := by
  intro s events r t hc
  obtain ⟨rfl, rfl⟩ := course_ask.mp hc
  refine ⟨rfl, fun event hm => ?_⟩
  rw [List.mem_singleton.mp hm]
  cases r with
  | ok a => exact h a
  | error e => exact Event.isPlain_error c e

theorem bind {m : Command α} {f : α → Command β} (hm : Observes m) (hf : ∀ a, Observes (f a)) :
    Observes (m >>= f) := by
  intro s events r t h
  rcases course_bind.mp h with ⟨e, h, -⟩ | ⟨a, first, s₁, second, h₁, h₂, rfl⟩
  · exact hm h
  · obtain ⟨rfl, hfirst⟩ := hm h₁
    obtain ⟨rfl, hsecond⟩ := hf a h₂
    refine ⟨rfl, fun event hmem => ?_⟩
    rcases List.mem_append.mp hmem with hmem | hmem
    · exact hfirst _ hmem
    · exact hsecond _ hmem

theorem ite {c : Prop} [Decidable c] {m n : Command α} (hm : Observes m) (hn : Observes n) :
    Observes (if c then m else n) := by
  split
  · exact hm
  · exact hn

theorem map {f : α → β} {m : Command α} (hm : Observes m) : Observes (f <$> m) :=
  hm.bind fun _ => pure _

end Observes

/-! ### Transfers -/

theorem controlOut_observes (request : UInt8) (value : UInt16) :
    Observes (controlOut request value) := by
  unfold controlOut
  refine .bind .device fun d => .bind .session fun s => .ask fun a => ?_
  exact ⟨rfl, rfl⟩

theorem controlIn_observes (request : UInt8) (index length : UInt16) :
    Observes (controlIn request index length) := by
  unfold controlIn
  refine .bind .device fun d => .bind .session fun s => .bind (.ask fun a => ?_) fun data => ?_
  · exact ⟨rfl, rfl⟩
  · exact .ite (.fail _) (.pure _)

/-- A write sends nothing but bulk writes, however it is cut into pieces. -/
theorem isPlain_of_sendAll {d : OpenDevice} {chunk timeout : Nat} (data : List UInt8) (sent : Nat) :
    ∀ {events : List Event} {r : Except Error Nat},
      (sendAll d chunk timeout data sent).Course events r → ∀ event ∈ events, event.IsPlain := by
  induction data, sent using sendAll.induct d chunk timeout with
  | case1 sent =>
    intro events r h
    unfold sendAll at h
    obtain ⟨rfl, -⟩ := Program.course_done.mp h
    simp
  | case2 b rest sent piece =>
    rename_i ih
    intro events r h event hmem
    unfold sendAll at h
    obtain ⟨reply, tail, rfl, htail⟩ := Program.course_call.mp h
    rcases List.mem_cons.mp hmem with rfl | hin
    · exact ⟨rfl, rfl⟩
    · rcases reply with e | n
      · obtain ⟨rfl, -⟩ := Program.course_done.mp htail
        exact absurd hin List.not_mem_nil
      · cases n with
        | zero =>
          obtain ⟨rfl, -⟩ := Program.course_done.mp htail
          exact absurd hin List.not_mem_nil
        | succ more => exact ih more htail event hin

theorem bulkWrite_observes (data : List UInt8) : Observes (bulkWrite data) := by
  unfold bulkWrite
  refine .bind .device fun d => ?_
  intro s events r t h
  obtain ⟨first, r₁, second, hsend, hdone, rfl⟩ := Program.course_bind.mp h
  obtain ⟨rfl, hdone⟩ := Program.course_done.mp hdone
  cases hdone
  rw [List.append_nil]
  exact ⟨rfl, isPlain_of_sendAll _ _ hsend⟩

/-! ### Looking devices up -/

theorem findAll_observes (vendor product : UInt16) : Observes (findAll vendor product) := by
  unfold findAll
  exact .bind (.ask fun a => ⟨rfl, rfl⟩) fun devices => .bind (.note _) fun _ => .pure _

theorem getStrings_observes (d : Descriptor) : Observes (getStrings d) :=
  .ask fun _ => ⟨rfl, rfl⟩

theorem fits_observes (f : Filter) (d : Descriptor) : Observes (fits f d) := by
  unfold fits
  exact .ite (.bind (getStrings_observes d) fun _ => .pure _) (.pure _)

theorem pick_observes (f : Filter) :
    ∀ (candidates : List Descriptor) (skip : Nat), Observes (pick f candidates skip)
  | [], skip => .fail _
  | d :: rest, skip => by
    unfold pick
    refine .bind (fits_observes f d) fun fit => .ite ?_ (pick_observes f rest skip)
    cases skip with
    | zero => exact .pure d
    | succ skip => exact pick_observes f rest skip

theorem findDevice_observes (f : Filter) : Observes (findDevice f) := by
  unfold findDevice
  exact .bind (findAll_observes _ _) fun candidates => pick_observes f candidates f.index

/-! ### The serial line and the pins -/

theorem purgeTransmit_observes : Observes purgeTransmit := controlOut_observes _ _

theorem setLatency_observes (ms : UInt8) : Observes (setLatency ms) := by
  unfold setLatency
  exact .ite (.fail _) (controlOut_observes _ _)

theorem latency_observes : Observes latency := by
  unfold latency
  exact .bind .device fun d => .bind (controlIn_observes _ _ _) fun data => .need _

theorem requireDriven_observes : Observes requireDriven := by
  unfold requireDriven
  exact .bind .device fun d => .ite (.fail _) (.pure _)

theorem writePattern_observes (pattern : List UInt8) : Observes (writePattern pattern) := by
  unfold writePattern
  exact .bind requireDriven_observes fun _ => bulkWrite_observes pattern

theorem writeData_observes (value : UInt8) : Observes (writeData value) := by
  unfold writeData
  exact .bind (writePattern_observes _) fun _ => .pure _

theorem readPins_observes : Observes readPins := by
  unfold readPins
  exact .bind requireDriven_observes fun _ => .bind .device fun d =>
    .bind (controlIn_observes _ _ _) fun data => .need _

/-! ### The memory of the chip -/

theorem readWord_observes (address : UInt16) : Observes (readWord address) := by
  unfold readWord
  exact .bind (controlIn_observes _ _ _) fun data => .bind (.need _) fun low =>
    .bind (.need _) fun high => .pure _

theorem readWords_observes : ∀ (count address : Nat), Observes (readWords address count)
  | 0, address => .pure _
  | count + 1, address => by
    unfold readWords
    exact .bind (readWord_observes _) fun word =>
      .bind (readWords_observes count (address + 1)) fun rest => .pure _

theorem stagedPart_observes (size : Nat) : Observes (stagedPart size) := by
  unfold stagedPart
  exact .bind .session fun s => .ite (.fail _) (.pure _)

theorem readEepromWord_observes (address : UInt16) : Observes (readEepromWord address) := by
  unfold readEepromWord
  exact .bind .device fun d => .ite (.fail _) (.bind (readWord_observes _) fun word => .pure _)

theorem readChipId_observes : Observes readChipId := by
  unfold readChipId
  exact .bind .device fun d => .ite
    (.bind (readWord_observes _) fun first => .bind (readWord_observes _) fun second =>
      .bind (.note _) fun _ => .pure _)
    (.fail _)

end Command

end PinBridge
