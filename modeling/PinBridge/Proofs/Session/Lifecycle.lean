import PinBridge.Proofs.Session.Memory
import PinBridge.Proofs.Session.Opening

/-!
# What every turn can do

Opening either takes the session to a fresh device, or leaves it as it was whatever step has failed
(`openDevice_opens`, `openIds_opens`, `openFilter_opens`). Closing never fails on an open device
(`shutDown_course`). With the lemmas on the other calls this shows that `Change` leaves nothing out
(`perform_change`).
-/

namespace PinBridge

open Command

variable {s t : Session} {events : List Event}

/-! ### Opening -/

/-- **A course that opens**: no bulk read has come in, and the operation fails without a change or
takes the session to a device that has just been set up. -/
def Opened {α : Type} (s : Session) (events : List Event) (r : Except Error α) (t : Session) :
    Prop :=
  (∀ event ∈ events, event.data? = none) ∧
    ((∃ e, r = .error e ∧ t = s) ∨
      s.isOpen = false ∧ ∃ a device handle, r = .ok a ∧
        events.findSome? Event.handle? = some handle ∧ t = { s with
          link := .opened { OpenDevice.fresh device handle s.options.interface.channel with
            baudRate := initialRate }
          staged := none })

/-- An operation all of whose courses open. -/
def Opens {α : Type} (m : Command α) : Prop :=
  ∀ ⦃s events r t⦄, m.Course s events r t → Opened s events r t

theorem Opened.of_refused {α : Type} {r : Except Error α} {e : Error}
    (h : events = [] ∧ r = .error e ∧ t = s) : Opened s events r t := by
  obtain ⟨rfl, rfl, rfl⟩ := h
  exact ⟨by simp, .inl ⟨e, rfl, rfl⟩⟩

theorem findSome?_handle_of_plain {first second : List Event}
    (h : ∀ event ∈ first, event.IsPlain) :
    (first ++ second).findSome? Event.handle? = second.findSome? Event.handle? := by
  rw [List.findSome?_append, List.findSome?_eq_none_iff.mpr fun event hm => (h event hm).2]
  rfl

/-- To look for a device first is no obstacle. -/
theorem Opens.observes_bind {α β : Type} {m : Command α} {f : α → Command β} (hm : Observes m)
    (hf : ∀ a, Opens (f a)) : Opens (m >>= f) := by
  intro s events r t h
  rcases course_bind.mp h with ⟨e, h₁, rfl⟩ | ⟨a, first, s₁, second, h₁, h₂, rfl⟩
  · obtain ⟨rfl, hplain⟩ := hm h₁
    exact ⟨fun event hm => (hplain event hm).1, .inl ⟨e, rfl, rfl⟩⟩
  · obtain ⟨rfl, hplain⟩ := hm h₁
    obtain ⟨hdata, hend⟩ := hf a h₂
    refine ⟨fun event hm => ?_, ?_⟩
    · rcases List.mem_append.mp hm with hm | hm
      · exact (hplain event hm).1
      · exact hdata event hm
    · rw [findSome?_handle_of_plain hplain]
      exact hend

/-- Nor is a check that no device is open. -/
theorem Opens.requireNotOpen_bind {α : Type} {m : Command α} (hm : Opens m) :
    Opens (requireNotOpen >>= fun _ => m) := by
  intro s events r t h
  rw [Command.requireNotOpen_bind] at h
  split at h
  · exact .of_refused h
  · exact hm h

theorem openDevice_opens (device : Descriptor) : Opens (openDevice device) := by
  intro s events r t h
  cases openDevice_course.mp h with
  | refused => exact .of_refused ⟨rfl, rfl, rfl⟩
  | unopened | unreset | unset => exact ⟨by simp [Event.data?], .inl ⟨_, rfl, rfl⟩⟩
  | opened closed =>
    exact ⟨by simp [Event.data?], .inr ⟨closed, (), device, _, rfl, rfl, rfl⟩⟩

theorem openIds_opens (vendor product : UInt16) : Opens (openIds vendor product) := by
  unfold openIds
  refine .requireNotOpen_bind (.observes_bind (findAll_observes _ _) fun found => ?_)
  cases found with
  | nil => exact fun s events r t h => .of_refused (course_fail.mp h)
  | cons device rest => exact openDevice_opens device

theorem openFilter_opens (filter : Filter) : Opens (openFilter filter) := by
  unfold openFilter
  exact .requireNotOpen_bind (.observes_bind (findDevice_observes filter) openDevice_opens)

/-- An operation that, where it succeeds, has ended with the opening of a device. -/
def EndsInOpening (m : Command Unit) : Prop :=
  ∀ ⦃s events t⦄, m.Course s events (.ok ()) t →
    ∃ front rest device, events = front ++ rest ∧ Opening device s rest (.ok ()) t

theorem EndsInOpening.observes_bind {α : Type} {m : Command α} {f : α → Command Unit}
    (hm : Observes m) (hf : ∀ a, EndsInOpening (f a)) : EndsInOpening (m >>= f) := by
  intro s events t h
  rcases course_bind.mp h with ⟨e, -, he⟩ | ⟨a, first, s₁, second, h₁, h₂, rfl⟩
  · cases he
  · obtain ⟨rfl, -⟩ := hm h₁
    obtain ⟨front, rest, device, rfl, hopening⟩ := hf a h₂
    exact ⟨first ++ front, rest, device, (List.append_assoc _ _ _).symm, hopening⟩

theorem EndsInOpening.requireNotOpen_bind {m : Command Unit} (hm : EndsInOpening m) :
    EndsInOpening (requireNotOpen >>= fun _ => m) := by
  intro s events t h
  rw [Command.requireNotOpen_bind] at h
  split at h
  · cases h.2.1
  · exact hm h

/-- **A call that has opened a device has ended with that.** -/
theorem perform_endsInOpening {action : Action} (opening : action.isOpening)
    {a : action.Result} (h : action.perform.Course s events (.ok a) t) :
    ∃ front rest device, events = front ++ rest ∧ Opening device s rest (.ok ()) t := by
  have hdevice : ∀ device, EndsInOpening (openDevice device) := fun device s events t h =>
    ⟨[], events, device, rfl, openDevice_course.mp h⟩
  cases action with
  | openIds vendor product =>
    refine EndsInOpening.requireNotOpen_bind
      (.observes_bind (findAll_observes vendor product) fun found => ?_) h
    cases found with
    | nil =>
      intro s events t h
      cases (course_fail.mp h).2.1
    | cons device rest => exact hdevice device
  | openFilter filter =>
    exact EndsInOpening.requireNotOpen_bind
      (.observes_bind (findDevice_observes filter) hdevice) h
  | openDevice device => exact hdevice device h
  | _ => cases opening

/-- While a device is open no other is opened. -/
theorem opening_refused {action : Action} (opening : action.isOpening) (isOpen : s.isOpen)
    {r : Except Error action.Result} (h : action.perform.Course s events r t) :
    events = [] ∧ r = .error .alreadyOpen ∧ t = s := by
  cases action with
  | openIds | openFilter | openDevice =>
    have h := Command.requireNotOpen_bind.mp h
    rwa [if_pos isOpen] at h
  | _ => cases opening

/-- A call of an operation that opens, if it is of that kind. -/
theorem change_of_opens {action : Action} {r : Except Error action.Result}
    (hm : Opens action.perform) (h : action.perform.Course s events r t)
    (opening : action.isOpening)
    (flushes : (Turn.mk action events r).flushes = (Turn.mk action events r).succeeded)
    (stages : (Turn.mk action events r).stages = false) : Change s ⟨action, events, r⟩ t := by
  obtain ⟨hdata, ⟨e, rfl, rfl⟩ | ⟨hclosed, a, device, handle, rfl, found, rfl⟩⟩ := hm h
  · exact .idle (Turn.idle_of_error (List.filterMap_eq_nil_iff.mpr hdata) flushes)
  · exact .opened hclosed (Bool.and_eq_true_iff.mpr ⟨opening, rfl⟩) flushes stages found

/-! ### Closing -/

/-- To close is to let go of the device, if there is one. -/
theorem close_of_opened {d : OpenDevice} (hs : s.link = .opened d) :
    close s = shutDown d s := by
  unfold close
  change Command.bind device _ s = _
  unfold Command.bind device Session.device
  rw [hs]
  rfl

theorem close_of_not_opened (hs : ∀ d, s.link ≠ .opened d) :
    close s = .done (.error .notOpen, s) := by
  unfold close
  change Command.bind device _ s = _
  unfold Command.bind device Session.device
  split
  · next d hs' => exact absurd hs' (hs d)
  · rfl

/-- Letting go of a device never fails: one that does not answer is given back all the same. -/
theorem shutDown_course {d : OpenDevice} {r : Except Error Unit}
    (h : (shutDown d).Course s events r t) :
    r = .ok () ∧ t = { s with link := .closed, staged := none } := by
  unfold shutDown forgetStaged setLink at h
  rw [modify_bind, modify_bind] at h
  simp only [course_ite] at h
  split at h
  · rw [note_bind] at h
    exact (course_giveBack.mp h).2
  · rw [session_bind] at h
    rcases course_bind.mp h with ⟨e, h₁, -⟩ | ⟨_, first, s₁, second, h₁, h₂, rfl⟩
    · rcases course_recover.mp h₁ with ⟨a, -, h⟩ | ⟨e₁, first, s₁, second, -, h₂, -⟩
      · cases h
      · obtain ⟨-, h, -⟩ := course_note.mp h₂
        cases h
    · have hs : s₁ = { s with link := .closed, staged := none } := by
        rcases course_recover.mp h₁ with ⟨a, h₃, -⟩ | ⟨e₁, first, s₂, second, h₃, h₄, -⟩
        · exact (course_ask.mp h₃).2
        · rw [(course_note.mp h₄).2.2]
          exact (course_ask.mp h₃).2
      rw [note_bind, hs] at h₂
      exact (course_giveBack.mp h₂).2

theorem close_change {r : Except Error Unit} (h : close.Course s events r t) :
    Change s ⟨.close, events, r⟩ t := by
  unfold close at h
  rw [device_bind] at h
  split at h
  · next d hs =>
    obtain ⟨rfl, rfl⟩ := shutDown_course h
    exact .closed hs
  · exact change_of_refused h rfl

/-! ### Options -/

/-- A call that sets an option. -/
theorem change_of_modify {action : Action} {options : Options} {r : Except Error action.Result}
    {a : action.Result} (h : events = [] ∧ r = .ok a ∧ t = { s with options })
    (quiet : action.isQuiet) : Change s ⟨action, events, r⟩ t := by
  obtain ⟨rfl, rfl, rfl⟩ := h
  exact .configured rfl (Turn.idle_of_quiet quiet rfl)

theorem setInterface_change {interface : Interface} {r : Except Error Unit}
    (h : (setInterface interface).Course s events r t) :
    Change s ⟨.setInterface interface, events, r⟩ t := by
  unfold setInterface at h
  rw [requireNotOpen_bind] at h
  split at h
  · exact change_of_refused h rfl
  · exact change_of_modify (course_modify.mp h) rfl

theorem setReadChunk_change {size : Nat} {r : Except Error Unit}
    (h : (setReadChunk size).Course s events r t) : Change s ⟨.setReadChunk size, events, r⟩ t := by
  unfold setReadChunk at h
  rw [course_ite] at h
  split at h
  · exact change_of_refused (course_fail.mp h) rfl
  · exact change_of_modify (course_modify.mp h) rfl

theorem setWriteChunk_change {size : Nat} {r : Except Error Unit}
    (h : (setWriteChunk size).Course s events r t) :
    Change s ⟨.setWriteChunk size, events, r⟩ t := by
  unfold setWriteChunk at h
  rw [course_ite] at h
  split at h
  · exact change_of_refused (course_fail.mp h) rfl
  · exact change_of_modify (course_modify.mp h) rfl

/-! ### All calls -/

/-- **Every turn is of one of the kinds** that `Change` lists. -/
theorem perform_change {action : Action} {r : Except Error action.Result}
    (h : action.perform.Course s events r t) : Change s ⟨action, events, r⟩ t := by
  cases action with
  | mode | chip | ids | baudRate | packetSize => exact change_of_observes (.map .device) h rfl
  | setInterface interface => exact setInterface_change h
  | setReadTimeout ms => exact change_of_modify (course_modify.mp h) rfl
  | setWriteTimeout ms => exact change_of_modify (course_modify.mp h) rfl
  | setReadChunk size => exact setReadChunk_change h
  | setWriteChunk size => exact setWriteChunk_change h
  | openIds vendor product => exact change_of_opens (openIds_opens vendor product) h rfl rfl rfl
  | openFilter filter => exact change_of_opens (openFilter_opens filter) h rfl rfl rfl
  | openDevice device => exact change_of_opens (openDevice_opens device) h rfl rfl rfl
  | close => exact close_change h
  | findAll vendor product => exact change_of_observes (findAll_observes vendor product) h rfl
  | getStrings device => exact change_of_observes (getStrings_observes device) h rfl
  | findDevice filter => exact change_of_observes (findDevice_observes filter) h rfl
  | reset => exact reset_change h
  | purgeReceive => exact purgeReceive_change h
  | purgeTransmit => exact change_of_observes purgeTransmit_observes h rfl
  | purge => exact purge_change h
  | setBaudRate rate => exact change_of_tunes (setBaudRate_tunes rate) h rfl
  | setLatency ms => exact change_of_observes (setLatency_observes ms) h rfl
  | latency => exact change_of_observes latency_observes h rfl
  | readData length => exact readData_change h
  | setBitMode mask mode => exact change_of_tunes (setBitMode_tunes mask mode) h rfl
  | setBitModeByte mask value => exact change_of_tunes (setBitModeByte_tunes mask value) h rfl
  | disableBitMode => exact change_of_tunes (setBitMode_tunes 0 .reset) h rfl
  | writeData value => exact change_of_observes (writeData_observes value) h rfl
  | writePattern pattern => exact change_of_observes (writePattern_observes pattern) h rfl
  | readPins => exact change_of_observes readPins_observes h rfl
  | readEeprom => exact readEeprom_change h
  | stagedPart size => exact change_of_observes (stagedPart_observes size) h rfl
  | readEepromWord address => exact change_of_observes (readEepromWord_observes address) h rfl
  | readChipId => exact change_of_observes readChipId_observes h rfl

end PinBridge
