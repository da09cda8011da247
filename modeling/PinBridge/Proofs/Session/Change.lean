import PinBridge.Proofs.Session.Turn

/-!
# What a turn can do

Each call on a session changes it in one of the ways that `Change` lists, whatever the bus replies
(`perform_change`). The calls that observe leave it alone; for each of the others a lemma tells from
its courses what has become of the session.
-/

namespace PinBridge

open Command

variable {s t : Session} {events : List Event}

/-! ### Idle turns -/

/-- Nothing comes in by plain events. -/
theorem Turn.received_eq_nil {turn : Turn} (h : ∀ event ∈ turn.events, event.IsPlain) :
    turn.received = [] :=
  List.filterMap_eq_nil_iff.mpr fun event hm => (h event hm).1

/-- A turn that has failed is idle, but for a purge whose first half has succeeded. -/
theorem Turn.idle_of_error {action : Action} {e : Error}
    (received : (Turn.mk action events (.error e)).received = [])
    (flushes : (Turn.mk action events (.error e)).flushes = false) :
    (Turn.mk action events (.error e)).Idle where
  opens := Bool.and_false _
  closes := by cases action <;> rfl
  stages := by cases action <;> rfl
  flushes := flushes
  returned := by cases action <;> rfl
  received := received

/-- Whether nothing but idle turns can come of a call, but for what bulk reads may bring in. -/
def Action.isQuiet : Action → Bool
  | openIds .. | openFilter .. | openDevice .. | close | reset | purgeReceive | purge | readData _
  | readEeprom => false
  | _ => true

theorem Turn.idle_of_quiet {action : Action} {r : Except Error action.Result}
    (quiet : action.isQuiet) (received : (Turn.mk action events r).received = []) :
    (Turn.mk action events r).Idle := by
  cases action with
  | openIds | openFilter | openDevice | close | reset | purgeReceive | purge | readData
  | readEeprom => cases quiet
  | _ => exact ⟨rfl, rfl, rfl, rfl, rfl, received⟩

/-- A call of an operation that observes changes nothing. -/
theorem change_of_observes {action : Action} {r : Except Error action.Result}
    (hm : Observes action.perform) (h : action.perform.Course s events r t)
    (quiet : action.isQuiet) : Change s ⟨action, events, r⟩ t := by
  obtain ⟨rfl, hplain⟩ := hm h
  exact .idle (Turn.idle_of_quiet quiet (Turn.received_eq_nil hplain))

/-- A call that fails at once changes nothing. -/
theorem change_of_refused {action : Action} {e : Error} {r : Except Error action.Result}
    (h : events = [] ∧ r = .error e ∧ t = s)
    (flushes : (Turn.mk action [] (.error e)).flushes = false) :
    Change s ⟨action, events, r⟩ t := by
  obtain ⟨rfl, rfl, rfl⟩ := h
  exact .idle (Turn.idle_of_error rfl flushes)

/-- A call that fails with a call on the bus changes nothing. -/
theorem change_of_failed {action : Action} {c : Call} {e : Error} {r : Except Error action.Result}
    (h : events = [.asked c (.error e)] ∧ r = .error e ∧ t = s)
    (flushes : (Turn.mk action [.asked c (.error e)] (.error e)).flushes = false) :
    Change s ⟨action, events, r⟩ t := by
  obtain ⟨rfl, rfl, rfl⟩ := h
  refine .idle (Turn.idle_of_error (Turn.received_eq_nil fun event hm => ?_) flushes)
  rw [List.mem_singleton.mp hm]
  exact Event.isPlain_error c e

/-- **A course that tunes**: all events are plain, and the operation fails without a change or
changes the mode and the rate of the open device. -/
def Tuned {α : Type} (s : Session) (events : List Event) (r : Except Error α) (t : Session) :
    Prop :=
  (∀ event ∈ events, event.IsPlain) ∧
    ((∃ e, r = .error e ∧ t = s) ∨ ∃ a d mode baudRate, r = .ok a ∧ s.link = .opened d ∧
      t = { s with link := .opened { d with mode, baudRate } })

/-- An operation all of whose courses tune. -/
def Tunes {α : Type} (m : Command α) : Prop :=
  ∀ ⦃s events r t⦄, m.Course s events r t → Tuned s events r t

theorem Tuned.of_refused {α : Type} {r : Except Error α} {e : Error}
    (h : events = [] ∧ r = .error e ∧ t = s) : Tuned s events r t := by
  obtain ⟨rfl, rfl, rfl⟩ := h
  exact ⟨by simp, .inl ⟨e, rfl, rfl⟩⟩

/-- A call of an operation that tunes. -/
theorem change_of_tunes {action : Action} {r : Except Error action.Result}
    (hm : Tunes action.perform) (h : action.perform.Course s events r t)
    (quiet : action.isQuiet) : Change s ⟨action, events, r⟩ t := by
  obtain ⟨hplain, hend⟩ := hm h
  have hidle := Turn.idle_of_quiet (r := r) quiet (Turn.received_eq_nil hplain)
  rcases hend with ⟨e, rfl, rfl⟩ | ⟨a, d, mode, baudRate, rfl, hs, rfl⟩
  · exact .idle hidle
  · exact .tuned hs rfl hidle

/-! ### Requests to the chip -/

/-- **How a request ends**: it fails and nothing has changed, or it is granted and the open device
is updated. -/
def Requested (s : Session) (d updated : OpenDevice) (request : UInt8) (value index : UInt16)
    (events : List Event) (r : Except Error Unit) (t : Session) : Prop :=
  (∃ e, events = [.asked (.controlOut d.handle request value index s.options.writeTimeout)
      (.error e)] ∧ r = .error e ∧ t = s) ∨
    (∃ a, events = [.asked (.controlOut d.handle request value index s.options.writeTimeout)
      (.ok a)] ∧ r = .ok () ∧ t = { s with link := .opened updated })

theorem controlOut_update_course {request : UInt8} {value : UInt16} {f : OpenDevice → OpenDevice}
    {r : Except Error Unit} :
    (controlOut request value >>= fun _ => update f).Course s events r t ↔
      match s.link with
      | .opened d => Requested s d (f d) request value d.channel.index events r t
      | _ => events = [] ∧ r = .error .notOpen ∧ t = s := by
  unfold controlOut
  rw [Command.bind_assoc, device_bind]
  cases hs : s.link with
  | opened d => exact ask_change fun a rest r t => by simp [hs]
  | unopened => rfl
  | closed => rfl

theorem setBitMode_course {mask : UInt8} {mode : BitMode} {r : Except Error Unit} :
    (setBitMode mask mode).Course s events r t ↔
      match s.link with
      | .opened d =>
        if d.chip.supports mode then
          Requested s d { d with mode := .ofBitMode mode } Request.setBitMode
            (mask.toUInt16 ||| mode.wire.toUInt16 <<< 8) d.channel.index events r t
        else events = [] ∧ r = .error (.invalidMode mode d.chip) ∧ t = s
      | _ => events = [] ∧ r = .error .notOpen ∧ t = s := by
  unfold setBitMode controlOut
  rw [device_bind]
  cases hs : s.link with
  | opened d =>
    simp only [course_ite, Command.bind_assoc, device_bind, hs, session_bind, course_fail]
    split
    · exact ask_change fun a rest r t => by simp [hs]
    · rfl
  | unopened => rfl
  | closed => rfl

theorem setBaudRate_course {rate : UInt32} {r : Except Error Unit} :
    (setBaudRate rate).Course s events r t ↔
      match s.link with
      | .opened d =>
        match Baud.Setting.ofRate? d.chip d.channel.index (effectiveRate d.mode rate) with
        | none => events = [] ∧ r = .error (.invalidArgument "baud rate must be > 0") ∧ t = s
        | some setting =>
          if Baud.withinTolerance (effectiveRate d.mode rate) setting.actual then
            Requested s d { d with baudRate := rate } Request.setBaudRate setting.value
              setting.index events r t
          else events = [] ∧ r = .error (.unsupportedBaudRate rate.toNat setting.actual) ∧ t = s
      | _ => events = [] ∧ r = .error .notOpen ∧ t = s := by
  unfold setBaudRate
  rw [device_bind]
  cases hs : s.link with
  | opened d =>
    simp only
    cases Baud.Setting.ofRate? d.chip d.channel.index (effectiveRate d.mode rate) with
    | none => exact course_fail
    | some setting =>
      simp only [course_ite, session_bind, course_fail]
      split
      · exact ask_change fun a rest r t => by simp [hs]
      · rfl
  | unopened => rfl
  | closed => rfl

/-- A request that changes the mode or the rate. -/
theorem Requested.tuned {d : OpenDevice} {request : UInt8} {value index : UInt16}
    {mode : PinMode} {baudRate : UInt32} {r : Except Error Unit} (hs : s.link = .opened d)
    (h : Requested s d { d with mode, baudRate } request value index events r t) :
    Tuned s events r t := by
  rcases h with ⟨e, rfl, rfl, rfl⟩ | ⟨a, rfl, rfl, rfl⟩
  · refine ⟨fun event hm => ?_, .inl ⟨e, rfl, rfl⟩⟩
    rw [List.mem_singleton.mp hm]
    exact Event.isPlain_error _ e
  · refine ⟨fun event hm => ?_, .inr ⟨a, d, mode, baudRate, rfl, hs, rfl⟩⟩
    rw [List.mem_singleton.mp hm]
    exact ⟨rfl, rfl⟩

theorem setBitMode_tunes (mask : UInt8) (mode : BitMode) : Tunes (setBitMode mask mode) := by
  intro s events r t h
  have hc := setBitMode_course.mp h
  split at hc
  · next d hs =>
    split at hc
    · exact Requested.tuned hs hc
    · exact .of_refused hc
  · exact .of_refused hc

theorem setBitModeByte_tunes (mask value : UInt8) : Tunes (setBitModeByte mask value) := by
  intro s events r t h
  unfold setBitModeByte BitMode.ofWire at h
  rw [device_bind] at h
  split at h
  · split at h
    · exact setBitMode_tunes _ _ h
    · exact .of_refused (course_fail.mp h)
  · exact .of_refused h

theorem setBaudRate_tunes (rate : UInt32) : Tunes (setBaudRate rate) := by
  intro s events r t h
  have hc := setBaudRate_course.mp h
  split at hc
  · next d hs =>
    split at hc
    · exact .of_refused hc
    · split at hc
      · exact Requested.tuned hs hc
      · exact .of_refused hc
  · exact .of_refused hc

/-- **How emptying a buffer goes**: it fails and nothing has changed, or what is at hand is
forgotten. -/
theorem forget_outcome {value : UInt16} {r : Except Error Unit}
    (h : (controlOut Request.reset value >>= fun _ => forgetPending).Course s events r t) :
    (∃ e, r = .error e ∧ t = s ∧ (∀ event ∈ events, event.IsPlain) ∧
        events.any Event.emptiesReceive = false) ∨
      ∃ d, s.link = .opened d ∧ r = .ok () ∧
        events = [.asked (.controlOut d.handle Request.reset value d.channel.index
          s.options.writeTimeout) (.ok ())] ∧
        t = { s with link := .opened { d with pending := [] } } := by
  have hc := controlOut_update_course.mp h
  split at hc
  · next d hs =>
    rcases hc with ⟨e, rfl, rfl, rfl⟩ | ⟨a, rfl, rfl, rfl⟩
    · refine .inl ⟨e, rfl, rfl, fun event hm => ?_, rfl⟩
      rw [List.mem_singleton.mp hm]
      exact Event.isPlain_error _ e
    · exact .inr ⟨d, hs, rfl, rfl, rfl⟩
  · obtain ⟨rfl, rfl, rfl⟩ := hc
    exact .inl ⟨.notOpen, rfl, rfl, by simp, rfl⟩

theorem reset_change {r : Except Error Unit} (h : reset.Course s events r t) :
    Change s ⟨.reset, events, r⟩ t := by
  rcases forget_outcome h with ⟨e, rfl, rfl, hplain, -⟩ | ⟨d, hs, rfl, rfl, rfl⟩
  · exact .idle (Turn.idle_of_error (Turn.received_eq_nil hplain) rfl)
  · exact .flushed hs rfl rfl rfl rfl rfl

theorem purgeReceive_change {r : Except Error Unit} (h : purgeReceive.Course s events r t) :
    Change s ⟨.purgeReceive, events, r⟩ t := by
  rcases forget_outcome h with ⟨e, rfl, rfl, hplain, -⟩ | ⟨d, hs, rfl, rfl, rfl⟩
  · exact .idle (Turn.idle_of_error (Turn.received_eq_nil hplain) rfl)
  · exact .flushed hs rfl rfl rfl rfl rfl

theorem purge_change {r : Except Error Unit} (h : purge.Course s events r t) :
    Change s ⟨.purge, events, r⟩ t := by
  unfold purge purgeTransmit controlOut at h
  rcases course_bind.mp h with ⟨e, h₁, rfl⟩ | ⟨_, first, s₁, second, h₁, h₂, rfl⟩
  · rcases forget_outcome h₁ with ⟨_, -, rfl, hplain, hempties⟩ | ⟨d, -, he, -⟩
    · exact .idle (Turn.idle_of_error (Turn.received_eq_nil hplain) hempties)
    · cases he
  · rcases forget_outcome h₁ with ⟨_, he, -⟩ | ⟨d, hs, -, rfl, rfl⟩
    · cases he
    · -- The receive buffer is empty, whatever comes of the transmit buffer.
      simp only [device_bind, session_bind, course_ask] at h₂
      obtain ⟨rfl, rfl⟩ := h₂
      cases r with
      | ok a => exact .flushed hs rfl rfl rfl rfl rfl
      | error e => exact .halfPurged hs

/-! ### Receiving -/

/-- **The courses of a read** from the open device. -/
theorem readData_course {length : Nat} (hpos : 0 < length) {r : Except Error (List UInt8)} :
    (readData length).Course s events r t ↔
      match s.link with
      | .opened d =>
        if d.pending = [] then
          ∃ asked, wholePackets? s.options.readChunk (max d.packetSize 1) = some asked ∧
            ((∃ e, events = [.asked (.bulkRead d.handle d.channel.inEndpoint asked
                s.options.readTimeout) (.error e)] ∧ r = .error e ∧ t = s) ∨
              ∃ reply, events = [.asked (.bulkRead d.handle d.channel.inEndpoint asked
                s.options.readTimeout) (.ok reply)] ∧
                r = .ok ((Packet.payload d.packetSize reply).take length) ∧
                t = { s with link := .opened { d with
                  pending := (Packet.payload d.packetSize reply).drop length } })
        else events = [] ∧ r = .ok (d.pending.take length) ∧
          t = { s with link := .opened { d with pending := d.pending.drop length } }
      | _ => events = [] ∧ r = .error .notOpen ∧ t = s := by
  unfold readData refill
  rw [if_neg (by omega)]
  cases hs : s.link with
  | opened d =>
    simp only [Command.bind_assoc, ite_bind, course_ite, device_bind, hs, session_bind, need_bind,
      List.isEmpty_iff]
    split
    · refine exists_congr fun asked => and_congr_right fun _ => ?_
      exact ask_change fun a rest r t => by simp [hs, Packet.take_strip]
    · simp [hs]
  | unopened => simp [Command.bind_assoc, hs]
  | closed => simp [Command.bind_assoc, hs]

theorem readData_change {length : Nat} {r : Except Error (List UInt8)}
    (h : (readData length).Course s events r t) : Change s ⟨.readData length, events, r⟩ t := by
  rcases Nat.eq_zero_or_pos length with rfl | hpos
  · obtain ⟨rfl, rfl, rfl⟩ := course_pure.mp h
    exact .idle ⟨rfl, rfl, rfl, rfl, rfl, rfl⟩
  · have hc := (readData_course hpos).mp h
    split at hc
    · next d hs =>
      split at hc
      · next hempty =>
        obtain ⟨asked, -, ⟨e, hc⟩ | ⟨reply, rfl, rfl, rfl⟩⟩ := hc
        · exact change_of_failed hc rfl
        · exact .refilled hs hempty hpos
      · obtain ⟨rfl, rfl, rfl⟩ := hc
        exact .taken hs
    · exact change_of_refused hc rfl

end PinBridge
