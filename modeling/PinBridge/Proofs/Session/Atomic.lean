import PinBridge.Proofs.Session.Lifecycle

/-!
# Calls that fail

A call that fails leaves the session as it was, at whichever of its steps it has failed and whatever
the bus has replied (`perform_atomic`). One call is the exception: a purge of both buffers forgets
the received bytes once the receive buffer has been emptied, also where it then cannot empty the
transmit buffer.
-/

namespace PinBridge

variable {s t : Session}

/-- A purge that has emptied the receive buffer, and has failed to empty the transmit buffer. -/
structure HalfPurge (s : Session) (action : Action) (events : List Event) (e : Error)
    (t : Session) : Prop where
  purge : action = .purge
  change : ∃ d, s.link = .opened d ∧
    events =
      [.asked (.controlOut d.handle Request.reset Request.receiveBuffer d.channel.index
          s.options.writeTimeout) (.ok ()),
        .asked (.controlOut d.handle Request.reset Request.transmitBuffer d.channel.index
          s.options.writeTimeout) (.error e)] ∧
    t = { s with link := .opened { d with pending := [] } }

theorem Change.of_error {action : Action} {events : List Event} {e : Error}
    (h : Change s ⟨action, events, .error e⟩ t) : t = s ∨ HalfPurge s action events e t := by
  cases h with
  | idle => exact .inl rfl
  | halfPurged hs => exact .inr ⟨rfl, _, hs, rfl, rfl⟩
  | configured succeeded => cases succeeded
  | tuned _ succeeded => cases succeeded
  | flushed _ succeeded => cases succeeded
  | opened _ opens =>
    unfold Turn.opens at opens
    rw [show (Turn.mk action events (.error e)).succeeded = false from rfl, Bool.and_false] at opens
    cases opens

/-- **A call that fails changes nothing.** Whatever the session, the call and the replies of the
bus: if the call ends in an error then the session afterwards is the one before, its link to the
device with all that is known of it, its options and its staged image. The one exception is a purge
that has failed half way. -/
theorem perform_atomic {action : Action} {events : List Event} {e : Error}
    (h : action.perform.Course s events (.error e) t) :
    t = s ∨ HalfPurge s action events e t :=
  Change.of_error (perform_change h)

/-- A device that does not answer for its rate leaves a closed session closed. -/
theorem perform_atomic_unanswered : ∃ t,
    (Action.openDevice Sample.descriptor).perform.Course ⟨.default, .closed, none⟩
      (Sample.opening (.error .timeout) ++ [.released Sample.handle]) (.error .timeout) t ∧
    (t = ⟨.default, .closed, none⟩ ∨
      HalfPurge ⟨.default, .closed, none⟩ (.openDevice Sample.descriptor)
        (Sample.opening (.error .timeout) ++ [.released Sample.handle]) .timeout t) := by
  have h := openDevice_course.mpr Sample.opens_not
  exact ⟨_, h, perform_atomic h⟩

end PinBridge
