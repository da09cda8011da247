import PinBridge.Proofs.Course
import PinBridge.Session.Lifecycle

/-!
# Courses of an operation

An operation of a session ends in a result and a session, so one of its courses has a session
before, the events, the result, and a session after. The lemmas below play an operation step by
step: for each step that operations are made of there is a `…_bind` for the step with what follows
it, and a `course_…` for the step at the end. `course_bind` cuts an operation in two where the first
part is not one such step.
-/

namespace PinBridge

theorem Session.isOpen_iff {s : Session} : s.isOpen ↔ ∃ d, s.link = .opened d := by
  unfold Session.isOpen Session.status
  cases s.link <;> simp

namespace Command

variable {α β γ : Type}

/-- **A course of an operation**: from one session by some events to a result and another. -/
def Course (m : Command α) (s : Session) (events : List Event) (r : Except Error α) (t : Session) :
    Prop := (m s).Course events (r, t)

variable {s t : Session} {events : List Event} {r : Except Error α}

/-! ### Operations in a row -/

theorem bind_assoc (m : Command α) (f : α → Command β) (g : β → Command γ) :
    m >>= f >>= g = m >>= fun a => f a >>= g := by
  funext s
  change ((m s).bind _).bind _ = (m s).bind _
  rw [Program.bind_assoc]
  congr 1
  funext ⟨r, s₁⟩
  cases r <;> rfl

/-- **An operation and what follows it**: either the first part fails, or the second part goes on
from where it has ended. -/
theorem course_bind {m : Command α} {f : α → Command β} {r : Except Error β} :
    (m >>= f).Course s events r t ↔
      (∃ e, m.Course s events (.error e) t ∧ r = .error e) ∨
        ∃ a first s₁ second, m.Course s first (.ok a) s₁ ∧ (f a).Course s₁ second r t ∧
          events = first ++ second := by
  change ((m s).bind _).Course events (r, t) ↔ _
  rw [Program.course_bind]
  constructor
  · rintro ⟨first, ⟨r₁, s₁⟩, second, hm, hf, rfl⟩
    cases r₁ with
    | ok a => exact .inr ⟨a, first, s₁, second, hm, hf, rfl⟩
    | error e =>
      obtain ⟨rfl, h⟩ := Program.course_done.mp hf
      cases h
      rw [List.append_nil]
      exact .inl ⟨e, hm, rfl⟩
  · rintro (⟨e, hm, rfl⟩ | ⟨a, first, s₁, second, hm, hf, rfl⟩)
    · exact ⟨events, _, [], hm, .done _, (List.append_nil _).symm⟩
    · exact ⟨first, _, second, hm, hf, rfl⟩

/-- **An operation with a way out**: it succeeds, or the way out goes on from where it has failed.
-/
theorem course_recover {m : Command α} {f : Error → Command α} :
    (recover m f).Course s events r t ↔
      (∃ a, m.Course s events (.ok a) t ∧ r = .ok a) ∨
        ∃ e first s₁ second, m.Course s first (.error e) s₁ ∧ (f e).Course s₁ second r t ∧
          events = first ++ second := by
  change ((m s).bind _).Course events (r, t) ↔ _
  rw [Program.course_bind]
  constructor
  · rintro ⟨first, ⟨r₁, s₁⟩, second, hm, hf, rfl⟩
    cases r₁ with
    | error e => exact .inr ⟨e, first, s₁, second, hm, hf, rfl⟩
    | ok a =>
      obtain ⟨rfl, h⟩ := Program.course_done.mp hf
      cases h
      rw [List.append_nil]
      exact .inl ⟨a, hm, rfl⟩
  · rintro (⟨a, hm, rfl⟩ | ⟨e, first, s₁, second, hm, hf, rfl⟩)
    · exact ⟨events, _, [], hm, .done _, (List.append_nil _).symm⟩
    · exact ⟨first, _, second, hm, hf, rfl⟩

@[simp]
theorem course_ite {c : Prop} [Decidable c] {m n : Command α} :
    (if c then m else n).Course s events r t ↔
      if c then m.Course s events r t else n.Course s events r t := by
  split <;> exact Iff.rfl

@[simp]
theorem ite_bind {c : Prop} [Decidable c] {m n : Command α} {f : α → Command β} :
    (if c then m else n) >>= f = if c then m >>= f else n >>= f := by
  split <;> rfl

/-! ### Steps that stay within the session -/

@[simp]
theorem course_pure {a : α} :
    (pure a : Command α).Course s events r t ↔ events = [] ∧ r = .ok a ∧ t = s := by
  simp [Course, pure]

@[simp]
theorem pure_bind {a : α} {f : α → Command β} : pure a >>= f = f a := rfl

@[simp]
theorem course_ofExcept {r₀ : Except Error α} :
    (ofExcept r₀).Course s events r t ↔ events = [] ∧ r = r₀ ∧ t = s := by
  simp [Course, ofExcept]

@[simp]
theorem course_fail {e : Error} :
    (fail e : Command α).Course s events r t ↔ events = [] ∧ r = .error e ∧ t = s :=
  course_ofExcept

@[simp]
theorem fail_bind {e : Error} {f : α → Command β} : fail e >>= f = fail e := rfl

@[simp]
theorem session_bind {f : Session → Command α} :
    (session >>= f).Course s events r t ↔ (f s).Course s events r t := Iff.rfl

@[simp]
theorem course_modify {f : Session → Session} {r : Except Error Unit} :
    (modify f).Course s events r t ↔ events = [] ∧ r = .ok () ∧ t = f s := by
  simp [Course, modify]

@[simp]
theorem modify_bind {g : Session → Session} {f : Unit → Command α} :
    (modify g >>= f).Course s events r t ↔ (f ()).Course (g s) events r t := Iff.rfl

@[simp]
theorem course_note {n : Note} {r : Except Error Unit} :
    (note n).Course s events r t ↔ events = [] ∧ r = .ok () ∧ t = s := by
  simp [Course, note]

@[simp]
theorem note_bind {n : Note} {f : Unit → Command α} :
    (note n >>= f).Course s events r t ↔ (f ()).Course s events r t := Program.course_note

@[simp]
theorem course_need {o : Option α} :
    (need o).Course s events r t ↔ ∃ a, o = some a ∧ events = [] ∧ r = .ok a ∧ t = s := by
  cases o <;> simp [Course, need]

@[simp]
theorem need_bind {o : Option α} {f : α → Command β} {r : Except Error β} :
    (need o >>= f).Course s events r t ↔ ∃ a, o = some a ∧ (f a).Course s events r t := by
  cases o with
  | none =>
    constructor
    · intro h
      exact absurd h Program.course_crash
    · rintro ⟨a, h, -⟩
      cases h
  | some a =>
    constructor
    · intro h
      exact ⟨a, rfl, h⟩
    · rintro ⟨_, h, hf⟩
      cases h
      exact hf

/-! ### Steps that need an open device, or none -/

@[simp]
theorem course_device {r : Except Error OpenDevice} :
    device.Course s events r t ↔ events = [] ∧ r = s.device ∧ t = s := by
  simp [Course, device]

/-- What needs the open device goes on with it, or fails where there is none. -/
@[simp]
theorem device_bind {f : OpenDevice → Command α} :
    (device >>= f).Course s events r t ↔
      match s.link with
      | .opened d => (f d).Course s events r t
      | _ => events = [] ∧ r = .error .notOpen ∧ t = s := by
  change (Command.bind device f s).Course events (r, t) ↔ _
  unfold Command.bind device Session.device
  cases s.link with
  | opened d => exact Iff.rfl
  | unopened => simp [Program.bind]
  | closed => simp [Program.bind]

@[simp]
theorem course_update {f : OpenDevice → OpenDevice} {r : Except Error Unit} :
    (update f).Course s events r t ↔
      match s.link with
      | .opened d => events = [] ∧ r = .ok () ∧ t = { s with link := .opened (f d) }
      | _ => events = [] ∧ r = .error .notOpen ∧ t = s := by
  unfold update
  rw [device_bind]
  cases s.link <;> simp

@[simp]
theorem update_bind {g : OpenDevice → OpenDevice} {f : Unit → Command α} :
    (update g >>= f).Course s events r t ↔
      match s.link with
      | .opened d => (f ()).Course { s with link := .opened (g d) } events r t
      | _ => events = [] ∧ r = .error .notOpen ∧ t = s := by
  unfold update
  rw [bind_assoc, device_bind]
  cases s.link <;> simp

/-- What needs a session that is not open goes on in one, or fails where a device is open. -/
theorem requireNotOpen_then {f : Unit → Command β} (s : Session) :
    (requireNotOpen >>= f) s =
      if s.isOpen then .done (.error .alreadyOpen, s) else f () s := by
  unfold requireNotOpen
  change ((if s.isOpen then fail .alreadyOpen else pure () : Command Unit) s).bind _ = _
  split
  · rfl
  · rfl

@[simp]
theorem requireNotOpen_bind {f : Unit → Command α} :
    (requireNotOpen >>= f).Course s events r t ↔
      if s.isOpen then events = [] ∧ r = .error .alreadyOpen ∧ t = s
      else (f ()).Course s events r t := by
  unfold requireNotOpen
  rw [bind_assoc, session_bind, ite_bind, course_ite]
  simp

/-! ### Steps that reach the bus -/

/-- A call that is the last step: any reply may come. -/
@[simp]
theorem course_ask {c : Call} {r : Except Error c.Answer} :
    @Course (no_index c.Answer) (ask c) s events r t ↔ events = [.asked c r] ∧ t = s := by
  unfold Course ask
  rw [Program.course_call]
  constructor
  · rintro ⟨reply, rest, rfl, h⟩
    obtain ⟨rfl, h⟩ := Program.course_done.mp h
    cases h
    exact ⟨rfl, rfl⟩
  · rintro ⟨rfl, rfl⟩
    exact ⟨r, [], rfl, .done _⟩

/-- A call and what follows it: the call fails with any error, or yields any answer. -/
@[simp]
theorem ask_bind {c : Call} {f : c.Answer → Command α} :
    Course (@bind Command _ (no_index c.Answer) α (ask c) f) s events r t ↔
      (∃ e, events = [.asked c (.error e)] ∧ r = .error e ∧ t = s) ∨
        ∃ a rest, (f a).Course s rest r t ∧ events = .asked c (.ok a) :: rest := by
  rw [course_bind]
  simp only [course_ask]
  constructor
  · rintro (⟨e, ⟨rfl, rfl⟩, rfl⟩ | ⟨a, first, s₁, second, ⟨rfl, rfl⟩, hf, rfl⟩)
    · exact .inl ⟨e, rfl, rfl, rfl⟩
    · exact .inr ⟨a, second, hf, rfl⟩
  · rintro (⟨e, rfl, rfl, rfl⟩ | ⟨a, rest, hf, rfl⟩)
    · exact .inl ⟨e, ⟨rfl, rfl⟩, rfl⟩
    · exact .inr ⟨a, _, s, rest, ⟨rfl, rfl⟩, hf, rfl⟩

/-- A call that is followed by nothing but a change of the session. -/
theorem ask_change {c : Call} {f : c.Answer → Command α} {result : c.Answer → α}
    {after : c.Answer → Session} (hf : ∀ a rest r t,
      (f a).Course s rest r t ↔ rest = [] ∧ r = .ok (result a) ∧ t = after a) :
    Course (@bind Command _ (no_index c.Answer) α (ask c) f) s events r t ↔
      (∃ e, events = [.asked c (.error e)] ∧ r = .error e ∧ t = s) ∨
        ∃ a, events = [.asked c (.ok a)] ∧ r = .ok (result a) ∧ t = after a := by
  rw [ask_bind]
  simp only [hf]
  constructor
  · rintro (h | ⟨a, rest, ⟨rfl, rfl, rfl⟩, rfl⟩)
    · exact .inl h
    · exact .inr ⟨a, rfl, rfl, rfl⟩
  · rintro (h | ⟨a, rfl, rfl, rfl⟩)
    · exact .inl h
    · exact .inr ⟨a, [], ⟨rfl, rfl, rfl⟩, rfl⟩

@[simp]
theorem course_giveBack {handle : Handle} {r : Except Error Unit} :
    (giveBack handle).Course s events r t ↔ events = [.released handle] ∧ r = .ok () ∧ t = s := by
  unfold Course giveBack
  rw [Program.course_release]
  constructor
  · rintro ⟨rest, rfl, h⟩
    obtain ⟨rfl, h⟩ := Program.course_done.mp h
    cases h
    exact ⟨rfl, rfl, rfl⟩
  · rintro ⟨rfl, rfl, rfl⟩
    exact ⟨[], rfl, .done _⟩

@[simp]
theorem giveBack_bind {handle : Handle} {f : Unit → Command α} :
    (giveBack handle >>= f).Course s events r t ↔
      ∃ rest, events = .released handle :: rest ∧ (f ()).Course s rest r t :=
  Program.course_release

end Command

end PinBridge
