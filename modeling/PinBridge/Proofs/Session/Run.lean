import Mathlib.Data.List.DropRight
import PinBridge.Proofs.Session.Lifecycle

/-!
# Runs of a session

A `Run` is a session from its start on with the turns it has taken, the first one first. What holds
at the start and is kept by every `Change` holds after every run (`Run.invariant`). On any bus, a
session takes runs only (`Run.on_bus`).

Two views of the turns taken serve to say what still counts: `since` drops all turns up to the last
one of a kind, and `last?` is that one.
-/

namespace PinBridge

/-- **A run**: the turns that a session has taken since it was made, and what it is now. -/
inductive Run : List Turn → Session → Prop
  | new {options : Options} {s : Session} (made : Session.new options = .ok s) : Run [] s
  | turn {history : List Turn} {s t : Session} {action : Action} {events : List Event}
      {result : Except Error action.Result} (run : Run history s)
      (course : action.perform.Course s events result t) :
      Run (history ++ [⟨action, events, result⟩]) t

/-- The turns after the last one of a kind, or all turns where there is none. -/
def since (kind : Turn → Bool) (history : List Turn) : List Turn :=
  history.rtakeWhile fun turn => !kind turn

/-- The last turn of a kind. -/
def last? (kind : Turn → Bool) (history : List Turn) : Option Turn := (history.filter kind).getLast?

variable {kind : Turn → Bool} {history : List Turn} {turn : Turn} {s t : Session}

theorem since_snoc :
    since kind (history ++ [turn]) = if kind turn then [] else since kind history ++ [turn] := by
  unfold since
  rw [List.rtakeWhile_concat]
  cases kind turn <;> rfl

theorem last?_snoc :
    last? kind (history ++ [turn]) = if kind turn then some turn else last? kind history := by
  unfold last?
  rw [List.filter_append, List.filter_singleton]
  cases kind turn
  · simp
  · simp

theorem Session.eq_of_new {options : Options} (made : Session.new options = .ok s) :
    s = ⟨options, .unopened, none⟩ := by
  unfold Session.new at made
  split at made
  · cases made
  · cases made
    rfl

/-- A session that has just been made is not open, and has nothing staged. -/
theorem Session.new_ok {options : Options} (made : Session.new options = .ok s) :
    s.link = .unopened ∧ s.staged = none := by
  rw [Session.eq_of_new made]
  exact ⟨rfl, rfl⟩

namespace Run

/-- **What every change keeps holds after every run.** -/
theorem invariant {P : List Turn → Session → Prop}
    (new : ∀ {options s}, Session.new options = .ok s → P [] s)
    (step : ∀ {history s turn t}, P history s → Change s turn t → P (history ++ [turn]) t)
    (run : Run history s) : P history s := by
  induction run with
  | new made => exact new made
  | turn _ course ih => exact step ih (perform_change course)

/-- **A session on a bus takes runs only**: a call that a bus has carried out is one more turn. -/
theorem on_bus {σ : Type} {bus : Bus σ} {world after : σ} {action : Action}
    {result : Except Error action.Result} (run : Run history s)
    (h : (action.perform s).run bus world = (some (result, t), after)) :
    ∃ events, Run (history ++ [⟨action, events, result⟩]) t := by
  obtain ⟨events, course⟩ := Program.exists_course_of_run h
  exact ⟨events, run.turn course⟩

end Run

/-- The run that opens a device. -/
theorem Sample.run_opened :
    Run [⟨.openDevice Sample.descriptor, Sample.opening (.ok ()), .ok ()⟩]
      ⟨.default, .opened Sample.device, none⟩ := by
  have made : Session.new .default = .ok ⟨.default, .unopened, none⟩ := rfl
  exact (Run.new made).turn (openDevice_course.mpr Sample.opens)

end PinBridge
