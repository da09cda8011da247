import PinBridge.Proofs.Session.Footprint

/-!
# Sessions in use

What a caller can do with a session is to make a call on it or to end it, in one of two ways
(`Use`). `serve` plays one use after the other on a bus and keeps what each has come to; a use that
crashes leaves the session as it was. The commands that the uses stand for are a parameter, so that
the sessions of two sets of commands can be compared.
-/

namespace PinBridge

/-- **What a caller can do with a session.** -/
inductive Use
  | call (action : Action)
  | drop
  | release
  deriving DecidableEq

namespace Use

/-- What a use yields when it succeeds. -/
abbrev Result : Use → Type
  | call action => action.Result
  | drop | release => Unit

/-- The command that a use stands for. -/
def perform : (use : Use) → Command use.Result
  | call action => action.perform
  | drop => Command.drop
  | release => Command.release

/-- What a use may set off. -/
def May : Use → Effect → Prop
  | call action, effect => action.May effect
  | drop, .drive | release, .drive => True
  | _, _ => False

/-- **No use crashes, and none sets off what it may not.** -/
theorem perform_within (use : Use) : Command.Within use.May use.perform := by
  cases use with
  | call action => exact PinBridge.perform_within action
  | drop => exact Command.drop_within trivial
  | release => exact Command.release_within trivial

end Use

/-- A use and what it has come to; nothing where it has crashed. -/
structure Outcome where
  use : Use
  result : Option (Except Error use.Result)

variable {σ : Type}

/-- Plays a use on a bus: what it has come to, and the session and the world then. -/
def Use.play (bus : Bus σ) (perform : (use : Use) → Command use.Result) (use : Use) (s : Session)
    (world : σ) : Outcome × Session × σ :=
  match (perform use s).run bus world with
  | (some (result, t), after) => (⟨use, some result⟩, t, after)
  | (none, after) => (⟨use, none⟩, s, after)

/-- **Serves one use after the other** on a bus. -/
def serve (bus : Bus σ) (perform : (use : Use) → Command use.Result) :
    List Use → Session → σ → List Outcome × Session × σ
  | [], s, world => ([], s, world)
  | use :: rest, s, world =>
    let (outcome, t, after) := use.play bus perform s world
    Prod.map (outcome :: ·) id (serve bus perform rest t after)

end PinBridge
