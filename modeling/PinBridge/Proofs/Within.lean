import PinBridge.Proofs.Play

/-!
# Programs that come to an end

A program may crash on one of its branches. One that stays within bounds (`Program.Within`) has no
such branch: whatever the replies, it makes allowed calls only and ends in a value as it should be.
This is said of the tree, so it holds on every bus:

* `Within.bind` : one program after another.
* `Within.completes` : on a bus that answers every call, the program ends in a value.
* `Within.bind_congr` : two programs may stand for each other behind it, if they are the same for
  the values that it can end in.
-/

namespace PinBridge

/-- **A bus that answers every call**, and each time with a reply that is fine. -/
def Bus.Answers {σ : Type} (bus : Bus σ) (fine : Event → Prop) : Prop :=
  ∀ c world, ∃ reply after, bus.reply c world = (some reply, after) ∧ fine (.asked c reply)

namespace Bus

/-- A bus that has nothing to remember, and one reply for each call. -/
def fixed (reply : (c : Call) → c.Reply) : Bus Unit where
  reply c _ := (some (reply c), ())
  release _ _ := ()
  note _ _ := ()

variable {reply : (c : Call) → c.Reply}

theorem fixed_answers {fine : Event → Prop} (h : ∀ c, fine (.asked c (reply c))) :
    (fixed reply).Answers fine :=
  fun c _ => ⟨reply c, (), rfl, h c⟩

/-- The reply to a call of a play is the one that the bus has for it. -/
theorem eq_of_mem_play_fixed {α : Type} {p : Program α} {c : Call} {r : c.Reply}
    (h : .asked c r ∈ (p.play (fixed reply) ()).1) : r = reply c := by
  have keeps : (fixed reply).Keeps (fun _ => True) fun _ => True :=
    ⟨fun _ _ _ _ => trivial, fun _ _ _ => trivial, fun _ _ _ => trivial⟩
  obtain ⟨_, _, -, hreply⟩ := Program.reply_of_mem_play keeps trivial h
  exact (Option.some.inj (congrArg Prod.fst hreply)).symm

end Bus

namespace Program

variable {α β σ : Type} {allowed : Call → Prop} {Q : α → Prop} {p : Program α}

/-- **A program that stays within bounds**: it makes allowed calls only, no branch of it crashes,
and each value that it can end in is as it should be. -/
def Within (allowed : Call → Prop) (Q : α → Prop) : Program α → Prop
  | done value => Q value
  | crash => False
  | call c next => allowed c ∧ ∀ reply, (next reply).Within allowed Q
  | release _ rest => rest.Within allowed Q
  | note _ rest => rest.Within allowed Q

/-- **One program after another.** -/
theorem Within.bind {f : α → Program β} {R : β → Prop} (h : p.Within allowed Q)
    (hf : ∀ a, Q a → (f a).Within allowed R) : (p.bind f).Within allowed R := by
  induction p with
  | done a => exact hf a h
  | crash => exact h
  | call c next ih => exact ⟨h.1, fun reply => ih reply (h.2 reply)⟩
  | release handle rest ih => exact ih h
  | note n rest ih => exact ih h

/-- Less known of the values. -/
theorem Within.mono {R : α → Prop} (h : p.Within allowed Q) (hQ : ∀ a, Q a → R a) :
    p.Within allowed R :=
  bind_done p ▸ h.bind hQ

theorem Within.asks (h : p.Within allowed Q) : p.Asks allowed := by
  induction p with
  | done a => trivial
  | crash => trivial
  | call c next ih => exact ⟨h.1, fun reply => ih reply (h.2 reply)⟩
  | release handle rest ih => exact ih h
  | note n rest ih => exact ih h

/-- A course ends in a value as it should be. -/
theorem Within.of_course {events : List Event} {a : α} (h : p.Within allowed Q)
    (course : p.Course events a) : Q a := by
  induction course with
  | done a => exact h
  | call reply _ ih => exact ih (h.2 reply)
  | release _ ih => exact ih h
  | note _ ih => exact ih h

/-- What comes behind a program matters only for the values that the program can end in. -/
theorem Within.bind_congr {f g : α → Program β} (h : p.Within allowed Q)
    (hfg : ∀ a, Q a → f a = g a) : p.bind f = p.bind g := by
  induction p with
  | done a => exact hfg a h
  | crash => rfl
  | call c next ih => exact congrArg (call c) (funext fun reply => ih reply (h.2 reply))
  | release handle rest ih => exact congrArg (release handle) (ih h)
  | note n rest ih => exact congrArg (note n) (ih h)

/-- **On a bus that answers every call the program ends in a value**, and all replies on the way are
fine. -/
theorem Within.completes {bus : Bus σ} {fine : Event → Prop} (h : p.Within allowed Q)
    (answers : bus.Answers fine) (world : σ) :
    ∃ events value after, p.play bus world = (events, some value, after) ∧ Q value ∧
      ∀ c reply, .asked c reply ∈ events → fine (.asked c reply) := by
  induction p generalizing world with
  | done a => exact ⟨[], a, world, rfl, h, by simp⟩
  | crash => exact h.elim
  | call c next ih =>
    obtain ⟨reply, after, hreply, hfine⟩ := answers c world
    obtain ⟨events, value, last, hplay, hQ, hevents⟩ := ih reply (h.2 reply) after
    refine ⟨.asked c reply :: events, value, last, ?_, hQ, fun c' reply' hmem => ?_⟩
    · simp only [play, hreply, hplay]
      rfl
    · rcases List.mem_cons.mp hmem with heq | hmem
      · cases heq
        exact hfine
      · exact hevents c' reply' hmem
  | release handle rest ih =>
    obtain ⟨events, value, last, hplay, hQ, hevents⟩ := ih h (bus.release handle world)
    refine ⟨.released handle :: events, value, last, ?_, hQ, fun c reply hmem => ?_⟩
    · simp only [play, hplay]
      rfl
    · rcases List.mem_cons.mp hmem with heq | hmem
      · cases heq
      · exact hevents c reply hmem
  | note n rest ih => exact ih h (bus.note n world)

/-- On such a bus what comes behind a call matters only for the replies that are fine. -/
theorem run_call_congr {bus : Bus σ} {fine : Event → Prop} (answers : bus.Answers fine) {c : Call}
    {next next' : c.Reply → Program α} (world : σ)
    (h : ∀ reply after, fine (.asked c reply) →
      (next reply).run bus after = (next' reply).run bus after) :
    (call c next).run bus world = (call c next').run bus world := by
  obtain ⟨reply, after, hreply, hfine⟩ := answers c world
  simp only [run, hreply]
  exact h reply after hfine

end Program

end PinBridge
