import PinBridge.Proofs.Play

/-!
# Programs that end with the first failure

A call on the bus fails with an error, or with less than was asked for: a control request that is
answered with too few bytes, or a write of which nothing is taken (`Event.failure?`). A program is
*orderly* (`Program.Orderly`) if it makes allowed calls only, and if after a call that fails it
makes no further one and ends in a value that tells the failure (`Program.Over`). Both are said of
the tree, so they hold on every bus; `Orderly.of_play` reads off what they say of the events.
-/

namespace PinBridge

/-- The error that a reply amounts to, if it is none that a caller can go on with. -/
def Event.failure? : Event → Option Error
  | asked (.controlIn _ _ _ _ length _) (.ok data) =>
    if data.length < length.toNat then some (.shortTransfer length.toNat data.length) else none
  | asked (.bulkWrite _ _ data _) (.ok 0) => some (.shortTransfer data.length 0)
  | asked _ (.error e) => some e
  | _ => none

theorem Event.failure?_error (c : Call) (e : Error) : (asked c (.error e)).failure? = some e := by
  cases c <;> rfl

namespace Program

variable {α β σ : Type} {allowed : Call → Prop} {p : Program α}

/-- **A program that is over**: it makes no call any more, and it ends in a value. -/
def Over (Q : α → Prop) : Program α → Prop
  | done value => Q value
  | crash => False
  | call _ _ => False
  | release _ rest => rest.Over Q
  | note _ rest => rest.Over Q

/-- **An orderly program**: all its calls are allowed, after one that fails with an error it is over
with a value that tells the error, and all its values are as they should be. -/
def Orderly (allowed : Call → Prop) (tells : Error → α → Prop) (Q : α → Prop) : Program α → Prop
  | done value => Q value
  | crash => True
  | call c next => allowed c ∧ ∀ reply,
    (∀ e, (Event.asked c reply).failure? = some e →
      (next reply).Over fun value => tells e value ∧ Q value) ∧
    ((Event.asked c reply).failure? = none → (next reply).Orderly allowed tells Q)
  | release _ rest => rest.Orderly allowed tells Q
  | note _ rest => rest.Orderly allowed tells Q

variable {tells : Error → α → Prop} {tells' : Error → β → Prop} {Q : α → Prop} {R : β → Prop}

theorem Over.bind {f : α → Program β} (h : p.Over Q) (hf : ∀ a, Q a → (f a).Over R) :
    (p.bind f).Over R := by
  induction p with
  | done a => exact hf a h
  | crash => exact h
  | call c next => exact h
  | release handle rest ih => exact ih h
  | note n rest ih => exact ih h

theorem Over.mono {Q' : α → Prop} (h : p.Over Q) (hQ : ∀ a, Q a → Q' a) : p.Over Q' := by
  induction p with
  | done a => exact hQ a h
  | crash => exact h
  | call c next => exact h
  | release handle rest ih => exact ih h
  | note n rest ih => exact ih h

/-- **One orderly program after another**, where the second one passes on what the first has failed
with. -/
theorem Orderly.bind {f : α → Program β} (h : p.Orderly allowed tells Q)
    (hf : ∀ a, Q a → (f a).Orderly allowed tells' R)
    (hpass : ∀ e a, tells e a → Q a → (f a).Over fun b => tells' e b ∧ R b) :
    (p.bind f).Orderly allowed tells' R := by
  induction p with
  | done a => exact hf a h
  | crash => trivial
  | call c next ih =>
    refine ⟨h.1, fun reply => ⟨fun e failed => ?_, fun fine => ih reply ((h.2 reply).2 fine)⟩⟩
    exact ((h.2 reply).1 e failed).bind fun a ha => hpass e a ha.1 ha.2
  | release handle rest ih => exact ih h
  | note n rest ih => exact ih h

/-- Fewer calls, and less known of the values. -/
theorem Orderly.mono {allowed' : Call → Prop} {Q' : α → Prop} (h : p.Orderly allowed tells Q)
    (hallowed : ∀ c, allowed c → allowed' c) (hQ : ∀ a, Q a → Q' a) :
    p.Orderly allowed' tells Q' := by
  induction p with
  | done a => exact hQ a h
  | crash => trivial
  | call c next ih =>
    refine ⟨hallowed c h.1, fun reply => ⟨fun e failed => ?_, fun fine => ?_⟩⟩
    · exact ((h.2 reply).1 e failed).mono fun a ha => ⟨ha.1, hQ a ha.2⟩
    · exact ih reply ((h.2 reply).2 fine)
  | release handle rest ih => exact ih h
  | note n rest ih => exact ih h

/-- What is over is orderly. -/
theorem Over.orderly (h : p.Over Q) : p.Orderly allowed tells Q := by
  induction p with
  | done a => exact h
  | crash => trivial
  | call c next => exact h.elim
  | release handle rest ih => exact ih h
  | note n rest ih => exact ih h

theorem Over.asks (h : p.Over Q) : p.Asks allowed := by
  induction p with
  | done a => trivial
  | crash => trivial
  | call c next => exact h.elim
  | release handle rest ih => exact ih h
  | note n rest ih => exact ih h

theorem Orderly.asks (h : p.Orderly allowed tells Q) : p.Asks allowed := by
  induction p with
  | done a => trivial
  | crash => trivial
  | call c next ih =>
    refine ⟨h.1, fun reply => ?_⟩
    cases hfailure : (Event.asked c reply).failure? with
    | none => exact ih reply ((h.2 reply).2 hfailure)
    | some e => exact ((h.2 reply).1 e hfailure).asks
  | release handle rest ih => exact ih h
  | note n rest ih => exact ih h

/-! ### On a bus -/

variable {bus : Bus σ} {world : σ}

/-- A program that is over makes no call on any bus, and ends in a value. -/
theorem Over.of_play (h : p.Over Q) (bus : Bus σ) (world : σ) :
    (∀ event ∈ (p.play bus world).1, event.call? = none) ∧
      ∃ value, (p.play bus world).2.1 = some value ∧ Q value := by
  induction p generalizing world with
  | done a => exact ⟨by simp [play], a, rfl, h⟩
  | crash => exact h.elim
  | call c next => exact h.elim
  | release handle rest ih =>
    obtain ⟨hevents, hvalue⟩ := ih h (bus.release handle world)
    refine ⟨fun event hmem => ?_, hvalue⟩
    rcases List.mem_cons.mp hmem with rfl | hmem
    · rfl
    · exact hevents event hmem
  | note n rest ih => exact ih h (bus.note n world)

/-- The value of an orderly program is as it should be. -/
theorem Orderly.value_of_play (h : p.Orderly allowed tells Q) {value : α}
    (hvalue : (p.play bus world).2.1 = some value) : Q value := by
  induction p generalizing world with
  | done a =>
    cases hvalue
    exact h
  | crash => cases hvalue
  | call c next ih =>
    simp only [play] at hvalue
    split at hvalue
    · next reply after _ =>
      cases hfailure : (Event.asked c reply).failure? with
      | none => exact ih reply ((h.2 reply).2 hfailure) hvalue
      | some e =>
        obtain ⟨-, value', hvalue', -, hQ⟩ := ((h.2 reply).1 e hfailure).of_play bus after
        cases hvalue'.symm.trans hvalue
        exact hQ
    · cases hvalue
  | release handle rest ih => exact ih h hvalue
  | note n rest ih => exact ih h hvalue

/-- **A call that fails is the last one**, and the value that the program ends in tells its error.
-/
theorem Orderly.of_play (h : p.Orderly allowed tells Q) {before rest : List Event} {event : Event}
    {e : Error} (hplay : (p.play bus world).1 = before ++ event :: rest)
    (failed : event.failure? = some e) :
    (∀ later ∈ rest, later.call? = none) ∧
      ∃ value, (p.play bus world).2.1 = some value ∧ tells e value := by
  induction p generalizing world before with
  | done a => simp [play] at hplay
  | crash => simp [play] at hplay
  | call c next ih =>
    simp only [play] at hplay ⊢
    split at hplay
    · next reply after _ =>
      simp only [Prod.map] at hplay
      cases before with
      | nil =>
        obtain ⟨rfl, rfl⟩ := List.cons.inj hplay
        obtain ⟨hevents, value, hvalue, htells, -⟩ :=
          ((h.2 reply).1 e failed).of_play bus after
        exact ⟨hevents, value, hvalue, htells⟩
      | cons first before =>
        obtain ⟨-, htail⟩ := List.cons.inj hplay
        cases hfailure : (Event.asked c reply).failure? with
        | none => exact ih reply ((h.2 reply).2 hfailure) htail
        | some e' =>
          -- an earlier call has failed, so there is no room for this one
          obtain ⟨hevents, -⟩ := ((h.2 reply).1 e' hfailure).of_play bus after
          have hcall := hevents event (htail ▸ List.mem_append_right _ List.mem_cons_self)
          cases event with
          | asked c reply => cases hcall
          | released handle => cases failed
    · simp at hplay
  | release handle rest' ih =>
    cases before with
    | nil =>
      obtain ⟨rfl, -⟩ := List.cons.inj hplay
      cases failed
    | cons first before =>
      obtain ⟨-, htail⟩ := List.cons.inj hplay
      exact ih h htail
  | note n rest' ih => exact ih h hplay

end Program

end PinBridge
