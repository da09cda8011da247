import PinBridge.Proofs.Play

/-!
# Programs that follow a rule

Whether an event is in order may depend on what has passed before. A `Rule` says which events it
allows in view of a record, and how each event adds to the record. A program follows a rule
(`Program.Follows`) if on each of its branches every event is allowed where it comes. This is said of
the tree, so it holds on every bus:

* `Follows.bind` : one program after another, the second one from the record that the first leaves.
* `Follows.respects` : on every bus each event is allowed, also where the program crashes later.
* `Follows.of_course` : what is known of the record and the value at the end.
-/

namespace PinBridge

variable {γ : Type}

/-- **A rule on events**: which ones it allows in view of a record, and how each adds to it. -/
structure Rule (γ : Type) where
  allows : γ → Event → Prop
  add : γ → Event → γ

/-- The record after some events. -/
def Rule.after (rule : Rule γ) (record : γ) (events : List Event) : γ :=
  events.foldl rule.add record

namespace Program

variable {α β : Type} {rule : Rule γ} {Q : γ → α → Prop} {p : Program α} {record : γ}

/-- **A program that follows a rule** from a record on, and ends with a record and a value as they
should be. -/
def Follows (rule : Rule γ) (Q : γ → α → Prop) : Program α → γ → Prop
  | done value, record => Q record value
  | crash, _ => True
  | call c next, record => ∀ reply, rule.allows record (.asked c reply) ∧
    (next reply).Follows rule Q (rule.add record (.asked c reply))
  | release handle rest, record => rule.allows record (.released handle) ∧
    rest.Follows rule Q (rule.add record (.released handle))
  | note _ rest, record => rest.Follows rule Q record

/-- **What comes of it on a bus**: each event of a play is allowed in view of those before it. -/
def Respects (rule : Rule γ) (record : γ) (p : Program α) : Prop :=
  ∀ {σ : Type} (bus : Bus σ) (world : σ) (before rest : List Event) (event : Event),
    (p.play bus world).1 = before ++ event :: rest →
      rule.allows (rule.after record before) event

/-- **One program after another.** -/
theorem Follows.bind {f : α → Program β} {R : γ → β → Prop} (h : p.Follows rule Q record)
    (hf : ∀ record a, Q record a → (f a).Follows rule R record) :
    (p.bind f).Follows rule R record := by
  induction p generalizing record with
  | done a => exact hf record a h
  | crash => trivial
  | call c next ih => exact fun reply => ⟨(h reply).1, ih reply (h reply).2⟩
  | release handle rest ih => exact ⟨h.1, ih h.2⟩
  | note n rest ih => exact ih h

/-- Less known of the end. -/
theorem Follows.mono {Q' : γ → α → Prop} (h : p.Follows rule Q record)
    (hQ : ∀ record a, Q record a → Q' record a) : p.Follows rule Q' record :=
  bind_done p ▸ h.bind hQ

/-- **A course ends as it should**, the record being that of all its events. -/
theorem Follows.of_course (h : p.Follows rule Q record) {events : List Event} {value : α}
    (course : p.Course events value) : Q (rule.after record events) value := by
  induction course generalizing record with
  | done value => exact h
  | call reply _ ih => exact ih (h reply).2
  | release _ ih => exact ih h.2
  | note _ ih => exact ih h

theorem Follows.respects (h : p.Follows rule Q record) : p.Respects rule record := by
  intro σ bus world before rest event hplay
  induction p generalizing record world before with
  | done a => simp [play] at hplay
  | crash => simp [play] at hplay
  | call c next ih =>
    simp only [play] at hplay
    split at hplay
    · next reply world' _ =>
      cases before with
      | nil =>
        obtain ⟨rfl, -⟩ := List.cons.inj hplay
        exact (h reply).1
      | cons first before =>
        obtain ⟨rfl, htail⟩ := List.cons.inj hplay
        exact ih reply (h reply).2 world' before htail
    · simp at hplay
  | release handle rest' ih =>
    cases before with
    | nil =>
      obtain ⟨rfl, -⟩ := List.cons.inj hplay
      exact h.1
    | cons first before =>
      obtain ⟨rfl, htail⟩ := List.cons.inj hplay
      exact ih h.2 _ before htail
  | note n rest' ih => exact ih h _ before hplay

end Program

end PinBridge
