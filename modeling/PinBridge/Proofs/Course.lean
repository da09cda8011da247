import PinBridge.Program

/-!
# Courses of a program

A program of bus calls is a tree, and a bus walks it from the root to a leaf. A *course* of a
program is one such walk as the bus sees it: the list of what passed between the two (`Event`), and
the value at the leaf. A course may have any reply at any call, so what holds of all courses of a
program holds of it on every bus (`exists_course_of_run`). A branch that crashes has no value, and
is no course.

* `course_done`, `course_call`, …: the courses of a program, by its first step.
* `course_bind`: those of a program and its continuation are one course of each, in a row.
-/

namespace PinBridge

/-- What passes between a program and a bus: a call with its reply, or a handle given back. -/
inductive Event
  | asked (c : Call) (reply : c.Reply)
  | released (handle : Handle)

namespace Program

variable {α β : Type}

/-- **A course of a program**: what passes on one of its branches, and the value at the end. -/
inductive Course : Program α → List Event → α → Prop
  | done (value : α) : Course (.done value) [] value
  | call {c : Call} {next : c.Reply → Program α} {events : List Event} {value : α}
      (reply : c.Reply) (rest : Course (next reply) events value) :
      Course (.call c next) (.asked c reply :: events) value
  | release {handle : Handle} {p : Program α} {events : List Event} {value : α}
      (rest : Course p events value) :
      Course (.release handle p) (.released handle :: events) value
  | note {n : Note} {p : Program α} {events : List Event} {value : α}
      (rest : Course p events value) : Course (.note n p) events value

variable {p : Program α} {events : List Event} {value : α}

@[simp]
theorem course_done {a : α} : Course (.done a) events value ↔ events = [] ∧ value = a := by
  constructor
  · intro h
    cases h
    exact ⟨rfl, rfl⟩
  · rintro ⟨rfl, rfl⟩
    exact .done _

@[simp]
theorem course_crash : ¬ Course .crash events value := by
  intro h
  cases h

@[simp]
theorem course_call {c : Call} {next : c.Reply → Program α} :
    Course (.call c next) events value ↔
      ∃ reply rest, events = .asked c reply :: rest ∧ Course (next reply) rest value := by
  constructor
  · intro h
    cases h with
    | call reply rest => exact ⟨reply, _, rfl, rest⟩
  · rintro ⟨reply, rest, rfl, h⟩
    exact .call reply h

@[simp]
theorem course_release {handle : Handle} :
    Course (.release handle p) events value ↔
      ∃ rest, events = .released handle :: rest ∧ Course p rest value := by
  constructor
  · intro h
    cases h with
    | release rest => exact ⟨_, rfl, rest⟩
  · rintro ⟨rest, rfl, h⟩
    exact .release h

@[simp]
theorem course_note {n : Note} : Course (.note n p) events value ↔ Course p events value := by
  constructor
  · intro h
    cases h with
    | note rest => exact rest
  · exact .note

/-- **One program after another**: a course of the first, and behind it one of the second. -/
theorem course_bind {f : α → Program β} {value : β} :
    (p.bind f).Course events value ↔
      ∃ first a second, p.Course first a ∧ (f a).Course second value ∧
        events = first ++ second := by
  induction p generalizing events with
  | done a =>
    constructor
    · intro h
      exact ⟨[], a, events, .done a, h, rfl⟩
    · rintro ⟨_, _, second, ha, h, rfl⟩
      obtain ⟨rfl, rfl⟩ := course_done.mp ha
      exact h
  | crash => simp [bind]
  | call c next ih =>
    simp only [bind, course_call, ih]
    constructor
    · rintro ⟨reply, rest, rfl, first, a, second, hp, hf, rfl⟩
      exact ⟨_, a, second, ⟨reply, first, rfl, hp⟩, hf, rfl⟩
    · rintro ⟨_, a, second, ⟨reply, first, rfl, hp⟩, hf, rfl⟩
      exact ⟨reply, _, rfl, first, a, second, hp, hf, rfl⟩
  | release handle p ih =>
    simp only [bind, course_release, ih]
    constructor
    · rintro ⟨rest, rfl, first, a, second, hp, hf, rfl⟩
      exact ⟨_, a, second, ⟨first, rfl, hp⟩, hf, rfl⟩
    · rintro ⟨_, a, second, ⟨first, rfl, hp⟩, hf, rfl⟩
      exact ⟨_, rfl, first, a, second, hp, hf, rfl⟩
  | note n p ih => simp only [bind, course_note, ih]

/-- **Played on any bus**, a program that ends in a value has taken one of its courses there. -/
theorem exists_course_of_run {σ : Type} {bus : Bus σ} {world after : σ}
    (h : p.run bus world = (some value, after)) : ∃ events, p.Course events value := by
  induction p generalizing world with
  | done a =>
    cases h
    exact ⟨[], .done _⟩
  | crash => cases h
  | call c next ih =>
    simp only [run] at h
    split at h
    · obtain ⟨events, hc⟩ := ih _ h
      exact ⟨_, .call _ hc⟩
    · cases h
  | release handle p ih =>
    obtain ⟨events, hc⟩ := ih h
    exact ⟨_, .release hc⟩
  | note n p ih =>
    obtain ⟨events, hc⟩ := ih h
    exact ⟨_, .note hc⟩

end Program

end PinBridge
