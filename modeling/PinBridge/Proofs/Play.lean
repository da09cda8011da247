import PinBridge.Proofs.Course

/-!
# Programs played on a bus

`Program.play` is `Program.run` with a record: it plays a program on a bus and keeps the events, up
to the crash where there is one. So it says of one bus what `Program.Course` says of all of them,
and more of a program that crashes.

* `play_run`, `play_of_run`, `course_of_play` : a play is a run, and a course where the program ends
  in a value.
* `play_bind` : one program after another.
* `play_of_gives` : a course whose events the bus gives is the play.
* `Asks.keeps` : what the replies to all calls of a program leave true, the play leaves true.
* `reply_of_mem_play` : an event of a play is a reply of the bus.
-/

namespace PinBridge

/-- The call that an event answers. -/
def Event.call? : Event → Option Call
  | asked c _ => some c
  | released _ => none

/-- What a bus leaves true of its world while it answers the allowed calls. -/
structure Bus.Keeps {σ : Type} (bus : Bus σ) (allowed : Call → Prop) (I : σ → Prop) : Prop where
  reply : ∀ c world, allowed c → I world → I (bus.reply c world).2
  release : ∀ handle world, I world → I (bus.release handle world)
  note : ∀ n world, I world → I (bus.note n world)

/-- **An event that a bus gives** wherever its world is as it should be, and leaves it so. -/
def Bus.Gives {σ : Type} (bus : Bus σ) (I : σ → Prop) : Event → Prop
  | .asked c reply =>
    ∀ world, I world → ∃ after, bus.reply c world = (some reply, after) ∧ I after
  | .released handle => ∀ world, I world → I (bus.release handle world)

namespace Program

variable {α σ : Type}

/-- **A program played on a bus**: what passes between the two, the value that the program ends in,
if it does not crash, and the world then. -/
def play (bus : Bus σ) : Program α → σ → List Event × Option α × σ
  | done value, world => ([], some value, world)
  | crash, world => ([], none, world)
  | call c next, world =>
    match bus.reply c world with
    | (some reply, world) => Prod.map (.asked c reply :: ·) id (play bus (next reply) world)
    | (none, world) => ([], none, world)
  | release handle rest, world =>
    Prod.map (.released handle :: ·) id (play bus rest (bus.release handle world))
  | note n rest, world => play bus rest (bus.note n world)

/-- All calls of a program, on whichever branch, are allowed. -/
def Asks (allowed : Call → Prop) : Program α → Prop
  | done _ => True
  | crash => True
  | call c next => allowed c ∧ ∀ reply, (next reply).Asks allowed
  | release _ rest => rest.Asks allowed
  | note _ rest => rest.Asks allowed

variable {bus : Bus σ} {allowed : Call → Prop} {I : σ → Prop} {p : Program α} {world : σ}

/-- A play is a run. -/
theorem play_run (bus : Bus σ) (p : Program α) (world : σ) :
    (p.play bus world).2 = p.run bus world := by
  induction p generalizing world with
  | done value => rfl
  | crash => rfl
  | call c next ih =>
    rcases hreply : bus.reply c world with ⟨_ | reply, after⟩
    · simp only [play, run, hreply]
    · simp only [play, run, hreply]
      exact ih reply after
  | release handle rest ih => exact ih _
  | note n rest ih => exact ih _

/-- What a run comes to, a play comes to. -/
theorem play_of_run {value : Option α} {after : σ} (h : p.run bus world = (value, after)) :
    ∃ events, p.play bus world = (events, value, after) := by
  refine ⟨(p.play bus world).1, Prod.ext rfl ?_⟩
  rw [play_run, h]

/-- One program after another. -/
theorem play_bind {β : Type} {f : α → Program β} {events : List Event} {value : α} {after : σ}
    (h : p.play bus world = (events, some value, after)) :
    (p.bind f).play bus world = Prod.map (events ++ ·) id ((f value).play bus after) := by
  induction p generalizing world events with
  | done a =>
    cases h
    rfl
  | crash => cases h
  | call c next ih =>
    simp only [bind, play] at h ⊢
    split at h
    · next reply world' _ =>
      obtain ⟨rfl, hrest⟩ := Prod.mk.inj h
      rw [ih reply (Prod.ext rfl hrest)]
      rfl
    · cases h
  | release handle rest ih =>
    obtain ⟨rfl, hrest⟩ := Prod.mk.inj h
    simp only [bind, play]
    rw [ih (Prod.ext rfl hrest)]
    rfl
  | note n rest ih => exact ih h

/-- **A play that ends in a value is a course.** -/
theorem course_of_play {events : List Event} {value : α} {after : σ}
    (h : p.play bus world = (events, some value, after)) : p.Course events value := by
  induction p generalizing world events with
  | done a =>
    cases h
    exact .done _
  | crash => cases h
  | call c next ih =>
    simp only [play] at h
    split at h
    · next reply world' _ =>
      obtain ⟨rfl, hrest⟩ := Prod.mk.inj h
      exact .call reply (ih reply (Prod.ext rfl hrest))
    · cases h
  | release handle rest ih =>
    obtain ⟨rfl, hrest⟩ := Prod.mk.inj h
    exact .release (ih (Prod.ext rfl hrest))
  | note n rest ih => exact .note (ih h)

/-- **A course whose events the bus gives is the play.** -/
theorem play_of_gives {events : List Event} {value : α} (course : p.Course events value)
    (gives : ∀ event ∈ events, bus.Gives I event)
    (note : ∀ n world, I world → I (bus.note n world)) (start : I world) :
    ∃ after, p.play bus world = (events, some value, after) ∧ I after := by
  induction course generalizing world with
  | done a => exact ⟨world, rfl, start⟩
  | call reply rest ih =>
    obtain ⟨hfirst, hrest⟩ := List.forall_mem_cons.mp gives
    obtain ⟨next, hreply, hnext⟩ := hfirst world start
    obtain ⟨after, hplay, hafter⟩ := ih hrest hnext
    refine ⟨after, ?_, hafter⟩
    simp only [play, hreply, hplay]
    rfl
  | release rest ih =>
    obtain ⟨hfirst, hrest⟩ := List.forall_mem_cons.mp gives
    obtain ⟨after, hplay, hafter⟩ := ih hrest (hfirst world start)
    refine ⟨after, ?_, hafter⟩
    simp only [play, hplay]
    rfl
  | note rest ih => exact ih gives (note _ world start)

/-- **What all replies leave true, the play leaves true**, also where it crashes. -/
theorem Asks.keeps (h : p.Asks allowed) (keeps : bus.Keeps allowed I) (start : I world) :
    I (p.play bus world).2.2 := by
  induction p generalizing world with
  | done value => exact start
  | crash => exact start
  | call c next ih =>
    have hreply := keeps.reply c world h.1 start
    simp only [play]
    split
    · next reply after heq =>
      rw [heq] at hreply
      exact ih reply (h.2 reply) hreply
    · next after heq =>
      rw [heq] at hreply
      exact hreply
  | release handle rest ih => exact ih h (keeps.release handle world start)
  | note n rest ih => exact ih h (keeps.note n world start)

/-- Where every call is allowed, a program makes allowed calls only. -/
theorem asks_true (p : Program α) : p.Asks fun _ => True := by
  induction p with
  | done value => trivial
  | crash => trivial
  | call c next ih => exact ⟨trivial, ih⟩
  | release handle rest ih => exact ih
  | note n rest ih => exact ih

/-- **An event of a play is a reply of the bus**, in a world in which what it keeps is true. -/
theorem reply_of_mem_play {c : Call} {reply : c.Reply} (keeps : bus.Keeps (fun _ => True) I)
    (start : I world) (h : .asked c reply ∈ (p.play bus world).1) :
    ∃ before after, I before ∧ bus.reply c before = (some reply, after) := by
  induction p generalizing world with
  | done value => cases h
  | crash => cases h
  | call c' next ih =>
    have hreply := keeps.reply c' world trivial start
    simp only [play] at h
    split at h
    · next reply' after heq =>
      rw [heq] at hreply
      rcases List.mem_cons.mp h with h | h
      · cases h
        exact ⟨world, after, start, heq⟩
      · exact ih reply' hreply h
    · cases h
  | release handle rest ih =>
    rcases List.mem_cons.mp h with h | h
    · cases h
    · exact ih (keeps.release handle world start) h
  | note n rest ih => exact ih (keeps.note n world start) h

end Program

end PinBridge
