import PinBridge.Proofs.Checked.Command
import PinBridge.Proofs.Session.Staging

/-!
# No reply crashes a session

A session that is used over the checked computations (`perform`) does what the library does, and
each use comes to an end: no number leaves its word, nothing is divided by zero, and no index and no
slice is out of range, whatever the devices reply (`no_reply_crashes`). So do the accessors of an
image that is staged.

What carries this from use to use is `Ready`: the packet size of the open device fits its word, and
a staged image has all its bytes. Every change of a session keeps it (`Ready.change`).
-/

namespace PinBridge.Checked

open Command

variable {σ : Type} {bus : Bus σ} {s t : Session} {d : OpenDevice} {events : List Event}

/-- The checked command of a call. -/
def performCall : (action : Action) → Command action.Result
  | .openIds vendor product => openIds vendor product
  | .openFilter filter => openFilter filter
  | .openDevice device => openDevice device
  | .setBaudRate rate => setBaudRate rate
  | .readData length => readData length
  | .writeData value => writeData value
  | .writePattern pattern => writePattern pattern
  | .readEeprom => readEeprom
  | .stagedPart size => stagedPart size
  -- The other calls compute nothing but indexes, for which the commands themselves crash.
  | action => action.perform

/-- The checked command of a use. -/
def perform : (use : Use) → Command use.Result
  | .call action => performCall action
  | use => use.perform

/-- **A session that is ready for any use.** -/
structure Ready (s : Session) : Prop where
  staged : StagedAsRead s
  packetSize : ∀ d, s.link = .opened d → d.packetSize < 2 ^ 64

theorem run_of_eq {α : Type} {m m' : Command α} (h : m = m') (world : σ) :
    (m s).run bus world = (m' s).run bus world := by
  rw [h]

/-- **A checked use does what the use does.** -/
theorem perform_run (ready : Ready s) (answers : bus.Answers Roomy) (use : Use) (world : σ) :
    (perform use s).run bus world = (use.perform s).run bus world := by
  cases use with
  | drop | release => rfl
  | call action =>
    change (performCall action s).run bus world = (action.perform s).run bus world
    cases action with
    | openIds vendor product => exact run_of_eq (openIds_eq _ _) world
    | openFilter filter => exact run_of_eq (openFilter_eq _) world
    | openDevice device => exact run_of_eq (openDevice_eq _) world
    | setBaudRate rate => exact run_of_eq (setBaudRate_eq _) world
    | readData length => exact readData_run answers ready.packetSize length world
    | writeData value => exact run_of_eq (writeData_eq _) world
    | writePattern p => exact run_of_eq (writePattern_eq _) world
    | readEeprom => exact run_of_eq readEeprom_eq world
    | stagedPart size => exact congrArg (Program.run bus · world) (stagedPart_eq ready.staged size)
    | _ => rfl

/-! ### Staying ready -/

namespace Ready

/-- A session with no device and no image is ready. -/
theorem of_nothing (staged : s.staged = none) (link : ∀ d, s.link ≠ .opened d) : Ready s := by
  refine ⟨fun image himage => ?_, fun d hd => absurd hd (link d)⟩
  cases staged.symm.trans himage

/-- The packet size of an open device does not change. -/
theorem of_opened {d' : OpenDevice} (h : Ready s) (link : s.link = .opened d)
    (hsize : d'.packetSize = d.packetSize) : Ready { s with link := .opened d' } := by
  refine ⟨h.staged, fun d₁ hd₁ => ?_⟩
  cases hd₁
  exact hsize ▸ h.packetSize d link

/-- **Every change leaves a session ready**, if the replies that it comes from have room. -/
theorem change {turn : Turn} (h : Ready s) (change : Change s turn t)
    (roomy : ∀ c reply, .asked c reply ∈ turn.events → Roomy (.asked c reply)) : Ready t := by
  cases change with
  | idle => exact h
  | configured => exact ⟨h.staged, h.packetSize⟩
  | tuned link | flushed link | halfPurged link | taken link | refilled link =>
    exact h.of_opened link rfl
  | staged link length long =>
    refine ⟨fun image himage => ?_, h.packetSize⟩
    cases himage
    refine .of_stage ?_ _
    rw [length_flatMap_take_two long, length]
    rfl
  | @opened _ device handle _ _ _ _ found =>
    refine ⟨by simp [StagedAsRead], ?_⟩
    rintro d ⟨⟩
    change handle.packetSize.getD (Chip.packetSize _) < _
    cases hsize : handle.packetSize with
    | some size =>
      obtain ⟨event, hmem, hhandle⟩ := List.exists_of_findSome?_eq_some found
      unfold Event.handle? at hhandle
      split at hhandle
      · cases hhandle
        exact roomy _ _ hmem size hsize
      · cases hhandle
    | none =>
      unfold Chip.packetSize
      split <;> decide
  | closed => exact of_nothing rfl (by simp)

theorem of_drop {r : Except Error Unit} (h : Ready s) (course : drop.Course s events r t) :
    Ready t := by
  unfold drop at course
  rw [session_bind] at course
  split at course
  · obtain ⟨-, rfl⟩ := shutDown_course course
    exact of_nothing rfl (by simp)
  · obtain ⟨-, -, rfl⟩ := course_pure.mp course
    exact h

/-- **The step**: on a bus whose replies have room, each use comes to an end and leaves the session
ready for the next. -/
theorem use (h : Ready s) (answers : bus.Answers Roomy) (use : Use) (world : σ) :
    ∃ result t after, use.play bus Use.perform s world = (⟨use, some result⟩, t, after) ∧
      Ready t := by
  obtain ⟨events, ⟨result, t⟩, after, hplay, -, hroomy⟩ :=
    (use.perform_within s).completes answers world
  have hrun : (use.perform s).run bus world = (some (result, t), after) := by
    rw [← Program.play_run, hplay]
  have course := Program.course_of_play hplay
  refine ⟨result, t, after, ?_, ?_⟩
  · unfold Use.play
    rw [hrun]
  · cases use with
    | call action => exact h.change (perform_change course) hroomy
    | drop => exact h.of_drop course
    | release =>
      rcases course_bind.mp course with ⟨e, h₁, -⟩ | ⟨_, first, s₁, second, h₁, h₂, -⟩
      · exact h.of_drop h₁
      · exact (h.of_drop h₁).of_drop h₂

end Ready

/-- **The run**: so the uses of a session that is ready come to an end one after the other, and the
checked ones do the same. -/
theorem serve_of_ready (answers : bus.Answers Roomy) (uses : List Use) :
    ∀ {s : Session}, Ready s → ∀ world : σ,
      serve bus perform uses s world = serve bus Use.perform uses s world ∧
        (∀ outcome ∈ (serve bus Use.perform uses s world).1, outcome.result.isSome) ∧
        Ready (serve bus Use.perform uses s world).2.1 := by
  induction uses with
  | nil => exact fun ready world => ⟨rfl, by simp [serve], ready⟩
  | cons use rest ih =>
    intro s ready world
    obtain ⟨result, t, after, hplay, ready'⟩ := ready.use answers use world
    have hchecked : use.play bus perform s world = use.play bus Use.perform s world := by
      unfold Use.play
      rw [perform_run ready answers]
    obtain ⟨hsame, hends, hready⟩ := ih ready' after
    unfold serve
    rw [hchecked, hplay]
    refine ⟨congrArg (Prod.map _ id) hsame, fun outcome hmem => ?_, hready⟩
    rcases List.mem_cons.mp hmem with rfl | hmem
    · rfl
    · exact hends outcome hmem

/-- **No reply crashes a session.** On a bus that answers every call, with whatever it likes, a
session comes through every list of uses: the checked computations have results, those of the
library, and every use succeeds or fails with an error. What is staged in the end, if anything, can
be read in each way, and there is a header unless the part is blank. -/
theorem no_reply_crashes {options : Options} (answers : bus.Answers Roomy)
    (made : Session.new options = .ok s) (uses : List Use) (world : σ) :
    serve bus perform uses s world = serve bus Use.perform uses s world ∧
      (∀ outcome ∈ (serve bus perform uses s world).1, outcome.result.isSome) ∧
      ∀ image, (serve bus perform uses s world).2.1.staged = some image →
        bytes image = some image.bytes ∧
        (∃ word, storedChecksum image = some word ∧ image.storedChecksum? = some word) ∧
        verifies image = some image.verifies ∧
        header image = some image.header? ∧ (image.blank = false → image.header?.isSome) := by
  have ready : Ready s := by
    obtain ⟨hlink, hstaged⟩ := Session.new_ok made
    exact .of_nothing hstaged (by simp [hlink])
  obtain ⟨hsame, hends, hready⟩ := serve_of_ready answers uses ready world
  rw [hsame]
  refine ⟨rfl, hends, fun image himage => ?_⟩
  have hstaged := hready.staged image himage
  exact ⟨hstaged.bytes_eq, hstaged.storedChecksum_eq, hstaged.verifies_eq, hstaged.header_eq⟩

/-- A bus that answers at odds with what it is asked: packets have one byte, more bytes are taken
than there are, words have three bytes, and other requests for bytes yield none. -/
def Sample.hostile : Bus Unit where
  reply c _ :=
    match c with
    | .list => (some (.ok []), ())
    | .strings .. => (some (.ok .none), ())
    | .openDevice .. => (some (.ok ⟨7, 0xFFFF, false, some 1⟩), ())
    | .controlOut .. => (some (.ok ()), ())
    | .controlIn _ request .. =>
      (some (.ok (if request = Request.readEeprom then [0x12, 0x34, 0x56] else [])), ())
    | .bulkWrite .. => (some (.ok 0xFFFFFFFF), ())
    | .bulkRead .. => (some (.ok [1, 2, 3, 4, 5]), ())
  release _ _ := ()
  note _ _ := ()

/-- Uses that meet each of these answers. -/
def Sample.uses : List Use :=
  [.call (.openDevice Sample.descriptor), .call .readEeprom, .call (.readData 3),
    .call (.setBitMode 0xFF .bitBang), .call (.writePattern [1, 2, 3]), .call .readPins,
    .call (.setReadChunk 0), .call .readEeprom]

theorem no_reply_crashes_hostile :
    Sample.hostile.Answers Roomy ∧
      Session.new .default = .ok ⟨.default, .unopened, none⟩ ∧
      serve Sample.hostile perform Sample.uses ⟨.default, .unopened, none⟩ () =
        serve Sample.hostile Use.perform Sample.uses ⟨.default, .unopened, none⟩ () ∧
      ∀ outcome ∈ (serve Sample.hostile perform Sample.uses ⟨.default, .unopened, none⟩ ()).1,
        outcome.result.isSome := by
  have answers : Sample.hostile.Answers Roomy := by
    rintro (_ | _ | _ | _ | _ | _ | _) ⟨⟩
    all_goals refine ⟨_, (), rfl, ?_⟩
    case openDevice =>
      intro size hsize
      cases hsize
      decide
    case bulkRead => exact (by decide : 5 < 2 ^ 63)
    all_goals trivial
  have made : Session.new .default = .ok ⟨.default, .unopened, none⟩ := rfl
  have h := no_reply_crashes answers made Sample.uses ()
  exact ⟨answers, made, h.1, h.2.1⟩

end PinBridge.Checked
