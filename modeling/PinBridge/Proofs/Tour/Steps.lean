import PinBridge.Proofs.Simulator.Pins
import PinBridge.Proofs.Simulator.Reach
import PinBridge.Tour

/-!
# Steps of the tour on the simulated bus

What a step of the tour comes to is said by `Step.Goes`: its result, the lines that it adds, and
where session and bus are then. To go on is kept by `bind`, the lines one after the other, and a call
on the session goes as its play does (`Goes.act`).

Whatever a step comes to, all that it does to the session is to make calls (`Step.Keeps`). So a tour
that begins on a bus with no board in a bit mode is a run on the simulated bus (`Underway`), up to
the end of the session, which leaves no board in one (`Underway.drop_run`).
-/

namespace PinBridge.Tour

open Simulator (bus failTransfer_of_play)

/-- **A session under way**: calls have brought it and the bus here from a start without a board in a
bit mode, and no transfer is to fail. -/
structure Underway (s : Session) (world : Simulator.State) : Prop where
  calm : world.failTransfer = none
  run : ∃ history, Simulated history s world

variable {α β : Type} {s t u : Session} {world mid after : Simulator.State} {action : Action}
  {events : List Event} {result : Except Error action.Result}

namespace Underway

/-- A call keeps the session under way. -/
theorem turn (h : Underway s world)
    (played : (action.perform s).play bus world = (events, some (result, t), after)) :
    Underway t after := by
  obtain ⟨history, run⟩ := h.run
  exact ⟨failTransfer_of_play h.calm played, _, run.turn (fun _ _ _ _ => h.calm) played⟩

/-- **A session that ends leaves no board in a bit mode.** -/
theorem drop_run (h : Underway s world) : ∃ t after,
    (Command.drop s).run bus world = (some (.ok (), t), after) ∧
      ∀ board ∈ after.boards, board.mode = 0 := by
  obtain ⟨history, run⟩ := h.run
  obtain ⟨events, t, after, hplay, -, hagrees⟩ := PinBridge.drop_play run.agrees
  refine ⟨t, after, ?_, fun board hmem => ?_⟩
  · rw [← Program.play_run, hplay]
  · exact agrees_none.mp (hagrees fun _ _ _ => h.calm) board.selected (List.mem_map_of_mem hmem)

end Underway

namespace Step

variable {m : Step α} {f : α → Step β} {r : Except Error α} {r' : Except Error β}
  {lines more : List Line}

/-! ### What a step comes to -/

/-- **What a step comes to** on the simulated bus, whatever lines there are before. -/
def Goes (m : Step α) (s : Session) (world : Simulator.State) (r : Except Error α)
    (lines : List Line) (t : Session) (after : Simulator.State) : Prop :=
  ∀ before, Program.run bus (m ⟨s, before⟩) world = (some (r, ⟨t, before ++ lines⟩), after)

namespace Goes

theorem pure (a : α) : Goes (pure a) s world (.ok a) [] s world := by
  intro before
  rw [List.append_nil]
  rfl

theorem emit (line : Line) : Goes (emit line) s world (.ok ()) [line] s world := fun _ => rfl

theorem session : Goes session s world (.ok s) [] s world := by
  intro before
  rw [List.append_nil]
  rfl

/-- **One step after another.** -/
theorem bind {a : α} (hm : Goes m s world (.ok a) lines t mid)
    (hf : Goes (f a) t mid r' more u after) : Goes (m >>= f) s world r' (lines ++ more) u after := by
  intro before
  change Program.run bus ((m ⟨s, before⟩).bind _) world = _
  rw [Program.run_bind, hm before, ← List.append_assoc]
  exact hf (before ++ lines)

/-- A step that fails is the last one. -/
theorem bind_error {e : Error} (hm : Goes m s world (.error e) lines t after) :
    Goes (m >>= f) s world (.error e) lines t after := by
  intro before
  change Program.run bus ((m ⟨s, before⟩).bind _) world = _
  rw [Program.run_bind, hm before]
  rfl

/-- Something is printed or waited for, and then it goes on. -/
theorem emit_bind {line : Line} {f : Unit → Step β} (hf : Goes (f ()) s world r' more t after) :
    Goes (Step.emit line >>= f) s world r' (line :: more) t after :=
  (emit line).bind hf

/-- A call goes as it is played, and the tour is told of the result. -/
theorem attempt {m : Command α} (played : (m s).play bus world = (events, some (r, t), after)) :
    Goes (attempt m) s world (.ok r) [] t after := by
  intro before
  change Program.run bus ((m s).bind _) world = _
  rw [Program.run_bind, ← Program.play_run, played, List.append_nil]
  rfl

/-- **A call goes as it is played.** -/
theorem act {m : Command α} (played : (m s).play bus world = (events, some (r, t), after)) :
    Goes (act m) s world r [] t after := by
  have hgoes : Goes (Step.attempt m >>= fun result => ExceptT.mk (Pure.pure result)) s world r
      ([] ++ []) t after := by
    refine (attempt played).bind fun before => ?_
    rw [List.append_nil]
    rfl
  exact hgoes

/-- A call that is over at once. -/
theorem act_done {m : Command α} (h : m s = .done (r, t)) :
    Goes (Step.act m) s world r [] t world := by
  have played : (m s).play bus world = ([], some (r, t), world) := by
    rw [h]
    rfl
  exact act played

end Goes

/-! ### What all steps keep -/

/-- **A step that keeps the session under way**, whatever it comes to. -/
def Keeps (m : Step α) : Prop :=
  ∀ ⦃s world before r t lines after⦄, Underway s world →
    Program.run bus (m ⟨s, before⟩) world = (some (r, ⟨t, lines⟩), after) → Underway t after

namespace Keeps

theorem pure (a : α) : Keeps (pure a : Step α) := by
  intro s world before r t lines after h hrun
  cases hrun
  exact h

theorem emit (line : Line) : Keeps (emit line) := by
  intro s world before r t lines after h hrun
  cases hrun
  exact h

theorem session : Keeps session := by
  intro s world before r t lines after h hrun
  cases hrun
  exact h

theorem bind (hm : Keeps m) (hf : ∀ a, Keeps (f a)) : Keeps (m >>= f) := by
  intro s world before r u lines after h hrun
  change Program.run bus ((m ⟨s, before⟩).bind _) world = _ at hrun
  rw [Program.run_bind] at hrun
  split at hrun
  · next v mid hfirst =>
    obtain ⟨first, ⟨t, between⟩⟩ := v
    cases first with
    | ok a => exact hf a (hm h hfirst) hrun
    | error e =>
      cases hrun
      exact hm h hfirst
  · cases hrun

theorem attempt (action : Action) : Keeps (attempt action.perform) := by
  intro s world before r u lines after h hrun
  change Program.run bus ((action.perform s).bind _) world = _ at hrun
  rw [Program.run_bind] at hrun
  split at hrun
  · next v mid hfirst =>
    obtain ⟨result, t⟩ := v
    cases hrun
    obtain ⟨events, played⟩ := Program.play_of_run hfirst
    exact h.turn played
  · cases hrun

theorem act (action : Action) : Keeps (act action.perform) := by
  refine (attempt action).bind fun result => ?_
  intro s world before r t lines after h hrun
  cases hrun
  exact h

theorem ite {c : Prop} [Decidable c] {n : Step α} (hm : Keeps m) (hn : Keeps n) :
    Keeps (if c then m else n) := by
  split
  · exact hm
  · exact hn

end Keeps

end Step

open Step

/-! ### The steps of the tour -/

theorem findBoards_keeps : Keeps findBoards := by
  unfold findBoards
  exact .bind (.act (.findAll _ _)) fun found => .ite
    (.bind (.emit _) fun _ => .act (.findAll _ _)) (.pure _)

theorem showStrings_keeps : ∀ (devices : List Descriptor) (i : Nat), Keeps (showStrings i devices)
  | [], i => .pure ()
  | d :: rest, i => by
    unfold showStrings
    exact .bind (.act (.getStrings d)) fun _ => .bind (.emit _) fun _ => showStrings_keeps rest _

theorem walkPins_keeps : ∀ bits : List Nat, Keeps (walkPins bits)
  | [] => .pure ()
  | bit :: rest => by
    unfold walkPins
    exact .bind (.emit _) fun _ => .bind (.act (.writeData _)) fun _ => .bind (.emit _) fun _ =>
      walkPins_keeps rest

theorem showPins_keeps : Keeps showPins := by
  unfold showPins
  exact .bind (.act (.setBitMode _ _)) fun _ => .bind (.emit _) fun _ =>
    .bind (.act (.writeData _)) fun _ => .bind (.emit _) fun _ => .bind (.emit _) fun _ =>
    .bind (.act (.writeData _)) fun _ => .bind (.emit _) fun _ =>
    .bind (walkPins_keeps _) fun _ => .bind (.act .readPins) fun _ => .bind (.emit _) fun _ =>
    .act .disableBitMode

theorem showChipId_keeps : Keeps showChipId := by
  unfold showChipId
  refine .bind (.attempt .readChipId) fun result => ?_
  cases result with
  | ok id => exact .emit _
  | error e => exact .emit _

theorem sayAll_keeps : ∀ lines : List String, Keeps (sayAll lines)
  | [] => .pure ()
  | _ :: rest => .bind (.emit _) fun _ => sayAll_keeps rest

theorem showEeprom_keeps : Keeps showEeprom := by
  unfold showEeprom
  exact .bind (.act (.readEepromWord _)) fun _ => .bind (.emit _) fun _ =>
    .bind (.act .readEeprom) fun _ => .bind .session fun _ => .bind (.emit _) fun _ =>
    .bind (.act (.stagedPart _)) fun _ => sayAll_keeps _

/-- **All stations keep the session under way.** -/
theorem stations_keeps : Keeps stations := by
  unfold stations
  exact .bind findBoards_keeps fun boards => .bind (.emit _) fun _ =>
    .bind (showStrings_keeps _ _) fun _ => .bind (.act (.openIds _ _)) fun _ =>
    .bind (.act .chip) fun _ => .bind (.emit _) fun _ => .bind showPins_keeps fun _ =>
    .bind showChipId_keeps fun _ => .bind showEeprom_keeps fun _ => .bind (.act .close) fun _ =>
    .emit _

end PinBridge.Tour
