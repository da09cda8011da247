import PinBridge.Proofs.Session.Footprint
import PinBridge.Proofs.Simulator.Bus

/-!
# The board that a call reaches

A transfer reaches the board of its handle, unless it is made to fail, and no call reaches any other
board: `getElem?_reply`. What it does there is `applied`, which leaves alone what a board is made of
(`build_applied`), what waits to be read unless the call goes to the receive side (`queue_applied`),
and the pins and the record of what is written unless it drives or transmits (`outputs_applied`).

`Passes` are the states that the events of a play lead through, since handles that are given back
and notes do nothing on the simulated bus.
-/

namespace PinBridge

/-- The position of the board that a call is for. -/
def Call.place? : Call → Option Nat
  | controlOut h .. | controlIn h .. | bulkWrite h .. | bulkRead h .. => some h.id
  | list | strings .. | openDevice .. => none

namespace Simulator

/-- What a call does to the board that it reaches. -/
def applied : Call → Board → Board
  | .controlOut _ request value index _, b => (b.controlOut request value index).2
  | .bulkWrite _ _ data _, b => b.bulkWrite data
  | .bulkRead h _ length _, b => (State.bulkRead h length b).2
  | _, b => b

/-- What a board answers to a call that reaches it. -/
def answered : (c : Call) → Board → Option c.Reply
  | .controlOut _ request value index _, b => some (b.controlOut request value index).1
  | .controlIn _ request _ index length _, b =>
    some ((b.controlIn request index).map (·.take length.toNat))
  | .bulkWrite _ _ data _, _ => some (.ok data.length)
  | .bulkRead h _ length _, b => (State.bulkRead h length b).1
  | .list, _ | .strings .., _ | .openDevice .., _ => none

/-! ### What a call leaves alone -/

namespace Board

/-- What a board is made of, all its state taken away. -/
def build (b : Board) : Board :=
  { b with
    pins := 0
    mask := 0
    mode := 0
    latency := 0
    written := []
    requests := []
    queue := [] }

/-- What a board does with the bytes that are written. -/
def outputs (b : Board) : UInt8 × UInt8 × UInt8 × List UInt8 := (b.pins, b.mask, b.mode, b.written)

/-- The handle of a board at a position. -/
def handle (b : Board) (i : Nat) : Handle := ⟨i, b.descriptor.release, b.hasSerial, b.packetSize⟩

/-- Boards that are made of the same have the same handles. -/
theorem handle_of_build {b b' : Board} (h : b'.build = b.build) (i : Nat) :
    b'.handle i = b.handle i := by
  change b'.build.handle i = b.build.handle i
  rw [h]

end Board

theorem build_applied (c : Call) (b : Board) : (applied c b).build = b.build := by
  cases c with
  | list | strings | openDevice | controlIn => rfl
  | controlOut handle request value index timeout =>
    unfold applied Board.controlOut
    simp only
    split_ifs <;> rfl
  | bulkWrite handle endpoint data timeout =>
    unfold applied Board.bulkWrite
    simp only
    split
    · split_ifs <;> rfl
    · rfl
  | bulkRead handle endpoint length timeout =>
    unfold applied State.bulkRead Board.bulkRead
    simp only
    split_ifs
    · rfl
    · rfl
    · split <;> rfl
    · rfl

/-- What waits to be read is touched by the receive side only. -/
theorem queue_applied {c : Call} (h : c.effect? ≠ some .receive) (b : Board) :
    (applied c b).queue = b.queue := by
  cases c with
  | list | strings | openDevice | controlIn => rfl
  | controlOut handle request value index timeout =>
    unfold applied Board.controlOut
    simp only
    split_ifs with hreset hvalue
    · -- such a request goes to the receive side
      subst hreset
      have heffect : (Call.controlOut handle Request.reset value index timeout).effect? =
          some .receive := by
        have htransmit : value ≠ Request.transmitBuffer := by
          rintro rfl
          revert hvalue
          decide
        exact if_pos ⟨rfl, htransmit⟩
      exact absurd heffect h
    all_goals rfl
  | bulkWrite handle endpoint data timeout =>
    unfold applied Board.bulkWrite
    simp only
    split
    · split_ifs <;> rfl
    · rfl
  | bulkRead handle endpoint length timeout => exact absurd rfl h

/-- The pins and the record of what is written are touched by driving and transmitting only. -/
theorem outputs_applied {c : Call} (hdrive : c.effect? ≠ some .drive)
    (htransmit : c.effect? ≠ some .transmit) (b : Board) :
    (applied c b).outputs = b.outputs := by
  cases c with
  | list | strings | openDevice | controlIn => rfl
  | controlOut handle request value index timeout =>
    have hmode : request ≠ Request.setBitMode := by
      rintro rfl
      exact hdrive rfl
    unfold applied Board.controlOut
    simp only [if_neg hmode]
    split_ifs <;> rfl
  | bulkWrite handle endpoint data timeout => exact absurd rfl htransmit
  | bulkRead handle endpoint length timeout =>
    unfold applied State.bulkRead Board.bulkRead
    simp only
    split_ifs
    · rfl
    · rfl
    · split <;> rfl
    · rfl

/-- The record of what is written is touched by transmitting only. -/
theorem written_applied {c : Call} (h : c.effect? ≠ some .transmit) (b : Board) :
    (applied c b).written = b.written := by
  cases c with
  | list | strings | openDevice | controlIn => rfl
  | controlOut handle request value index timeout =>
    unfold applied Board.controlOut
    simp only
    split_ifs <;> rfl
  | bulkWrite handle endpoint data timeout => exact absurd rfl h
  | bulkRead handle endpoint length timeout =>
    unfold applied State.bulkRead Board.bulkRead
    simp only
    split_ifs
    · rfl
    · rfl
    · split <;> rfl
    · rfl

/-! ### Replies -/

namespace State

variable {c : Call} {s : State} {i : Nat} {b : Board}

/-- Looking devices up and opening one reach no board and take no failure of a transfer. -/
theorem reply_of_no_place (h : c.place? = none) (s : State) :
    (bus.reply c s).2.boards = s.boards ∧ (bus.reply c s).2.failTransfer = s.failTransfer := by
  change ((s.count c).answer c).2.boards = (s.count c).boards ∧
    ((s.count c).answer c).2.failTransfer = (s.count c).failTransfer
  generalize s.count c = s
  cases c with
  | list =>
    change s.list.2.boards = s.boards ∧ s.list.2.failTransfer = s.failTransfer
    unfold list
    split <;> exact ⟨rfl, rfl⟩
  | strings d timeout => exact ⟨rfl, rfl⟩
  | openDevice d interface =>
    change (s.openDevice d).2.boards = s.boards ∧
      (s.openDevice d).2.failTransfer = s.failTransfer
    unfold openDevice
    repeat' split
    all_goals exact ⟨rfl, rfl⟩
  | controlOut | controlIn | bulkWrite | bulkRead => cases h

/-- All other calls are transfers with the board of their handle. -/
theorem reply_of_place (hplace : c.place? = some i) (s : State) : ∃ handle : Handle,
    handle.id = i ∧
      bus.reply c s = (s.count c).transfer handle fun b => (answered c b, applied c b) := by
  cases c with
  | list | strings | openDevice => cases hplace
  | controlOut | controlIn | bulkWrite | bulkRead => exact ⟨_, Option.some.inj hplace, rfl⟩

/-- **A transfer that is not made to fail** is between the call and the board that it reaches. -/
theorem reply_of_board (hplace : c.place? = some i) (hfail : s.failTransfer = none)
    (hb : s.boards[i]? = some b) :
    bus.reply c s = (answered c b, (s.count c).change i fun _ => applied c b) := by
  have hcount : (s.count c).failTransfer = none := hfail
  obtain ⟨handle, rfl, hreply⟩ := reply_of_place hplace s
  rw [hreply]
  exact transfer_of_board hcount hb

/-- A transfer with a board that is not there crashes. -/
theorem reply_of_no_board (hplace : c.place? = some i) (hfail : s.failTransfer = none)
    (hb : s.boards[i]? = none) : bus.reply c s = (none, s.count c) := by
  have hcount : (s.count c).failTransfer = none := hfail
  obtain ⟨handle, rfl, hreply⟩ := reply_of_place hplace s
  rw [hreply]
  exact transfer_of_none hcount hb

/-- A transfer that is made to fail reaches no board. -/
theorem reply_of_injected {failure : Injected} (hplace : c.place? = some i)
    (hfail : s.failTransfer = some failure) :
    bus.reply c s = (some (.error failure.error), { s.count c with failTransfer := none }) := by
  have hcount : (s.count c).failTransfer = some failure := hfail
  obtain ⟨handle, rfl, hreply⟩ := reply_of_place hplace s
  rw [hreply]
  exact transfer_of_fail hcount

/-- The board at a place that is changed. -/
theorem getElem?_change (hb : s.boards[i]? = some b) (f : Board → Board) :
    (s.change i f).boards[i]? = some (f b) :=
  (List.getElem?_modify_eq _ _ _).trans (congrArg _ hb)

/-- **A call reaches the board of its handle** and no other, and that one only if the transfer is
not made to fail. -/
theorem getElem?_reply (c : Call) (s : State) (i : Nat) :
    (bus.reply c s).2.boards[i]? =
      if s.failTransfer = none ∧ c.place? = some i then s.boards[i]?.map (applied c)
      else s.boards[i]? := by
  cases hplace : c.place? with
  | none => rw [(reply_of_no_place hplace s).1, if_neg (by simp)]
  | some k =>
    cases hfail : s.failTransfer with
    | some failure =>
      rw [reply_of_injected hplace hfail, if_neg (by simp)]
      rfl
    | none =>
      cases hb : s.boards[k]? with
      | none =>
        rw [reply_of_no_board hplace hfail hb]
        split
        · next hreached =>
          cases hreached.2
          exact hb.trans (congrArg (Option.map (applied c)) hb).symm
        · rfl
      | some b =>
        rw [reply_of_board hplace hfail hb]
        split
        · next hreached =>
          cases hreached.2
          rw [hb]
          exact getElem?_change (s := s.count c) hb _
        · next hother =>
          exact List.getElem?_modify_ne _ _ fun hk => hother ⟨rfl, congrArg some hk⟩

/-- No call puts a failure in store for the transfers to come. -/
theorem failTransfer_reply (c : Call) (hfail : s.failTransfer = none) :
    (bus.reply c s).2.failTransfer = none := by
  cases hplace : c.place? with
  | none => exact (reply_of_no_place hplace s).2.trans hfail
  | some i =>
    cases hb : s.boards[i]? with
    | none =>
      rw [reply_of_no_board hplace hfail hb]
      exact hfail
    | some b =>
      rw [reply_of_board hplace hfail hb]
      exact hfail

/-- **The handle that is given out** is that of the board at the place of the descriptor. -/
theorem openDevice_ok {after : State} {d : Descriptor} {interface : Interface} {handle : Handle}
    (h : bus.reply (.openDevice d interface) s = (some (.ok handle), after)) :
    s.position d = .ok handle.id ∧
      ∃ b, s.boards[handle.id]? = some b ∧ handle = b.handle handle.id := by
  have hopen : (State.openDevice (s.count (.openDevice d interface)) d).1 = .ok handle :=
    Option.some.inj (congrArg Prod.fst h)
  unfold openDevice at hopen
  split at hopen
  · cases hopen
  · next i hposition =>
    split at hopen
    · cases hopen
    · next b _ hb =>
      cases hopen
      exact ⟨hposition, b, hb, rfl⟩
    · cases hopen

end State

/-- **A view of a board that the allowed calls leave alone** is kept by the bus. -/
theorem bus_keeps_view {δ : Type} {allowed : Call → Prop} {view : Board → δ}
    (h : ∀ c b, allowed c → view (applied c b) = view b) (i : Nat) (v : Option δ) :
    bus.Keeps allowed fun s => s.boards[i]?.map view = v where
  reply c s hc hs := by
    rw [State.getElem?_reply]
    split
    · rw [Option.map_map, ← hs]
      exact congrArg (Option.map · _) (funext fun b => h c b hc)
    · exact hs
  release _ _ hs := hs
  note _ _ hs := hs

/-- The bus puts no failure in store for the transfers to come. -/
theorem bus_keeps_failTransfer {allowed : Call → Prop} :
    bus.Keeps allowed fun s => s.failTransfer = none where
  reply c _ _ hs := State.failTransfer_reply c hs
  release _ _ hs := hs
  note _ _ hs := hs

/-! ### Plays -/

/-- A program puts no failure in store for the transfers to come. -/
theorem failTransfer_of_play {α : Type} {p : Program α} {events : List Event} {value : Option α}
    {world after : State} (calm : world.failTransfer = none)
    (played : p.play bus world = (events, value, after)) : after.failTransfer = none := by
  have hkept := p.asks_true.keeps bus_keeps_failTransfer calm
  rwa [played] at hkept

/-- A program leaves as many boards on the bus as there were. -/
theorem length_of_play {α : Type} {p : Program α} {events : List Event} {value : Option α}
    {world after : State} (played : p.play bus world = (events, value, after)) :
    after.boards.length = world.boards.length := by
  have hkept := p.asks_true.keeps (bus_keeps_length world.boards.length) rfl
  rwa [played] at hkept

/-- **The states that some events lead through.** -/
def Passes : State → List Event → State → Prop
  | s, [], after => after = s
  | s, .asked c reply :: rest, after =>
    ∃ next, bus.reply c s = (some reply, next) ∧ Passes next rest after
  | s, .released _ :: rest, after => Passes s rest after

theorem passes_append {first second : List Event} {after : State} :
    ∀ {s : State}, Passes s (first ++ second) after ↔
      ∃ mid, Passes s first mid ∧ Passes mid second after := by
  induction first with
  | nil =>
    intro s
    exact ⟨fun h => ⟨s, rfl, h⟩, fun ⟨mid, hmid, h⟩ => hmid ▸ h⟩
  | cons event rest ih =>
    intro s
    cases event with
    | asked c reply =>
      constructor
      · rintro ⟨next, hreply, h⟩
        obtain ⟨mid, hfirst, hsecond⟩ := ih.mp h
        exact ⟨mid, ⟨next, hreply, hfirst⟩, hsecond⟩
      · rintro ⟨mid, ⟨next, hreply, hfirst⟩, hsecond⟩
        exact ⟨next, hreply, ih.mpr ⟨mid, hfirst, hsecond⟩⟩
    | released handle => exact ih

/-- **A play passes through its events.** -/
theorem passes_of_play {α : Type} {p : Program α} {events : List Event} {value : α}
    {after : State} : ∀ {s : State}, p.play bus s = (events, some value, after) →
      Passes s events after := by
  induction p generalizing events with
  | done a =>
    intro s h
    cases h
    rfl
  | crash =>
    intro s h
    cases h
  | call c next ih =>
    intro s h
    simp only [Program.play] at h
    split at h
    · next reply world hreply =>
      obtain ⟨rfl, hrest⟩ := Prod.mk.inj h
      exact ⟨world, hreply, ih reply (Prod.ext rfl hrest)⟩
    · cases h
  | release handle rest ih =>
    intro s h
    obtain ⟨hevents, hrest⟩ := Prod.mk.inj h
    subst hevents
    change Passes s (Program.play bus rest s).1 after
    exact ih (Prod.ext rfl hrest)
  | note n rest ih => exact ih

/-- **A course whose replies the bus gives** is the play. -/
theorem play_of_course {α : Type} {p : Program α} {events : List Event} {value : α}
    (course : p.Course events value) {after : State} :
    ∀ {s : State}, Passes s events after → p.play bus s = (events, some value, after) := by
  induction course with
  | done a =>
    intro s h
    cases h
    rfl
  | call reply rest ih =>
    rintro s ⟨next, hreply, h⟩
    simp only [Program.play, hreply, ih h]
    rfl
  | release rest ih =>
    intro s h
    have hrest := ih (s := s) h
    show Prod.map _ id (Program.play bus _ s) = _
    rw [hrest]
    rfl
  | note rest ih => exact ih

end Simulator

end PinBridge
