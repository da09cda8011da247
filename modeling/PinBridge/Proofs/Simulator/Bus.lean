import Mathlib.Tactic.SplitIfs
import PinBridge.Proofs.Session.Orderly
import PinBridge.Simulator.Bus

/-!
# What the simulated bus does with its boards

The bit modes that the boards of a simulated bus have selected are a view of its state
(`State.selected`): for each board its mode and its mask. A call that asks for no bit mode keeps it
(`selected_reply`), and one that does sets it for the board of its handle (`reply_setBitMode`)
unless it is made to fail (`reply_injected`). No call adds a board or takes one away
(`length_reply`), so that a handle stays good once it has been given out (`handle_lt_length`).
-/

namespace PinBridge.Simulator

/-- The bit mode that a board has selected, and its mask. -/
def Board.selected (b : Board) : UInt8 × UInt8 := (b.mode, b.mask)

namespace State

/-- The bit modes and masks of all boards, by position. -/
def selected (s : State) : List (UInt8 × UInt8) := s.boards.map Board.selected

variable {α : Type} {s : State} {h : Handle}

theorem getElem?_selected (s : State) (i : Nat) :
    s.selected[i]? = s.boards[i]?.map Board.selected := List.getElem?_map

theorem length_selected (s : State) : s.selected.length = s.boards.length := List.length_map _

theorem selected_change (s : State) (i : Nat) (b : Board) :
    (s.change i fun _ => b).selected = s.selected.set i b.selected := by
  have : Inhabited Board := ⟨b⟩
  unfold selected change
  rw [List.modify_eq_set, List.map_set]

/-! ### Transfers -/

variable {f : Board → Option (Except Error α) × Board}

theorem transfer_of_fail {failure : Injected} (hfail : s.failTransfer = some failure) :
    s.transfer h f = (some (.error failure.error), { s with failTransfer := none }) := by
  unfold transfer
  rw [hfail]

theorem transfer_of_board {b : Board} (hfail : s.failTransfer = none)
    (hb : s.boards[h.id]? = some b) :
    s.transfer h f = ((f b).1, s.change h.id fun _ => (f b).2) := by
  unfold transfer
  simp only [hfail, hb]

theorem transfer_of_none (hfail : s.failTransfer = none) (hb : s.boards[h.id]? = none) :
    s.transfer h f = (none, s) := by
  unfold transfer
  simp only [hfail, hb]

/-- A board that keeps its bit mode in a transfer. -/
theorem selected_transfer (hf : ∀ b, (f b).2.selected = b.selected) :
    (s.transfer h f).2.selected = s.selected := by
  cases hfail : s.failTransfer with
  | some failure =>
    rw [transfer_of_fail hfail]
    rfl
  | none =>
    cases hb : s.boards[h.id]? with
    | none => rw [transfer_of_none hfail hb]
    | some b =>
      rw [transfer_of_board hfail hb, selected_change, hf]
      have hkept : s.selected[h.id]? = some b.selected := by
        rw [getElem?_selected, hb]
        rfl
      obtain ⟨hlt, hget⟩ := List.getElem?_eq_some_iff.mp hkept
      rw [← hget]
      exact List.set_getElem_self hlt

theorem length_transfer : (s.transfer h f).2.boards.length = s.boards.length := by
  cases hfail : s.failTransfer with
  | some failure => rw [transfer_of_fail hfail]
  | none =>
    cases hb : s.boards[h.id]? with
    | none => rw [transfer_of_none hfail hb]
    | some b =>
      rw [transfer_of_board hfail hb]
      exact List.length_modify _ _ _

end State

namespace Board

variable (b : Board)

/-- A control request that asks for no bit mode. -/
theorem selected_controlOut {request : UInt8} (hrequest : request ≠ Request.setBitMode)
    (value index : UInt16) : (b.controlOut request value index).2.selected = b.selected := by
  unfold controlOut
  simp only [if_neg hrequest]
  split_ifs <;> rfl

theorem selected_bulkWrite (data : List UInt8) : (b.bulkWrite data).selected = b.selected := by
  unfold bulkWrite
  split
  · simp only
    split_ifs <;> rfl
  · rfl

theorem selected_bulkRead (length : Nat) : (b.bulkRead length).2.selected = b.selected := by
  unfold bulkRead
  split <;> rfl

end Board

/-! ### Replies -/

namespace State

variable {s : State}

theorem selected_bulkRead (h : Handle) (length : Nat) (b : Board) :
    (bulkRead h length b).2.selected = b.selected := by
  unfold bulkRead
  simp only
  split_ifs
  · rfl
  · rfl
  · exact b.selected_bulkRead length
  · rfl

/-- **A call that asks for no bit mode changes none.** -/
theorem selected_reply {c : Call} (hc : c.selectsMode = false) (s : State) :
    (bus.reply c s).2.selected = s.selected := by
  change ((s.count c).answer c).2.selected = (s.count c).selected
  generalize s.count c = s
  cases c with
  | list =>
    change s.list.2.selected = s.selected
    unfold list
    split <;> rfl
  | strings d timeout => rfl
  | openDevice d interface =>
    change (s.openDevice d).2.selected = s.selected
    unfold openDevice
    repeat' split
    all_goals rfl
  | controlOut h request value index timeout =>
    exact selected_transfer fun b =>
      b.selected_controlOut (beq_eq_false_iff_ne.mp hc) value index
  | controlIn h request value index length timeout => exact selected_transfer fun b => rfl
  | bulkWrite h endpoint data timeout => exact selected_transfer fun b => b.selected_bulkWrite data
  | bulkRead h endpoint length timeout => exact selected_transfer (selected_bulkRead h length)

theorem length_reply (c : Call) (s : State) :
    (bus.reply c s).2.boards.length = s.boards.length := by
  change ((s.count c).answer c).2.boards.length = (s.count c).boards.length
  generalize s.count c = s
  cases c with
  | list =>
    change s.list.2.boards.length = s.boards.length
    unfold list
    split <;> rfl
  | strings d timeout => rfl
  | openDevice d interface =>
    change (s.openDevice d).2.boards.length = s.boards.length
    unfold openDevice
    repeat' split
    all_goals rfl
  | controlOut | controlIn | bulkWrite | bulkRead => exact length_transfer

/-- A handle that is given out is that of a board. -/
theorem handle_lt_length {d : Descriptor} {interface : Interface} {handle : Handle} {after : State}
    (hreply : bus.reply (.openDevice d interface) s = (some (.ok handle), after)) :
    handle.id < s.boards.length := by
  have hopen : (State.openDevice (s.count (.openDevice d interface)) d).1 = .ok handle :=
    Option.some.inj (congrArg Prod.fst hreply)
  unfold openDevice at hopen
  split at hopen
  · cases hopen
  · split at hopen
    · cases hopen
    · next b _ hb =>
      cases hopen
      exact (List.getElem?_eq_some_iff.mp hb).1
    · cases hopen

variable {h : Handle} {value index : UInt16} {timeout : Nat}

theorem reply_controlOut (s : State) (h : Handle) (request : UInt8) (value index : UInt16)
    (timeout : Nat) :
    bus.reply (.controlOut h request value index timeout) s =
      (s.count (.controlOut h request value index timeout)).transfer h fun b =>
        Prod.map some id (b.controlOut request value index) := rfl

/-- A request for a bit mode that is made to fail changes nothing but the failures to come. -/
theorem reply_injected {failure : Injected} (hfail : s.failTransfer = some failure) :
    ∃ after, bus.reply (.controlOut h Request.setBitMode value index timeout) s =
        (some (.error failure.error), after) ∧ after.selected = s.selected := by
  rw [reply_controlOut]
  exact ⟨_, transfer_of_fail hfail, rfl⟩

/-- **A request for a bit mode is granted otherwise**, and selects it on the board of the handle:
the mode is in the high byte, the mask in the low one. -/
theorem reply_setBitMode (hfail : s.failTransfer = none) (hlt : h.id < s.boards.length) :
    ∃ after, bus.reply (.controlOut h Request.setBitMode value index timeout) s =
        (some (.ok ()), after) ∧
      after.selected = s.selected.set h.id ((value >>> 8).toUInt8, value.toUInt8) := by
  rw [reply_controlOut]
  exact ⟨_, transfer_of_board hfail (List.getElem?_eq_getElem hlt), selected_change _ _ _⟩

end State

/-- The bus keeps the bit modes as long as none is asked for. -/
theorem bus_keeps_selected (selected : List (UInt8 × UInt8)) :
    bus.Keeps (fun c => c.selectsMode = false) fun s => s.selected = selected where
  reply _ s hc hs := (s.selected_reply hc).trans hs
  release _ _ hs := hs
  note _ _ hs := hs

/-- The bus keeps the number of its boards. -/
theorem bus_keeps_length (n : Nat) :
    bus.Keeps (fun _ => True) fun s => s.boards.length = n where
  reply _ s _ hs := (s.length_reply _).trans hs
  release _ _ hs := hs
  note _ _ hs := hs

end PinBridge.Simulator
