import PinBridge.Proofs.Simulator.Reach

/-!
# A bus without failures

While no failure is in store (`State.Calm`) a call counts itself and changes the board that it
reaches, and nothing else (`Calm.reply`). What it is answered then rests on the board that it
reaches and on what all boards are made of, and on nothing else of the bus (`Calm.reply_congr`). No
call changes what the boards are made of (`build_reply`), so that a descriptor leads to the same
board throughout; if the addresses are those under which boards are added, it is the board that the
descriptor was enumerated for (`position_of_numbered`).
-/

namespace PinBridge.Simulator

/-! ### Counts -/

namespace Tally

/-- Two counts together. -/
def plus (t u : Tally) : Tally where
  list := t.list + u.list
  strings := t.strings + u.strings
  openDevice := t.openDevice + u.openDevice
  controlOut := t.controlOut + u.controlOut
  controlIn := t.controlIn + u.controlIn
  bulkWrite := t.bulkWrite + u.bulkWrite
  bulkRead := t.bulkRead + u.bulkRead

variable {t t' u : Tally}

theorem plus_comm (t u : Tally) : t.plus u = u.plus t := by
  simp only [plus, Nat.add_comm]

theorem add_plus (t u : Tally) (c : Call) : (t.add c).plus u = (t.plus u).add c := by
  cases c <;> simp only [add, plus, Nat.add_right_comm]

theorem eq_of_plus (h : t.plus u = t'.plus u) : t = t' := by
  simp only [plus, mk.injEq, Nat.add_right_cancel_iff] at h
  cases t
  cases t'
  simpa only [mk.injEq] using h

end Tally

namespace State

/-- **No failure is in store.** -/
structure Calm (s : State) : Prop where
  opens : s.failOpens = 0
  lists : s.failLists = 0
  strings : s.failStrings = false
  transfers : s.failTransfer = none

variable {s t : State} {c : Call} {i : Nat}

/-! ### Descriptors -/

/-- Boards that are made of the same are at the same places. -/
theorem position_of_build (h : t.boards.map Board.build = s.boards.map Board.build)
    (d : Descriptor) : t.position d = s.position d := by
  have hfind : ∀ boards : List Board,
      (boards.findIdx? fun b => b.descriptor.isAt d.bus d.address) =
        (boards.map Board.build).findIdx? fun b => b.descriptor.isAt d.bus d.address := by
    intro boards
    rw [List.findIdx?_map]
    rfl
  unfold position
  rw [hfind, h, ← hfind]

/-- **The boards are numbered** as they are when they are added to a bus. -/
def Numbered (s : State) : Prop :=
  ∀ i b, s.boards[i]? = some b → b.descriptor.address = UInt8.ofNat i + 1

/-- **An enumerated descriptor leads to its board**, if there are addresses for all. -/
theorem position_of_numbered {b : Board} (numbered : s.Numbered) (few : s.boards.length ≤ 255)
    (hb : s.boards[i]? = some b) : s.position b.descriptor = .ok i := by
  obtain ⟨hi, hget⟩ := List.getElem?_eq_some_iff.mp hb
  have hfind : (s.boards.findIdx? fun b' =>
      b'.descriptor.isAt b.descriptor.bus b.descriptor.address) = some i := by
    refine List.findIdx?_eq_some_iff_getElem.mpr ⟨hi, by simp [hget, Descriptor.isAt], ?_⟩
    intro j hj hat
    -- an earlier board has a smaller address
    have hjb := numbered j _ (List.getElem?_eq_getElem (Nat.lt_trans hj hi))
    have haddress : UInt8.ofNat j + 1 = UInt8.ofNat i + 1 := by
      rw [← hjb, ← numbered i b hb]
      exact eq_of_beq (Bool.and_eq_true_iff.mp hat).2
    have hnat := congrArg UInt8.toNat haddress
    simp only [UInt8.toNat_add, UInt8.toNat_ofNat', UInt8.toNat_one] at hnat
    omega
  unfold position
  rw [hfind]

theorem Numbered.add (h : s.Numbered) (b : Board) : (s.add b).Numbered := by
  intro i b' hb'
  change (s.boards ++ [_])[i]? = some b' at hb'
  rcases Nat.lt_or_ge i s.boards.length with hi | hi
  · rw [List.getElem?_append_left hi] at hb'
    exact h i b' hb'
  · rw [List.getElem?_append_right hi] at hb'
    cases hindex : i - s.boards.length with
    | zero =>
      have hi : i = s.boards.length := Nat.le_antisymm (Nat.sub_eq_zero_iff_le.mp hindex) hi
      rw [hindex] at hb'
      cases hb'
      rw [hi]
    | succ n =>
      rw [hindex] at hb'
      cases hb'

/-- A bus to which boards are added numbers them. -/
theorem numbered_ofBoards (boards : List Board) : (ofBoards boards).Numbered := by
  have hfold : ∀ s : State, s.Numbered → (boards.foldl State.add s).Numbered := by
    induction boards with
    | nil => exact fun s h => h
    | cons b rest ih => exact fun s h => ih _ (h.add b)
  exact hfold empty fun i b hb => by cases hb

/-! ### Replies -/

/-- No call changes what the boards are made of. -/
theorem build_reply (c : Call) (s : State) :
    (bus.reply c s).2.boards.map Board.build = s.boards.map Board.build := by
  refine List.ext_getElem? fun i => ?_
  rw [List.getElem?_map, List.getElem?_map, getElem?_reply]
  split
  · rw [Option.map_map]
    exact congrArg (Option.map · _) (funext (build_applied c))
  · rfl

/-- **A call counts itself and changes boards**, and nothing else. -/
theorem Calm.reply (h : s.Calm) (c : Call) :
    ∃ boards, (bus.reply c s).2 = { s with boards, calls := s.calls.add c } := by
  cases c with
  | list =>
    change ∃ boards, (s.count .list).list.2 = _
    unfold list
    rw [show (s.count .list).failLists = 0 from h.lists]
    exact ⟨_, rfl⟩
  | strings => exact ⟨_, rfl⟩
  | openDevice d interface =>
    change ∃ boards, ((s.count (.openDevice d interface)).openDevice d).2 = _
    unfold openDevice
    rw [show (s.count (.openDevice d interface)).failOpens = 0 from h.opens]
    repeat' split
    all_goals first | exact ⟨_, rfl⟩ | contradiction
  | controlOut handle | controlIn handle | bulkWrite handle | bulkRead handle =>
    cases hb : s.boards[handle.id]? with
    | none => exact ⟨_, congrArg Prod.snd (reply_of_no_board rfl h.transfers hb)⟩
    | some b => exact ⟨_, congrArg Prod.snd (reply_of_board rfl h.transfers hb)⟩

theorem Calm.after_reply (h : s.Calm) (c : Call) : (bus.reply c s).2.Calm := by
  obtain ⟨boards, hafter⟩ := h.reply c
  rw [hafter]
  exact ⟨h.opens, h.lists, h.strings, h.transfers⟩

theorem Calm.calls_reply (h : s.Calm) (c : Call) : (bus.reply c s).2.calls = s.calls.add c := by
  obtain ⟨boards, hafter⟩ := h.reply c
  rw [hafter]

section

variable (hs : s.Calm) (ht : t.Calm) (hbuild : t.boards.map Board.build = s.boards.map Board.build)

include hbuild in
/-- At each place there are boards that are made of the same, or none. -/
theorem boards_of_build (i : Nat) : (s.boards[i]? = none ∧ t.boards[i]? = none) ∨
    ∃ b b', s.boards[i]? = some b ∧ t.boards[i]? = some b' ∧ b'.build = b.build := by
  have hget : t.boards[i]?.map Board.build = s.boards[i]?.map Board.build := by
    rw [← List.getElem?_map, hbuild, List.getElem?_map]
  cases hs : s.boards[i]? with
  | none => exact .inl ⟨rfl, Option.map_eq_none_iff.mp (hs ▸ hget)⟩
  | some b =>
    obtain ⟨b', hb', heq⟩ := Option.map_eq_some_iff.mp (hs ▸ hget)
    exact .inr ⟨b, b', rfl, hb', heq⟩

include hs ht hbuild

theorem Calm.list_congr : t.list.1 = s.list.1 := by
  have hlist : ∀ {u : State}, u.Calm →
      u.list.1 = .ok ((u.boards.map Board.build).map fun b => b.descriptor) := by
    intro u hu
    unfold list
    rw [hu.lists, List.map_map]
    rfl
  rw [hlist hs, hlist ht, hbuild]

theorem Calm.strings_congr (d : Descriptor) : t.strings d = s.strings d := by
  unfold State.strings
  rw [position_of_build hbuild, hs.strings, ht.strings]
  cases s.position d with
  | error e => rfl
  | ok i =>
    dsimp only
    rcases boards_of_build hbuild i with ⟨hb, hb'⟩ | ⟨b, b', hb, hb', heq⟩
    · rw [hb, hb']
    · have hstrings : b'.strings = b.strings := congrArg (fun build => build.strings) heq
      simp only [hb, hb', hstrings]

theorem Calm.openDevice_congr (d : Descriptor) : (t.openDevice d).1 = (s.openDevice d).1 := by
  unfold openDevice
  rw [position_of_build hbuild, hs.opens, ht.opens]
  cases s.position d with
  | error e => rfl
  | ok i =>
    dsimp only
    rcases boards_of_build hbuild i with ⟨hb, hb'⟩ | ⟨b, b', hb, hb', heq⟩
    · rw [hb, hb']
    · have hhandle : b'.handle i = b.handle i := Board.handle_of_build heq i
      rw [hb, hb']
      exact congrArg Except.ok hhandle

/-- **What a call is answered** rests on what the boards are made of and on the board it reaches. -/
theorem Calm.reply_congr (hboard : ∀ i, c.place? = some i → t.boards[i]? = s.boards[i]?) :
    (bus.reply c t).1 = (bus.reply c s).1 := by
  have hs' : (s.count c).Calm := ⟨hs.opens, hs.lists, hs.strings, hs.transfers⟩
  have ht' : (t.count c).Calm := ⟨ht.opens, ht.lists, ht.strings, ht.transfers⟩
  cases c with
  | list => exact congrArg some (hs'.list_congr ht' hbuild)
  | strings d => exact congrArg some (hs'.strings_congr ht' hbuild d)
  | openDevice d => exact congrArg some (hs'.openDevice_congr ht' hbuild d)
  | controlOut h | controlIn h | bulkWrite h | bulkRead h =>
    have hsame : t.boards[h.id]? = s.boards[h.id]? := hboard h.id rfl
    cases hb : s.boards[h.id]? with
    | some b =>
      rw [reply_of_board rfl hs.transfers hb, reply_of_board rfl ht.transfers (hsame.trans hb)]
    | none =>
      rw [reply_of_no_board rfl hs.transfers hb,
        reply_of_no_board rfl ht.transfers (hsame.trans hb)]

end

end State

end PinBridge.Simulator
