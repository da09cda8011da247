import Mathlib.Algebra.Ring.Nat
import PinBridge.Proofs.Simulator.Stretch

/-!
# What a session receives from a board

Reading from a simulated board, emptying its receive side, and opening it, as a session does each of
them. A read takes no longer request than whole packets, so that the board never refuses it, and a
payload that has room in a packet comes out as it went in: what is handed out, what is at hand then
and what still waits at the board are together what they were before (`readData_play`). Emptying the
receive side and opening the board leave nothing of either (`forget_reply`, `opening_drains`).
-/

namespace PinBridge

open Simulator Command

/-- The packet size that a session takes a device to have. -/
def Handle.transferSize (handle : Handle) : Nat :=
  handle.packetSize.getD (Chip.ofRelease handle.release handle.hasSerial).packetSize

/-- How much there is to hand out: the bytes at hand, and a packet for each payload that waits. -/
def backlog (pending : List UInt8) (queue : List (List UInt8)) : Nat :=
  pending.length + (queue.map fun payload => payload.length + 1).sum

variable {s t : Session} {world after : State} {d : OpenDevice} {b : Board} {action : Action}
  {events : List Event} {i : Nat}

/-! ### Whole packets -/

/-- A chunk in whole packets has room for a packet at least. -/
theorem wholePackets?_spec {chunk : Nat} (hchunk : 0 < chunk) (size : Nat) (hsize : 0 < size) :
    ∃ asked, wholePackets? chunk size = some asked ∧ size ≤ asked ∧ size ∣ asked := by
  unfold wholePackets?
  rw [if_neg (by omega)]
  refine ⟨_, rfl, ?_, Nat.dvd_mul_left _ _⟩
  exact Nat.le_mul_of_pos_left _ (Nat.div_pos (by omega) hsize)

/-- What a board takes for its packet size divides what a session does. -/
theorem packetSize_dvd (handle : Handle) :
    handle.packetSize.getD State.defaultPacketSize ∣ handle.transferSize := by
  unfold Handle.transferSize
  cases handle.packetSize with
  | some size => exact Nat.dvd_refl _
  | none =>
    change 64 ∣ Chip.packetSize _
    unfold Chip.packetSize
    split <;> decide

/-- A payload that has room in one packet. -/
theorem payload_status_append {size : Nat} {payload : List UInt8} (h : payload.length + 2 ≤ size) :
    Packet.payload size (Board.status ++ payload) = payload := by
  have hlen : (Board.status ++ payload).length = payload.length + 2 := by
    rw [List.length_append]
    exact Nat.add_comm _ _
  rcases payload with _ | ⟨byte, rest⟩
  · exact Packet.payload_of_length_le (Nat.le_refl 2)
  · have hsize : Packet.headerSize < size := by
      change 2 < size
      rw [List.length_cons] at h
      omega
    have happend := Packet.payload_append hsize (.inr ⟨Nat.le_trans (Nat.le_of_eq hlen) h, rfl⟩)
    rw [List.append_nil, Packet.payload_nil, List.append_nil] at happend
    exact happend

/-! ### Replies -/

/-- **A read of whole packets is answered** by the next payload. -/
theorem reply_bulkRead {handle : Handle} {asked : Nat} (endpoint : UInt8) (timeout : Nat)
    (hfail : world.failTransfer = none) (hb : world.boards[handle.id]? = some b)
    (hpos : 0 < asked) (hwhole : handle.packetSize.getD State.defaultPacketSize ∣ asked) :
    ∃ after, bus.reply (.bulkRead handle endpoint asked timeout) world =
        (some (.ok (b.bulkRead asked).1), after) ∧
      after.boards[handle.id]? = some (b.bulkRead asked).2 := by
  have hsize : handle.packetSize.getD State.defaultPacketSize ≠ 0 := by
    intro hzero
    rw [hzero, Nat.zero_dvd] at hwhole
    omega
  have hread : State.bulkRead handle asked b = (some (.ok (b.bulkRead asked).1),
      (b.bulkRead asked).2) := by
    unfold State.bulkRead
    simp only
    rw [if_neg (Nat.ne_of_gt hpos), if_neg hsize, if_pos (Nat.mod_eq_zero_of_dvd hwhole)]
  rw [State.reply_of_board rfl hfail hb]
  simp only [answered, applied, hread]
  exact ⟨_, rfl, State.getElem?_change hb _⟩

/-- A call that does not go to the receive side. -/
theorem board_of_reply {c : Call} {reply : Option c.Reply} (h : bus.reply c world = (reply, after))
    (hc : c.effect? ≠ some .receive) (hb : world.boards[i]? = some b) :
    ∃ b', after.boards[i]? = some b' ∧ b'.build = b.build ∧ b'.queue = b.queue := by
  have hboard := State.getElem?_reply c world i
  rw [h, hb] at hboard
  split at hboard
  · exact ⟨_, hboard, build_applied c b, queue_applied hc b⟩
  · exact ⟨b, hboard, rfl, rfl⟩

/-- **A request to empty the receive side** fails and nothing happens, or nothing is left to be
read. -/
theorem forget_reply {handle : Handle} {value index : UInt16} {timeout : Nat}
    {reply : Except Error Unit} (hvalue : value ∈ [Request.everything, Request.receiveBuffer])
    (hb : world.boards[handle.id]? = some b)
    (h : bus.reply (.controlOut handle Request.reset value index timeout) world =
      (some reply, after)) :
    (∃ e, reply = .error e ∧ after.boards = world.boards) ∨
      reply = .ok () ∧ ∃ b', after.boards[handle.id]? = some b' ∧ b'.build = b.build ∧
        b'.queue = [] := by
  have hdrain : (value = Request.everything || value = Request.receiveBuffer) = true := by
    simpa using hvalue
  cases hfail : world.failTransfer with
  | some failure =>
    rw [State.reply_of_injected rfl hfail] at h
    cases h
    exact .inl ⟨_, rfl, rfl⟩
  | none =>
    obtain ⟨b', happlied, hbuild, hqueue⟩ : ∃ b', b.controlOut Request.reset value index =
        (.ok (), b') ∧ b'.build = b.build ∧ b'.queue = [] := by
      unfold Board.controlOut
      simp only [if_pos, hdrain]
      exact ⟨_, rfl, rfl, rfl⟩
    rw [State.reply_of_board rfl hfail hb] at h
    simp only [answered, applied, happlied] at h
    cases h
    exact .inr ⟨rfl, b', State.getElem?_change hb _, hbuild, hqueue⟩

/-! ### Reading -/

/-- A read that has bytes at hand asks for none. -/
theorem readData_of_pending {length : Nat} (hs : s.link = .opened d) (hpos : 0 < length)
    (hpending : d.pending ≠ []) :
    readData length s = .done (.ok (d.pending.take length),
      { s with link := .opened { d with pending := d.pending.drop length } }) := by
  obtain ⟨options, link, staged⟩ := s
  cases hs
  have hfull : d.pending.isEmpty = false := by simpa using hpending
  unfold readData
  rw [if_neg (Nat.ne_of_gt hpos)]
  change ((if d.pending.isEmpty then _ else _ : Command Unit) _).bind _ = _
  rw [hfull]
  rfl

/-- A read that has none asks for whole packets. -/
theorem readData_of_empty {length asked : Nat} (hs : s.link = .opened d) (hpos : 0 < length)
    (hempty : d.pending = [])
    (hasked : wholePackets? s.options.readChunk (max d.packetSize 1) = some asked) :
    readData length s =
      .call (.bulkRead d.handle d.channel.inEndpoint asked s.options.readTimeout) fun
        | .error e => .done (.error e, s)
        | .ok reply => .done (.ok ((Packet.payload d.packetSize reply).take length),
          { s with link := .opened { d with
            pending := (Packet.payload d.packetSize reply).drop length } }) := by
  obtain ⟨options, link, staged⟩ := s
  cases hs
  unfold readData
  rw [if_neg (Nat.ne_of_gt hpos)]
  change ((if d.pending.isEmpty then _ else _ : Command Unit) _).bind _ = _
  rw [hempty]
  change ((need (wholePackets? _ _) >>= _ : Command Unit) _).bind _ = _
  rw [hasked]
  refine congrArg (Program.call _) (funext fun reply => ?_)
  cases reply with
  | error e => rfl
  | ok data =>
    simp only [← Packet.take_strip]
    rfl

/-- **A packet brings the next payload**, if it has room for it. -/
theorem bulkRead_payload {size asked : Nat} (hroom : size ≤ asked)
    (hfits : ∀ payload ∈ b.queue, payload.length + 2 ≤ size) :
    Packet.payload size (b.bulkRead asked).1 ++ (b.bulkRead asked).2.queue.flatten =
        b.queue.flatten ∧
      (b.bulkRead asked).2.build = b.build ∧
      (∀ payload ∈ (b.bulkRead asked).2.queue, payload ∈ b.queue) ∧
      backlog (Packet.payload size (b.bulkRead asked).1) (b.bulkRead asked).2.queue ≤
        backlog [] b.queue - 1 := by
  unfold Board.bulkRead
  cases hqueue : b.queue with
  | nil =>
    have hnothing : Packet.payload size (Board.status.take asked) = [] :=
      Packet.payload_of_length_le (List.length_take_le' _ _)
    simp only [hnothing, hqueue]
    exact ⟨rfl, trivial, fun _ h => h, Nat.le_refl _⟩
  | cons payload rest =>
    have hpayload : payload.length + 2 ≤ size := hfits payload (hqueue ▸ List.mem_cons_self)
    have hwhole : (Board.status ++ payload).take asked = Board.status ++ payload := by
      refine List.take_of_length_le ?_
      rw [List.length_append]
      change 2 + payload.length ≤ asked
      omega
    simp only [hwhole, payload_status_append hpayload]
    refine ⟨List.flatten_cons.symm, rfl, fun _ h => List.mem_cons_of_mem _ h, ?_⟩
    unfold backlog
    rw [List.map_cons, List.sum_cons, List.length_nil]
    omega

/-- **A read from a board** ends: with an error only if the transfer is made to fail, and then
nothing has happened. Else what it hands out, what is at hand then and what still waits are what
was there before, and the backlog has become smaller. -/
theorem readData_play {length : Nat} (hs : s.link = .opened d)
    (hb : world.boards[d.handle.id]? = some b) (hsize : d.packetSize = d.handle.transferSize)
    (hlarge : 3 ≤ d.packetSize) (hfits : ∀ payload ∈ b.queue, payload.length + 2 ≤ d.packetSize)
    (usable : s.options.Usable) (hpos : 0 < length) :
    ∃ events r t after, (readData length s).play bus world = (events, some (r, t), after) ∧
      ((∃ failure, world.failTransfer = some failure ∧ r = .error failure.error ∧ t = s ∧
        after.boards = world.boards) ∨
      ∃ bytes pending b', r = .ok bytes ∧ t = { s with link := .opened { d with pending } } ∧
        after.boards[d.handle.id]? = some b' ∧ b'.build = b.build ∧
        (∀ payload ∈ b'.queue, payload ∈ b.queue) ∧
        bytes ++ pending ++ b'.queue.flatten = d.pending ++ b.queue.flatten ∧
        backlog pending b'.queue ≤ backlog d.pending b.queue - 1) := by
  by_cases hpending : d.pending = []
  · obtain ⟨asked, hasked, hroom, hwhole⟩ :=
      wholePackets?_spec usable.1 (max d.packetSize 1) (by omega)
    rw [Nat.max_eq_left (by omega)] at hroom hwhole
    rw [readData_of_empty hs hpos hpending hasked]
    simp only [Program.play]
    cases hfail : world.failTransfer with
    | some failure =>
      rw [State.reply_of_injected rfl hfail]
      exact ⟨_, _, _, _, rfl, .inl ⟨failure, rfl, rfl, rfl, rfl⟩⟩
    | none =>
      obtain ⟨after, hreply, hafter⟩ := reply_bulkRead d.channel.inEndpoint
        s.options.readTimeout hfail hb (show 0 < asked by omega)
        (Nat.dvd_trans (packetSize_dvd d.handle) (hsize ▸ hwhole))
      obtain ⟨hflow, hbuild, hsub, hback⟩ := bulkRead_payload hroom hfits
      rw [hreply]
      refine ⟨_, _, _, after, rfl, .inr ⟨_, _, _, rfl, rfl, hafter, hbuild, hsub, ?_, ?_⟩⟩
      · rw [List.take_append_drop, hflow, hpending, List.nil_append]
      · refine Nat.le_trans (Nat.add_le_add_right ?_ _) (hpending ▸ hback)
        rw [List.length_drop]
        exact Nat.sub_le _ _
  · rw [readData_of_pending hs hpos hpending]
    refine ⟨_, _, _, _, rfl, .inr ⟨_, _, b, rfl, rfl, hb, rfl, fun _ h => h, ?_, ?_⟩⟩
    · rw [List.take_append_drop]
    · have hlen := List.length_pos_of_ne_nil hpending
      unfold backlog
      rw [List.length_drop]
      omega

/-! ### Emptying the receive side -/

/-- What a request to empty the receive side comes to. -/
theorem forget_drains {value : UInt16} {r : Except Error Unit}
    (hvalue : value ∈ [Request.everything, Request.receiveBuffer]) (hs : s.link = .opened d)
    (hb : world.boards[d.handle.id]? = some b)
    (h : (controlOut Request.reset value >>= fun _ => forgetPending).Course s events r t)
    (passes : Passes world events after) :
    (∃ e, r = .error e ∧ t = s ∧ after.boards = world.boards ∧
        events.any Event.emptiesReceive = false) ∨
      r = .ok () ∧ t = { s with link := .opened { d with pending := [] } } ∧
        (∃ b', after.boards[d.handle.id]? = some b' ∧ b'.build = b.build ∧ b'.queue = []) ∧
        events.any Event.emptiesReceive = (value == Request.receiveBuffer) := by
  have hc := controlOut_update_course.mp h
  rw [hs] at hc
  rcases hc with ⟨e, rfl, rfl, rfl⟩ | ⟨a, rfl, rfl, rfl⟩
  · obtain ⟨next, hreply, rfl⟩ := passes
    rcases forget_reply hvalue hb hreply with ⟨e', -, hboards⟩ | ⟨hok, -⟩
    · exact .inl ⟨e, rfl, rfl, hboards, rfl⟩
    · cases hok
  · obtain ⟨next, hreply, rfl⟩ := passes
    rcases forget_reply hvalue hb hreply with ⟨e', herror, -⟩ | ⟨-, hdrained⟩
    · cases herror
    · exact .inr ⟨rfl, rfl, hdrained, Bool.or_false _⟩

/-- **A call that empties the receive side** leaves nothing at hand and nothing at the board, or
else nothing has happened. -/
theorem flushing_drains {r : Except Error action.Result}
    (haction : action ∈ [.reset, .purgeReceive, .purge]) (hs : s.link = .opened d)
    (hb : world.boards[d.handle.id]? = some b)
    (played : (action.perform s).play bus world = (events, some (r, t), after)) :
    ((Turn.mk action events r).flushes = false ∧ t = s ∧ after.boards = world.boards) ∨
      (Turn.mk action events r).flushes = true ∧
        t = { s with link := .opened { d with pending := [] } } ∧
        ∃ b', after.boards[d.handle.id]? = some b' ∧ b'.build = b.build ∧ b'.queue = [] := by
  have course := Program.course_of_play played
  have passes := passes_of_play played
  simp only [List.mem_cons, List.not_mem_nil, or_false] at haction
  rcases haction with rfl | rfl | rfl
  · rcases forget_drains (by decide) hs hb course passes with
      ⟨e, rfl, rfl, hboards, -⟩ | ⟨rfl, rfl, hdrained, -⟩
    · exact .inl ⟨rfl, rfl, hboards⟩
    · exact .inr ⟨rfl, rfl, hdrained⟩
  · rcases forget_drains (by decide) hs hb course passes with
      ⟨e, rfl, rfl, hboards, -⟩ | ⟨rfl, rfl, hdrained, -⟩
    · exact .inl ⟨rfl, rfl, hboards⟩
    · exact .inr ⟨rfl, rfl, hdrained⟩
  · -- a purge empties the receive side with its first half, whatever comes of the second
    rcases course_bind.mp course with ⟨e, h₁, rfl⟩ | ⟨_, first, s₁, second, h₁, h₂, rfl⟩
    · rcases forget_drains (by decide) hs hb h₁ passes with
        ⟨e, -, rfl, hboards, hempties⟩ | ⟨he, -⟩
      · exact .inl ⟨hempties, rfl, hboards⟩
      · cases he
    · obtain ⟨mid, hfirst, hsecond⟩ := passes_append.mp passes
      rcases forget_drains (by decide) hs hb h₁ hfirst with
        ⟨e, he, -⟩ | ⟨-, rfl, ⟨b₁, hb₁, hbuild₁, hqueue₁⟩, hempties⟩
      · cases he
      · obtain ⟨rfl, -⟩ := purgeTransmit_observes h₂
        unfold purgeTransmit controlOut at h₂
        simp only [device_bind, session_bind, course_ask] at h₂
        obtain ⟨rfl, -⟩ := h₂
        obtain ⟨next, hreply, rfl⟩ := hsecond
        obtain ⟨b₂, hb₂, hbuild₂, hqueue₂⟩ :=
          board_of_reply hreply (by intro h; cases h) hb₁
        refine .inr ⟨?_, rfl, b₂, hb₂, hbuild₂.trans hbuild₁, hqueue₂.trans hqueue₁⟩
        change (first ++ _).any Event.emptiesReceive = true
        rw [List.any_append, hempties]
        rfl

/-! ### Opening -/

/-- The board is made of the same after any events. -/
theorem board_of_passes (passes : Passes world events after) (hb : world.boards[i]? = some b) :
    ∃ b', after.boards[i]? = some b' ∧ b'.build = b.build := by
  induction events generalizing world b with
  | nil =>
    cases passes
    exact ⟨b, hb, rfl⟩
  | cons event rest ih =>
    cases event with
    | released handle => exact ih passes hb
    | asked c reply =>
      obtain ⟨next, hreply, hrest⟩ := passes
      have hboard := State.getElem?_reply c world i
      rw [hreply, hb] at hboard
      obtain ⟨b₁, hb₁, hbuild₁⟩ : ∃ b₁, next.boards[i]? = some b₁ ∧ b₁.build = b.build := by
        split at hboard
        · exact ⟨_, hboard, build_applied c b⟩
        · exact ⟨b, hboard, rfl⟩
      obtain ⟨b₂, hb₂, hbuild₂⟩ := ih hrest hb₁
      exact ⟨b₂, hb₂, hbuild₂.trans hbuild₁⟩

/-- **A board that has been opened** has nothing to be read, and neither has the session. -/
theorem opening_drains {a : action.Result} (opening : action.isOpening)
    (played : (action.perform s).play bus world = (events, some (.ok a, t), after))
    (own : ∀ d, t.link = .opened d → d.handle.id = i) (hb : world.boards[i]? = some b) :
    ∃ d b', t.link = .opened d ∧ d.handle = b.handle i ∧
      d.packetSize = (b.handle i).transferSize ∧ d.pending = [] ∧
      after.boards[i]? = some b' ∧ b'.build = b.build ∧ b'.queue = [] := by
  obtain ⟨front, rest, device, rfl, hopening⟩ :=
    perform_endsInOpening opening (Program.course_of_play played)
  obtain ⟨mid, hfront, hrest⟩ := passes_append.mp (passes_of_play played)
  obtain ⟨b₀, hb₀, hbuild₀⟩ := board_of_passes hfront hb
  cases hopening with
  | @opened handle setting closed hset =>
    obtain ⟨s₁, hopen, s₂, hreset, s₃, hrate, rfl⟩ := hrest
    obtain ⟨-, b₁, hb₁, hhandle⟩ := State.openDevice_ok hopen
    have hid : handle.id = i := own _ rfl
    rw [hid] at hb₁ hhandle
    cases hb₀.symm.trans hb₁
    have hs₁ : s₁.boards[handle.id]? = some b₀ := by
      have hboard := State.getElem?_reply (.openDevice device s.options.interface) mid handle.id
      rw [hopen, if_neg (by simp [Call.place?])] at hboard
      rw [hboard, hid]
      exact hb₁
    rcases forget_reply (by decide) hs₁ hreset with ⟨e, he, -⟩ | ⟨-, b₂, hb₂, hbuild₂, hqueue₂⟩
    · cases he
    · obtain ⟨b₃, hb₃, hbuild₃, hqueue₃⟩ := board_of_reply hrate (fun h => nomatch h) hb₂
      have hsame := Board.handle_of_build hbuild₀ i
      refine ⟨_, b₃, rfl, hhandle.trans hsame, ?_, rfl, hid ▸ hb₃,
        (hbuild₃.trans hbuild₂).trans hbuild₀, hqueue₃.trans hqueue₂⟩
      rw [← hsame, ← hhandle]
      rfl

end PinBridge
