import PinBridge.Proofs.Simulator.Pins
import PinBridge.Proofs.Simulator.Receiving

/-!
# First in, first out

What a session hands out of the payloads that arrive at its board comes in the order in which they
have arrived, from the last time on that the receive side was emptied: a board opened, reset or
purged (`received_in_order`). Bytes wait in two places, at hand in the session and at the board, and
whatever empties the receive side clears both.

The invariant of a stretch is `Flowing`: while a device is open, the bytes handed out, those at hand
and those at the board are together what has arrived. A turn on an open device keeps it
(`Online.moves`), and so does one that opens a device (`offline_turn`). Each successful read makes
the backlog smaller while there is one, so that finitely many of them hand out all there is.
-/

namespace PinBridge

open Simulator Command

/-! ### Accounts -/

namespace Moment

/-- The receive side has been emptied. -/
def flushes : Moment → Bool
  | .turn t => t.flushes
  | arrival _ => false

/-- The bytes that have been handed out. -/
def returned : Moment → List UInt8
  | .turn t => t.returned
  | arrival _ => []

/-- The bytes that have arrived. -/
def arrived : Moment → List UInt8
  | turn _ => []
  | arrival payload => payload

/-- A read has succeeded that was to hand out something. -/
def reads : Moment → Bool
  | turn ⟨.readData length, _, .ok _⟩ => 0 < length
  | _ => false

/-- Nothing has arrived, and the receive side has not been emptied. -/
def isQuiet : Moment → Bool
  | .turn t => !t.flushes
  | arrival _ => false

end Moment

/-- What has come to pass since the receive side has last been emptied. -/
def sinceFlush (history : List Moment) : List Moment :=
  history.rtakeWhile fun moment => !moment.flushes

/-- The bytes handed out since then. -/
def handedOut (history : List Moment) : List UInt8 :=
  (sinceFlush history).flatMap Moment.returned

/-- The bytes that have arrived since then. -/
def arrivedSince (history : List Moment) : List UInt8 :=
  (sinceFlush history).flatMap Moment.arrived

variable {history more : List Moment} {moment : Moment} {turn : Turn} {s t : Session}
  {world after : State} {d : OpenDevice} {b b₀ : Board} {action : Action} {events : List Event}
  {i : Nat} {allowed : State → Prop}

theorem sinceFlush_snoc : sinceFlush (history ++ [moment]) =
    if moment.flushes then [] else sinceFlush history ++ [moment] := by
  unfold sinceFlush
  rw [List.rtakeWhile_concat]
  cases moment.flushes <;> rfl

theorem handedOut_snoc : handedOut (history ++ [moment]) =
    if moment.flushes then [] else handedOut history ++ moment.returned := by
  unfold handedOut
  rw [sinceFlush_snoc]
  split
  · rfl
  · rw [List.flatMap_append, List.flatMap_singleton]

theorem arrivedSince_snoc : arrivedSince (history ++ [moment]) =
    if moment.flushes then [] else arrivedSince history ++ moment.arrived := by
  unfold arrivedSince
  rw [sinceFlush_snoc]
  split
  · rfl
  · rw [List.flatMap_append, List.flatMap_singleton]

/-- A turn that does not go to the receive side leaves the accounts alone. -/
theorem Turn.silent_of_may (turn : Turn) (h : ¬ turn.action.May .receive) :
    turn.flushes = false ∧ turn.returned = [] ∧ (Moment.turn turn).reads = false := by
  obtain ⟨action, events, result⟩ := turn
  cases action with
  | openIds | openFilter | openDevice | reset | purgeReceive | purge | readData =>
    exact absurd trivial h
  | _ => exact ⟨rfl, rfl, rfl⟩

/-- A turn that has failed, but for a purge. -/
theorem Turn.silent_of_error (events : List Event) (e : Error) (h : action ≠ .purge) :
    (Turn.mk action events (.error e)).flushes = false ∧
      (Turn.mk action events (.error e)).returned = [] ∧
      (Moment.turn ⟨action, events, .error e⟩).reads = false := by
  cases action with
  | purge => exact absurd rfl h
  | _ => exact ⟨rfl, rfl, rfl⟩

/-! ### A session on its board -/

/-- **A session that has its board open**, as the board was made, with payloads waiting that have
room in a packet each. -/
structure Online (i : Nat) (b₀ : Board) (s : Session) (world : State) (d : OpenDevice) (b : Board) :
    Prop where
  link : s.link = .opened d
  board : world.boards[i]? = some b
  build : b.build = b₀.build
  handle : d.handle = b₀.handle i
  packetSize : d.packetSize = (b₀.handle i).transferSize
  fits : ∀ payload ∈ b.queue, payload.length + 2 ≤ (b₀.handle i).transferSize

/-- What a turn does with the bytes that wait: if it empties the receive side none are left, else
those that it hands out have been the first. -/
def Moves (turn : Turn) (d : OpenDevice) (b : Board) (d' : OpenDevice) (b' : Board) : Prop :=
  if turn.flushes then d'.pending = [] ∧ b'.queue = []
  else turn.returned ++ d'.pending ++ b'.queue.flatten = d.pending ++ b.queue.flatten ∧
    backlog d'.pending b'.queue ≤ backlog d.pending b.queue - (Moment.turn turn).reads.toNat

/-- What waits is left alone. -/
theorem Moves.of_same {d' : OpenDevice} {b' : Board} (hflush : turn.flushes = false)
    (hreturned : turn.returned = []) (hreads : (Moment.turn turn).reads = false)
    (hpending : d'.pending = d.pending) (hqueue : b'.queue = b.queue) : Moves turn d b d' b' := by
  unfold Moves
  rw [hflush, hreturned, hreads, hpending, hqueue]
  exact ⟨rfl, Nat.le_refl _⟩

/-- What a call that does not go to the receive side makes of an open device. -/
theorem Change.link_of_opened (change : Change s turn t) (hs : s.link = .opened d)
    (h : ¬ turn.action.May .receive) :
    (∀ d', t.link ≠ .opened d') ∨ ∃ d', t.link = .opened d' ∧ d'.handle = d.handle ∧
      d'.packetSize = d.packetSize ∧ d'.pending = d.pending := by
  have hflush := (turn.silent_of_may h).1
  cases change with
  | idle | configured | staged => exact .inr ⟨d, hs, rfl, rfl, rfl⟩
  | tuned link =>
    cases hs.symm.trans link
    exact .inr ⟨_, rfl, rfl, rfl, rfl⟩
  | flushed _ _ flushes => exact absurd (hflush.symm.trans flushes) Bool.false_ne_true
  | halfPurged | taken | refilled => exact absurd trivial h
  | opened closed => exact absurd (Session.isOpen_iff.mpr ⟨d, hs⟩) (Bool.eq_false_iff.mp closed)
  | closed => exact .inl (by simp)

/-- The bytes that wait have been moved by a turn as they should be. -/
def Moved (i : Nat) (b₀ : Board) (t : Session) (after : State) (turn : Turn) (d : OpenDevice)
    (b : Board) : Prop :=
  ∃ d' b', Online i b₀ t after d' b' ∧ Moves turn d b d' b'

namespace Online

variable {result : Except Error action.Result}

theorem id_eq (h : Online i b₀ s world d b) : d.handle.id = i := congrArg Handle.id h.handle

theorem board_at (h : Online i b₀ s world d b) : world.boards[d.handle.id]? = some b :=
  h.id_eq ▸ h.board

/-- A turn that has failed without any change. -/
theorem still (h : Online i b₀ s world d b) (hpurge : action ≠ .purge) (e : Error)
    (hboards : after.boards = world.boards) :
    Moved i b₀ s after ⟨action, events, .error e⟩ d b := by
  obtain ⟨hflush, hreturned, hreads⟩ := Turn.silent_of_error events e hpurge
  exact ⟨d, b, { h with board := hboards ▸ h.board }, .of_same hflush hreturned hreads rfl rfl⟩

/-- A call that asks for another device is refused. -/
theorem opening (h : Online i b₀ s world d b) (opening : action.isOpening)
    (played : (action.perform s).play bus world = (events, some (result, t), after)) :
    Moved i b₀ t after ⟨action, events, result⟩ d b := by
  obtain ⟨rfl, rfl, rfl⟩ := opening_refused opening (Session.isOpen_iff.mpr ⟨d, h.link⟩)
    (Program.course_of_play played)
  have hpurge : action ≠ .purge := by
    rintro rfl
    cases opening
  have hworld : after = world := passes_of_play played
  exact h.still hpurge _ (congrArg _ hworld)

/-- A call that empties the receive side does so altogether, or not at all. -/
theorem flushing (h : Online i b₀ s world d b) (haction : action ∈ [.reset, .purgeReceive, .purge])
    (played : (action.perform s).play bus world = (events, some (result, t), after)) :
    Moved i b₀ t after ⟨action, events, result⟩ d b := by
  rcases flushing_drains haction h.link h.board_at played with
    ⟨hflush, rfl, hboards⟩ | ⟨hflush, rfl, b', hb', hbuild', hqueue'⟩
  · have hsilent : (Turn.mk action events result).returned = [] ∧
        (Moment.turn ⟨action, events, result⟩).reads = false := by
      simp only [List.mem_cons, List.not_mem_nil, or_false] at haction
      rcases haction with rfl | rfl | rfl <;> exact ⟨rfl, rfl⟩
    exact ⟨d, b, { h with board := hboards ▸ h.board },
      .of_same hflush hsilent.1 hsilent.2 rfl rfl⟩
  · refine ⟨_, b', ⟨rfl, h.id_eq ▸ hb', hbuild'.trans h.build, h.handle, h.packetSize, ?_⟩, ?_⟩
    · simp [hqueue']
    · unfold Moves
      rw [hflush]
      exact ⟨rfl, hqueue'⟩

/-- A read hands out the first of the bytes that wait. -/
theorem reading {length : Nat} {result : Except Error (List UInt8)} (h : Online i b₀ s world d b)
    (hlarge : 3 ≤ (b₀.handle i).transferSize) (usable : s.options.Usable)
    (played : (readData length s).play bus world = (events, some (result, t), after)) :
    Moved i b₀ t after ⟨.readData length, events, result⟩ d b := by
  rcases Nat.eq_zero_or_pos length with rfl | hpos
  · obtain ⟨rfl, rfl, rfl⟩ := course_pure.mp (Program.course_of_play played)
    have hworld : after = world := passes_of_play played
    exact ⟨d, b, { h with board := hworld ▸ h.board }, .of_same rfl rfl rfl rfl rfl⟩
  · have hsize : d.packetSize = d.handle.transferSize := h.handle ▸ h.packetSize
    obtain ⟨events', r, u, last, hplay, hcases⟩ := readData_play h.link h.board_at hsize
      (h.packetSize ▸ hlarge) (h.packetSize ▸ h.fits) usable hpos
    cases hplay.symm.trans played
    rcases hcases with ⟨failure, -, rfl, rfl, hboards⟩ |
      ⟨bytes, pending, b', rfl, rfl, hb', hbuild', hsub, hflow, hback⟩
    · exact h.still (by simp) _ hboards
    · have hreads : (Moment.turn ⟨.readData length, events, .ok bytes⟩).reads = true :=
        decide_eq_true hpos
      refine ⟨_, b', ⟨rfl, h.id_eq ▸ hb', hbuild'.trans h.build, h.handle, h.packetSize,
        fun payload hmem => h.fits payload (hsub payload hmem)⟩, hflow, ?_⟩
      rw [hreads]
      exact hback

/-- A call that does not go to the receive side leaves alone what waits, unless it closes the board.
-/
theorem quiet (h : Online i b₀ s world d b) (hmay : ¬ action.May .receive)
    (played : (action.perform s).play bus world = (events, some (result, t), after)) :
    (∀ d', t.link ≠ .opened d') ∨ Moved i b₀ t after ⟨action, events, result⟩ d b := by
  obtain ⟨hflush, hreturned, hreads⟩ := Turn.silent_of_may ⟨action, events, result⟩ hmay
  obtain ⟨b', hb', hbuild', hqueue'⟩ := perform_keeps_queue hmay played h.board
  have change := perform_change (Program.course_of_play played)
  rcases change.link_of_opened h.link hmay with hclosed | ⟨d', ht, hhandle, hsize, hpending⟩
  · exact .inl hclosed
  · exact .inr ⟨d', b', ⟨ht, hb', hbuild'.trans h.build, hhandle.trans h.handle,
      hsize.trans h.packetSize, hqueue' ▸ h.fits⟩,
      .of_same hflush hreturned hreads hpending hqueue'⟩

/-- **A turn on an open board** moves the bytes that wait as it should, or closes the board and
hands out nothing. -/
theorem moves (h : Online i b₀ s world d b) (hlarge : 3 ≤ (b₀.handle i).transferSize)
    (usable : s.options.Usable)
    (played : (action.perform s).play bus world = (events, some (result, t), after)) :
    ((∀ d', t.link ≠ .opened d') ∧ (Turn.mk action events result).flushes = false ∧
        (Turn.mk action events result).returned = [] ∧
        (Moment.turn ⟨action, events, result⟩).reads = false) ∨
      Moved i b₀ t after ⟨action, events, result⟩ d b := by
  by_cases hmay : action.May .receive
  · cases action with
    | openIds | openFilter | openDevice => exact .inr (h.opening rfl played)
    | reset | purgeReceive | purge => exact .inr (h.flushing (by simp) played)
    | readData length => exact .inr (h.reading hlarge usable played)
    | _ => exact hmay.elim
  · refine (h.quiet hmay played).imp_left fun hclosed => ⟨hclosed, ?_⟩
    exact Turn.silent_of_may ⟨action, events, result⟩ hmay

end Online

/-- A read while no board is open fails, or it has asked for nothing. -/
theorem offline_read {length : Nat} {result : Except Error (List UInt8)}
    (hs : ∀ d, s.link ≠ .opened d) (course : (readData length).Course s events result t) :
    (Turn.mk (.readData length) events result).returned = [] ∧
      (Moment.turn ⟨.readData length, events, result⟩).reads = false ∧ t = s := by
  rcases Nat.eq_zero_or_pos length with rfl | hpos
  · obtain ⟨rfl, rfl, rfl⟩ := course_pure.mp course
    exact ⟨rfl, rfl, rfl⟩
  · have hc := (readData_course hpos).mp course
    split at hc
    · next d hd => exact absurd hd (hs d)
    · obtain ⟨rfl, rfl, rfl⟩ := hc
      exact ⟨rfl, rfl, rfl⟩

/-- **A turn while no board is open** hands out nothing, and if it opens the board nothing waits. -/
theorem offline_turn {result : Except Error action.Result} (hs : ∀ d, s.link ≠ .opened d)
    (played : (action.perform s).play bus world = (events, some (result, t), after))
    (own : ∀ d, t.link = .opened d → d.handle.id = i) (hb : world.boards[i]? = some b)
    (hbuild : b.build = b₀.build) :
    (Turn.mk action events result).returned = [] ∧
      (Moment.turn ⟨action, events, result⟩).reads = false ∧
      ∀ d, t.link = .opened d → (Turn.mk action events result).flushes = true ∧
        d.pending = [] ∧ ∃ b', Online i b₀ t after d b' ∧ b'.queue = [] := by
  have course := Program.course_of_play played
  by_cases hread : ∃ length, action = .readData length
  · obtain ⟨length, rfl⟩ := hread
    obtain ⟨hreturned, hreads, rfl⟩ := offline_read hs course
    exact ⟨hreturned, hreads, fun d hd => absurd hd (hs d)⟩
  have hsilent : (Turn.mk action events result).returned = [] ∧
      (Moment.turn ⟨action, events, result⟩).reads = false := by
    cases action with
    | readData length => exact absurd ⟨length, rfl⟩ hread
    | _ => exact ⟨rfl, rfl⟩
  refine ⟨hsilent.1, hsilent.2, fun d hd => ?_⟩
  have change := perform_change course
  cases change with
  | idle | configured => exact absurd hd (hs d)
  | tuned link | flushed link | halfPurged link | staged link | closed link =>
    exact absurd link (hs _)
  | taken | refilled => exact absurd ⟨_, rfl⟩ hread
  | opened _ opens flushes =>
    obtain ⟨opening, succeeded⟩ := Bool.and_eq_true_iff.mp opens
    cases result with
    | error e => cases succeeded
    | ok a =>
      obtain ⟨d', b', hd', hhandle, hsize, hpending, hb', hbuild', hqueue'⟩ :=
        opening_drains opening played own hb
      cases hd.symm.trans hd'
      have hsame := Board.handle_of_build hbuild i
      refine ⟨flushes, hpending, b', ⟨hd, hb', hbuild'.trans hbuild, hhandle.trans hsame,
        hsame ▸ hsize, ?_⟩, hqueue'⟩
      simp [hqueue']

/-! ### Stretches -/

/-- **The account of a stretch**: what has been handed out is the first of what has arrived, and
while the board is open, what waits is the rest. -/
structure Flowing (i : Nat) (b₀ : Board) (history : List Moment) (s : Session) (world : State) :
    Prop where
  ahead : handedOut history <+: arrivedSince history
  usable : s.options.Usable
  board : ∃ b, world.boards[i]? = some b ∧ b.build = b₀.build
  online : ∀ d, s.link = .opened d → ∃ b, Online i b₀ s world d b ∧
    handedOut history ++ d.pending ++ b.queue.flatten = arrivedSince history

namespace Flowing

/-- While a board is open its account is the whole of it. -/
theorem of_online (usable : s.options.Usable) (online : Online i b₀ s world d b)
    (account : handedOut history ++ d.pending ++ b.queue.flatten = arrivedSince history) :
    Flowing i b₀ history s world where
  ahead := ⟨d.pending ++ b.queue.flatten, by rw [← List.append_assoc, account]⟩
  usable := usable
  board := ⟨b, online.board, online.build⟩
  online d' hd' := by
    cases online.link.symm.trans hd'
    exact ⟨b, online, account⟩

/-- Where no board is open nothing waits. -/
theorem of_offline (ahead : handedOut history <+: arrivedSince history) (usable : s.options.Usable)
    (board : ∃ b, world.boards[i]? = some b ∧ b.build = b₀.build)
    (hs : ∀ d, s.link ≠ .opened d) : Flowing i b₀ history s world :=
  ⟨ahead, usable, board, fun d hd => absurd hd (hs d)⟩

/-- A turn that hands out nothing leaves what has been handed out the first of what has arrived. -/
theorem ahead_snoc (moment : Moment) (h : handedOut history <+: arrivedSince history)
    (hreturned : moment.returned = []) :
    handedOut (history ++ [moment]) <+: arrivedSince (history ++ [moment]) := by
  rw [handedOut_snoc, arrivedSince_snoc, hreturned]
  split
  · exact List.prefix_refl _
  · rw [List.append_nil]
    exact h.trans (List.prefix_append _ _)

/-- **The step**: a turn keeps the account. -/
theorem step {result : Except Error action.Result} (h : Flowing i b₀ history s world)
    (hlarge : 3 ≤ (b₀.handle i).transferSize)
    (played : (action.perform s).play bus world = (events, some (result, t), after))
    (own : ∀ d, t.link = .opened d → d.handle.id = i) :
    Flowing i b₀ (history ++ [.turn ⟨action, events, result⟩]) t after := by
  have usable := perform_usable played h.usable
  obtain ⟨b, hb, hbuild⟩ := h.board
  have board : ∃ b', after.boards[i]? = some b' ∧ b'.build = b₀.build := by
    obtain ⟨b', hb', hbuild'⟩ := perform_keeps_build played hb
    exact ⟨b', hb', hbuild'.trans hbuild⟩
  by_cases hs : ∃ d, s.link = .opened d
  · obtain ⟨d, hs⟩ := hs
    obtain ⟨b, online, account⟩ := h.online d hs
    rcases online.moves hlarge h.usable played with
      ⟨hclosed, -, hreturned, -⟩ | ⟨d', b', online', hmoves⟩
    · exact .of_offline (ahead_snoc (.turn ⟨_, _, _⟩) h.ahead hreturned) usable board hclosed
    · refine .of_online usable online' ?_
      unfold Moves at hmoves
      rw [handedOut_snoc, arrivedSince_snoc]
      change (if Turn.flushes _ then _ else _) ++ _ ++ _ = if Turn.flushes _ then _ else _
      split
      · next hflush =>
        rw [if_pos hflush] at hmoves
        rw [hmoves.1, hmoves.2]
        rfl
      · next hflush =>
        rw [if_neg hflush] at hmoves
        calc handedOut history ++ (Turn.mk action events result).returned ++ d'.pending ++
              b'.queue.flatten
            = handedOut history ++ ((Turn.mk action events result).returned ++ d'.pending ++
                b'.queue.flatten) := by
              simp only [List.append_assoc]
          _ = handedOut history ++ d.pending ++ b.queue.flatten := by
              rw [hmoves.1, List.append_assoc]
          _ = arrivedSince history ++ [] := by rw [account, List.append_nil]
  · have hoffline : ∀ d, s.link ≠ .opened d := fun d hd => hs ⟨d, hd⟩
    obtain ⟨hreturned, -, hopened⟩ := offline_turn hoffline played own hb hbuild
    have ahead := ahead_snoc (.turn ⟨action, events, result⟩) h.ahead hreturned
    by_cases ht : ∃ d, t.link = .opened d
    · obtain ⟨d, hd⟩ := ht
      obtain ⟨hflush, hpending, b', online, hqueue⟩ := hopened d hd
      have hempty : (Moment.turn ⟨action, events, result⟩).flushes = true := hflush
      refine .of_online usable online ?_
      rw [handedOut_snoc, arrivedSince_snoc, if_pos hempty, if_pos hempty, hpending, hqueue]
      rfl
    · exact .of_offline ahead usable board fun d hd => ht ⟨d, hd⟩

/-- A payload that arrives is the last of those that wait. -/
theorem arrival (h : Flowing i b₀ history s world) {payload : List UInt8}
    (hfits : payload.length + 2 ≤ (b₀.handle i).transferSize) :
    Flowing i b₀ (history ++ [.arrival payload]) s (world.queue i payload) where
  ahead := ahead_snoc _ h.ahead rfl
  usable := h.usable
  board := by
    obtain ⟨b, hb, hbuild⟩ := h.board
    rw [getElem?_queue, hb]
    exact ⟨_, rfl, hbuild⟩
  online d hd := by
    obtain ⟨b, online, account⟩ := h.online d hd
    refine ⟨{ b with queue := b.queue ++ [payload] }, { online with
      board := by rw [getElem?_queue, online.board]; rfl
      fits := fun payload' hmem => ?_ }, ?_⟩
    · rcases List.mem_append.mp hmem with hmem | hmem
      · exact online.fits payload' hmem
      · rw [List.mem_singleton.mp hmem]
        exact hfits
    · rw [handedOut_snoc, arrivedSince_snoc]
      change handedOut history ++ [] ++ d.pending ++ (b.queue ++ [payload]).flatten =
        arrivedSince history ++ payload
      rw [List.append_nil, List.flatten_append, List.flatten_singleton, ← List.append_assoc,
        account]

/-- **The run**: a stretch keeps the account. -/
theorem stretch (h : Flowing i b₀ history s world) (hlarge : 3 ≤ (b₀.handle i).transferSize)
    (stretch : Stretch i allowed s world more t after)
    (hfits : ∀ payload, .arrival payload ∈ more → payload.length + 2 ≤ (b₀.handle i).transferSize) :
    Flowing i b₀ (history ++ more) t after := by
  induction stretch with
  | nil =>
    rw [List.append_nil]
    exact h
  | turn _ played own ih =>
    rw [← List.append_assoc]
    have h := ih fun payload hmem => hfits payload (List.mem_append_left _ hmem)
    exact h.step hlarge played own
  | arrival payload _ ih =>
    rw [← List.append_assoc]
    have h := ih fun payload hmem => hfits payload (List.mem_append_left _ hmem)
    exact h.arrival (hfits payload (List.mem_append_right _ List.mem_cons_self))
  | elsewhere _ same _ ih =>
    have h := ih hfits
    refine ⟨h.ahead, h.usable, by rw [same]; exact h.board, fun d hd => ?_⟩
    obtain ⟨b, online, account⟩ := h.online d hd
    exact ⟨b, { online with board := same.trans online.board }, account⟩

end Flowing

/-! ### Reading all there is -/

/-- What is still to be handed out after some quiet moments: less by one for each read that has
succeeded, while the board is open; nothing if there were as many of them as the backlog. -/
structure Draining (i : Nat) (b₀ : Board) (amount : Nat) (history more : List Moment) (s : Session)
    (world : State) : Prop where
  online : ∀ d, s.link = .opened d → ∃ b, Online i b₀ s world d b ∧
    backlog d.pending b.queue ≤ amount - more.countP Moment.reads
  drained : amount ≤ more.countP Moment.reads →
    handedOut (history ++ more) = arrivedSince (history ++ more)

/-- Nothing is left of a backlog that is gone. -/
theorem drained_of_backlog (pending : List UInt8) (queue : List (List UInt8))
    (h : backlog pending queue = 0) : pending = [] ∧ queue = [] := by
  obtain ⟨hpending, hqueue⟩ := Nat.add_eq_zero_iff.mp h
  refine ⟨List.eq_nil_of_length_eq_zero hpending, ?_⟩
  cases queue with
  | nil => rfl
  | cons payload rest =>
    rw [List.map_cons, List.sum_cons] at hqueue
    omega

namespace Draining

/-- As much as there is while the board is open. -/
theorem of_online {amount : Nat} (flowing : Flowing i b₀ (history ++ more) s world)
    (hs : s.link = .opened d) (online : Online i b₀ s world d b)
    (hback : backlog d.pending b.queue ≤ amount - more.countP Moment.reads) :
    Draining i b₀ amount history more s world := by
  constructor
  · intro d' hd'
    cases hs.symm.trans hd'
    exact ⟨b, online, hback⟩
  · intro hle
    obtain ⟨hpending, hqueue⟩ := drained_of_backlog d.pending b.queue (by omega)
    obtain ⟨b', online', account⟩ := flowing.online d hs
    cases online.board.symm.trans online'.board
    rw [← account, hpending, hqueue]
    simp

/-- **The step**: a turn that does not empty the receive side leaves no more than there was. -/
theorem step {amount : Nat} {result : Except Error action.Result}
    (h : Draining i b₀ amount history more s world)
    (flowing : Flowing i b₀ (history ++ more) s world)
    (hlarge : 3 ≤ (b₀.handle i).transferSize)
    (played : (action.perform s).play bus world = (events, some (result, t), after))
    (own : ∀ d, t.link = .opened d → d.handle.id = i)
    (hflush : (Turn.mk action events result).flushes = false) :
    Draining i b₀ amount history (more ++ [.turn ⟨action, events, result⟩]) t after := by
  have flowing' := flowing.step hlarge played own
  rw [List.append_assoc] at flowing'
  have hcount : (more ++ [Moment.turn ⟨action, events, result⟩]).countP Moment.reads =
      more.countP Moment.reads + (Moment.turn ⟨action, events, result⟩).reads.toNat := by
    rw [List.countP_append, List.countP_singleton]
    cases Moment.reads _ <;> rfl
  -- a turn after which no board is open and that has handed out nothing
  have hoffline : (Turn.mk action events result).returned = [] →
      (Moment.turn ⟨action, events, result⟩).reads = false → (∀ d, t.link ≠ .opened d) →
      Draining i b₀ amount history (more ++ [.turn ⟨action, events, result⟩]) t after := by
    intro hreturned hreads ht
    refine ⟨fun d hd => absurd hd (ht d), fun hle => ?_⟩
    rw [hcount, hreads] at hle
    rw [← List.append_assoc, handedOut_snoc, arrivedSince_snoc]
    change (if Turn.flushes _ then _ else _ ++ Turn.returned _) =
      if Turn.flushes _ then _ else _ ++ []
    rw [hflush, hreturned, h.drained hle]
  by_cases hs : ∃ d, s.link = .opened d
  · obtain ⟨d, hs⟩ := hs
    obtain ⟨b, online, hback⟩ := h.online d hs
    rcases online.moves hlarge flowing.usable played with
      ⟨hclosed, -, hreturned, hreads⟩ | ⟨d', b', online', hmoves⟩
    · exact hoffline hreturned hreads hclosed
    · unfold Moves at hmoves
      rw [hflush] at hmoves
      refine .of_online flowing' online'.link online' ?_
      rw [hcount]
      exact Nat.le_trans hmoves.2 (by omega)
  · obtain ⟨b, hb, hbuild⟩ := flowing.board
    obtain ⟨hreturned, hreads, hopened⟩ :=
      offline_turn (fun d hd => hs ⟨d, hd⟩) played own hb hbuild
    refine hoffline hreturned hreads fun d hd => ?_
    exact Bool.false_ne_true (hflush.symm.trans (hopened d hd).1)

/-- **The run**: quiet moments leave no more than there was, less what has been read. -/
theorem stretch {amount : Nat} (h : Draining i b₀ amount history [] s world)
    (flowing : Flowing i b₀ history s world) (hlarge : 3 ≤ (b₀.handle i).transferSize)
    (stretch : Stretch i allowed s world more t after) (quiet : ∀ moment ∈ more, moment.isQuiet) :
    Draining i b₀ amount history more t after := by
  have hfits : ∀ {more : List Moment}, (∀ moment ∈ more, moment.isQuiet) →
      ∀ payload, .arrival payload ∈ more → payload.length + 2 ≤ (b₀.handle i).transferSize :=
    fun quiet payload hmem => absurd (quiet _ hmem) Bool.false_ne_true
  induction stretch with
  | nil => exact h
  | turn before played own ih =>
    have hquiet := fun moment hmem => quiet moment (List.mem_append_left _ hmem)
    have hflush := quiet _ (List.mem_append_right _ List.mem_cons_self)
    exact (ih hquiet).step (flowing.stretch hlarge before (hfits hquiet)) hlarge played own
      (by simpa [Moment.isQuiet] using hflush)
  | arrival payload _ _ =>
    cases quiet _ (List.mem_append_right _ List.mem_cons_self)
  | elsewhere _ same _ ih =>
    have h := ih quiet
    refine ⟨fun d hd => ?_, h.drained⟩
    obtain ⟨b, online, hback⟩ := h.online d hd
    exact ⟨b, { online with board := same.trans online.board }, hback⟩

end Draining

/-- **Received in order.** One session uses a board with packets of three bytes at least, from the
time on that the session is made. It takes any turns, payloads with room in a packet arrive at the
board, and failures may be put in store. Then the bytes handed out since the receive side was last
emptied are the first of those that have arrived since; while the board is open those that wait, at
hand and at the board, are the others, so that nothing older is left anywhere; a read fails only by
a failure that was in store; and a number of reads that succeed, with nothing more to arrive, hand
out all there is. -/
theorem received_in_order {options : Options} (made : Session.new options = .ok s)
    (hb : world.boards[i]? = some b) (hlarge : 3 ≤ (b.handle i).transferSize)
    (stretch : Stretch i (fun _ => True) s world history t after)
    (hfits : ∀ payload, .arrival payload ∈ history →
      payload.length + 2 ≤ (b.handle i).transferSize) :
    handedOut history <+: arrivedSince history ∧
    ∀ d, t.link = .opened d → d.packetSize = (b.handle i).transferSize ∧
      (∃ b', after.boards[i]? = some b' ∧
        handedOut history ++ d.pending ++ b'.queue.flatten = arrivedSince history) ∧
      (∀ length > 0, ∃ events r u last,
        ((Action.readData length).perform t).play bus after = (events, some (r, u), last) ∧
        ∀ e, r = .error e → ∃ failure, after.failTransfer = some failure ∧ e = failure.error) ∧
      ∃ n, ∀ (more : List Moment) (u : Session) (last : State),
        Stretch i (fun _ => True) t after more u last → (∀ moment ∈ more, moment.isQuiet) →
        n ≤ more.countP Moment.reads →
        handedOut (history ++ more) = arrivedSince (history ++ more) := by
  have hnew := (Session.new_ok made).1
  have start : Flowing i b [] s world :=
    .of_offline (List.prefix_refl _) (Session.usable_of_new made) ⟨b, hb, rfl⟩ (by simp [hnew])
  have flowing : Flowing i b history t after := start.stretch hlarge stretch hfits
  refine ⟨flowing.ahead, fun d hd => ?_⟩
  obtain ⟨b', online, account⟩ := flowing.online d hd
  refine ⟨online.packetSize, ⟨b', online.board, account⟩, fun length hpos => ?_, ?_⟩
  · have hsize : d.packetSize = d.handle.transferSize := online.handle ▸ online.packetSize
    obtain ⟨events, r, u, last, hplay, hcases⟩ := readData_play online.link online.board_at hsize
      (online.packetSize ▸ hlarge) (online.packetSize ▸ online.fits) flowing.usable hpos
    refine ⟨events, r, u, last, hplay, fun e he => ?_⟩
    rcases hcases with ⟨failure, hfail, hr, -⟩ | ⟨bytes, pending, b'', hr, -⟩
    · cases he.symm.trans hr
      exact ⟨failure, hfail, rfl⟩
    · cases he.symm.trans hr
  · refine ⟨backlog d.pending b'.queue, fun more u last stretch quiet hcount => ?_⟩
    have draining : Draining i b (backlog d.pending b'.queue) history [] t after :=
      .of_online (by rwa [List.append_nil]) hd online (Nat.le_refl _)
    exact (draining.stretch flowing hlarge stretch quiet).drained hcount

/-- The board has been opened, and two bytes have arrived. -/
theorem received_in_order_light :
    ∃ history after, handedOut history <+: arrivedSince history ∧
      arrivedSince history = [0xAA, 0xBB] ∧
      ∃ events bytes u last, ((Action.readData 1).perform
        ⟨.default, .opened (Sample.lightDevice .normal), none⟩).play bus after =
          (events, some (.ok bytes, u), last) := by
  have made : Session.new .default = .ok ⟨.default, .unopened, none⟩ := rfl
  have hboard : (State.ofBoards [.light]).boards[0]? =
      some { Board.light with descriptor := Sample.light } := rfl
  have hopen : ((Action.openDevice Sample.light).perform ⟨.default, .unopened, none⟩).play bus
      (.ofBoards [.light]) = (Sample.lightOpened.1,
        some (.ok (), ⟨.default, .opened (Sample.lightDevice .normal), none⟩),
        Sample.lightOpened.2.2) := rfl
  have stretch : Stretch 0 (fun _ => True) ⟨.default, .unopened, none⟩ (.ofBoards [.light])
      ([] ++ [.turn ⟨.openDevice Sample.light, Sample.lightOpened.1, .ok ()⟩] ++
        [.arrival [0xAA, 0xBB]])
      ⟨.default, .opened (Sample.lightDevice .normal), none⟩
      (Sample.lightOpened.2.2.queue 0 [0xAA, 0xBB]) :=
    (Stretch.nil.turn hopen (by rintro d ⟨⟩; rfl)).arrival _
  have hfits : ∀ payload, Moment.arrival payload ∈ [] ++
      [Moment.turn ⟨.openDevice Sample.light, Sample.lightOpened.1, .ok ()⟩] ++
      [Moment.arrival [0xAA, 0xBB]] → payload.length + 2 ≤ 64 := by
    intro payload hmem
    simp only [List.nil_append, List.cons_append, List.mem_cons, reduceCtorEq, Moment.arrival.injEq,
      List.not_mem_nil, or_false, false_or] at hmem
    rw [hmem]
    decide
  obtain ⟨hahead, honline⟩ := received_in_order made hboard (by decide) stretch hfits
  obtain ⟨-, -, hread, -⟩ := honline _ rfl
  obtain ⟨events, r, u, last, hplay, herror⟩ := hread 1 (by decide)
  refine ⟨_, Sample.lightOpened.2.2.queue 0 [0xAA, 0xBB], hahead, rfl, events, ?_⟩
  cases r with
  | ok bytes => exact ⟨bytes, u, last, hplay⟩
  | error e =>
    obtain ⟨failure, hfail, -⟩ := herror e rfl
    cases hfail

end PinBridge
