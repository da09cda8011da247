import PinBridge.Proofs.Session.Transfers
import PinBridge.Proofs.Simulator.Pins
import PinBridge.Proofs.Simulator.Reach

/-!
# The end of a session

A session may be released, dropped, or closed and then dropped. All of these are one program, that of
dropping it, because a device that has been let go of is not open any more: `endings_eq`. What the
program asks of the bus is the session's `farewell`, one request where the session drives the pins of
its device and none otherwise; where the bus answers it in any way, the session is over (`drop_asks`).

On the simulated bus a session holds a board that is there, at every point of its life (`Lives`). So
it can always end, and its farewell, if it is granted, puts the pins of the board back at the input
level (`ending_unique`).
-/

namespace PinBridge

open Simulator Command

namespace Command

/-- Closes the open device, and ends the session whatever comes of that. -/
def closeAndDrop : Command Unit := fun s => (close s).bind fun (_, t) => drop t

/-- The ways in which a session ends. -/
def endings : List (Command Unit) := [release, drop, closeAndDrop]

end Command

namespace Session

/-- The session when it has ended: a device that was open has been let go of. -/
def ended (s : Session) : Session :=
  match s.link with
  | .opened _ => { s with link := .closed, staged := none }
  | _ => s

/-- What a session asks for when it ends: that the pins of its device are taken back, if it drives
them. -/
def farewell (s : Session) : List Call :=
  match s.link with
  | .opened d =>
    if d.mode = .normal then []
    else [.controlOut d.handle Request.setBitMode 0 d.channel.index s.options.writeTimeout]
  | _ => []

variable {s : Session} {d : OpenDevice}

theorem farewell_of_normal (hs : s.link = .opened d) (hmode : d.mode = .normal) :
    s.farewell = [] := by
  unfold farewell
  rw [hs]
  exact if_pos hmode

theorem farewell_of_driven (hs : s.link = .opened d) (hmode : d.mode ≠ .normal) :
    s.farewell =
      [.controlOut d.handle Request.setBitMode 0 d.channel.index s.options.writeTimeout] := by
  unfold farewell
  rw [hs]
  exact if_neg hmode

/-- What has ended has nothing more to do. -/
theorem drop_ended (s : Session) : drop s.ended = .done (.ok (), s.ended) := by
  obtain ⟨options, link, staged⟩ := s
  cases link <;> rfl

end Session

variable {s t : Session} {d : OpenDevice}

/-! ### One program -/

theorem drop_of_opened (hs : s.link = .opened d) : drop s = shutDown d s := by
  obtain ⟨options, link, staged⟩ := s
  cases hs
  rfl

theorem drop_of_not_opened (hs : ∀ d, s.link ≠ .opened d) : drop s = .done (.ok (), s) := by
  obtain ⟨options, link, staged⟩ := s
  cases link with
  | opened d => exact absurd rfl (hs d)
  | unopened | closed => rfl

/-- Dropping a session asks for its farewell, and whatever the bus replies the session has ended. -/
theorem drop_ends (s : Session) :
    (drop s).Within (· ∈ s.farewell) (· = (.ok (), s.ended)) := by
  obtain ⟨options, link, staged⟩ := s
  cases link with
  | unopened | closed => rfl
  | opened d =>
    rw [drop_of_opened rfl]
    unfold shutDown
    by_cases hmode : d.mode = .normal
    · rw [if_pos hmode]
      rfl
    · rw [if_neg hmode, Session.farewell_of_driven rfl hmode]
      refine ⟨List.mem_singleton_self _, fun reply => ?_⟩
      cases reply <;> rfl

/-- To drop a session once more changes nothing. -/
theorem drop_bind_drop (s : Session) : ((drop s).bind fun v => drop v.2) = drop s := by
  refine ((drop_ends s).bind_congr ?_).trans (Program.bind_done _)
  rintro _ rfl
  exact s.drop_ended

/-- **All endings are one program**, and so the same on every bus, also on one that crashes. -/
theorem endings_eq {ending : Command Unit} (h : ending ∈ endings) (s : Session) :
    ending s = drop s := by
  simp only [endings, List.mem_cons, List.not_mem_nil, or_false] at h
  rcases h with rfl | rfl | rfl
  · -- the second drop of a release comes after one that has gone well
    refine Eq.trans ((drop_ends s).bind_congr ?_) (drop_bind_drop s)
    rintro _ rfl
    rfl
  · rfl
  · unfold closeAndDrop
    by_cases hopen : ∃ d, s.link = .opened d
    · obtain ⟨d, hs⟩ := hopen
      rw [close_of_opened hs, ← drop_of_opened hs]
      exact drop_bind_drop s
    · rw [close_of_not_opened (not_exists.mp hopen)]
      rfl

/-! ### What it asks for -/

/-- **A session that is dropped asks for its farewell and for nothing else**, on every bus that
answers it, and has then ended whether or not the request has been granted. -/
theorem drop_asks {σ : Type} (bus : Bus σ) (world : σ) (s : Session)
    (answered : ∀ c ∈ s.farewell, (bus.reply c world).1.isSome) :
    ∃ events after, (drop s).play bus world = (events, some (.ok (), s.ended), after) ∧
      events.filterMap Event.call? = s.farewell := by
  obtain ⟨options, link, staged⟩ := s
  cases link with
  | unopened | closed => exact ⟨[], world, rfl, rfl⟩
  | opened d =>
    rw [drop_of_opened rfl]
    unfold shutDown
    by_cases hmode : d.mode = .normal
    · rw [if_pos hmode, Session.farewell_of_normal rfl hmode]
      exact ⟨_, _, rfl, rfl⟩
    · rw [Session.farewell_of_driven rfl hmode] at answered ⊢
      rw [if_neg hmode]
      change ∃ events after,
        (Program.call (.controlOut d.handle _ _ _ _) _).play bus world = _ ∧ _
      simp only [Program.play]
      rcases hreply : bus.reply _ world with ⟨_ | reply, after⟩
      · have hnone := answered _ (List.mem_singleton_self _)
        rw [hreply] at hnone
        cases hnone
      · cases reply with
        | ok _ => exact ⟨_, _, rfl, rfl⟩
        | error _ => exact ⟨_, _, rfl, rfl⟩

/-! ### On the simulated bus -/

/-- **A session on the simulated bus at any point of its life**: calls that end, be it in an error,
calls that crash, and anything between two calls but that boards are taken away. -/
inductive Lives : Session → State → Prop
  | start {options : Options} {s : Session} {world : State} (made : Session.new options = .ok s) :
      Lives s world
  | turn {s t : Session} {world after : State} {action : Action} {events : List Event}
      {result : Except Error action.Result} (lives : Lives s world)
      (played : (action.perform s).play bus world = (events, some (result, t), after)) :
      Lives t after
  | crashed {s : Session} {world after : State} {action : Action} {events : List Event}
      (lives : Lives s world)
      (played : (action.perform s).play bus world = (events, none, after)) : Lives s after
  | between {s : Session} {world after : State} (lives : Lives s world)
      (present : world.boards.length ≤ after.boards.length) : Lives s after

/-- The device that a session has open after a turn is the one from before, or the turn has opened
it. -/
theorem Change.handle {turn : Turn} (h : Change s turn t) (ht : t.link = .opened d) :
    (∃ d₀, s.link = .opened d₀ ∧ d₀.handle = d.handle) ∨ turn.handle? = some d.handle := by
  cases h with
  | idle | configured | staged => exact .inl ⟨d, ht, rfl⟩
  | tuned link | flushed link | halfPurged link | taken link | refilled link =>
    cases ht
    exact .inl ⟨_, link, rfl⟩
  | opened _ _ _ _ found =>
    cases ht
    exact .inr found
  | closed => cases ht

variable {world : State}

/-- **What a session has open is a board of the bus.** -/
theorem Lives.handle_lt_length (lives : Lives s world) :
    ∀ d, s.link = .opened d → d.handle.id < world.boards.length := by
  induction lives with
  | start made =>
    intro d hs
    rw [(Session.new_ok made).1] at hs
    cases hs
  | turn _ played ih =>
    intro d ht
    rw [length_of_play played]
    rcases (perform_change (Program.course_of_play played)).handle ht with
      ⟨d₀, hs, hhandle⟩ | hfound
    · exact hhandle ▸ ih d₀ hs
    · obtain ⟨event, hmem, hhandle⟩ := List.exists_of_findSome?_eq_some hfound
      exact handle_lt_length_of_mem_play (by rwa [played]) hhandle
  | crashed _ played ih =>
    intro d hs
    rw [length_of_play played]
    exact ih d hs
  | between _ present ih =>
    intro d hs
    exact (ih d hs).trans_le present

/-- The states that some events lead through are those that their calls lead through. -/
theorem eq_of_passes {events : List Event} {after : State} : ∀ {world : State},
    Passes world events after →
      after = (events.filterMap Event.call?).foldl (fun s c => (bus.reply c s).2) world := by
  induction events with
  | nil => exact id
  | cons event rest ih =>
    intro world h
    cases event with
    | asked c reply =>
      obtain ⟨next, hreply, hrest⟩ := h
      have hnext : next = (bus.reply c world).2 := (congrArg Prod.snd hreply).symm
      rw [ih hrest, hnext]
      rfl
    | released handle => exact ih h

/-- A board that is asked to take its pins back leaves every bit mode, with all its pins at the input
level. -/
theorem Simulator.Board.controlOut_farewell (b : Board) (index : UInt16) :
    (b.controlOut Request.setBitMode 0 index).2 =
      { b with
        mode := 0
        mask := 0
        pins := b.inputs
        requests := b.requests ++ [⟨Request.setBitMode, 0, index⟩] } := by
  have hlevel : (b.pins &&& 0) ||| (b.inputs &&& ~~~0) = b.inputs := by simp
  simp [controlOut, selectMode, level, Request.setBitMode, Request.reset, Request.setBaudRate,
    Request.setLatency]

/-- The simulated bus answers the farewell of a session: a failure that is in store, or the board. -/
theorem Lives.farewell_answered (lives : Lives s world) :
    ∀ c ∈ s.farewell, (bus.reply c world).1.isSome := by
  intro c hc
  unfold Session.farewell at hc
  split at hc
  · next d hs =>
    split at hc
    · cases hc
    · cases List.mem_singleton.mp hc
      cases hfail : world.failTransfer with
      | some failure =>
        rw [State.reply_of_injected rfl hfail]
        rfl
      | none =>
        have hb := List.getElem?_eq_getElem (lives.handle_lt_length d hs)
        rw [State.reply_of_board rfl hfail hb]
        rfl
  · cases hc

/-- **A session on the simulated bus can always end.** If it drives the pins of its board and its
farewell is not made to fail, the board is then in no bit mode, with all its pins at the input
level. -/
theorem Lives.drop_play (lives : Lives s world) :
    ∃ events after, (drop s).play bus world = (events, some (.ok (), s.ended), after) ∧
      ∀ d, s.link = .opened d → d.mode ≠ .normal → world.failTransfer = none →
        ∃ b, world.boards[d.handle.id]? = some b ∧ after.boards[d.handle.id]? =
          some { b with
            mode := 0
            mask := 0
            pins := b.inputs
            requests := b.requests ++ [⟨Request.setBitMode, 0, d.channel.index⟩] } := by
  obtain ⟨events, after, hplay, hcalls⟩ := drop_asks bus world s lives.farewell_answered
  refine ⟨events, after, hplay, fun d hs hmode hfail => ?_⟩
  have hb := List.getElem?_eq_getElem (lives.handle_lt_length d hs)
  have hafter := eq_of_passes (passes_of_play hplay)
  rw [hcalls, Session.farewell_of_driven hs hmode, List.foldl_cons, List.foldl_nil] at hafter
  refine ⟨_, hb, ?_⟩
  rw [hafter, State.getElem?_reply, if_pos ⟨hfail, rfl⟩, hb]
  exact congrArg some (Board.controlOut_farewell _ _)

/-! ### All endings -/

/-- **All ways in which a session ends are one.** A session is made and takes some turns, and is then
released, dropped, or closed and dropped: on every bus the same happens, also where the bus crashes.
If the session drives the pins of its device, all that it asks for is that they are taken back, of the
interface that has been claimed, and with the time that a write may take now; otherwise it asks for
nothing. Where the bus answers, be it with an error, the session is then over. On the simulated bus
it always is, and unless a failure is in store for the request, the board is then in no bit mode, with
an empty mask and all its pins at the input level. -/
theorem ending_unique {options : Options} {s₀ : Session} {history : List Turn}
    (made : Session.new options = .ok s₀) (turns : Turns s₀ history s) :
    (∀ ending ∈ endings, ∀ {σ : Type} (bus : Bus σ) (world : σ),
      (ending s).play bus world = (drop s).play bus world) ∧
    (∀ d, s.link = .opened d → ∃ interface,
      claimed (history.flatMap Turn.events) = some (d.handle, interface) ∧
      s.farewell =
        if d.mode = .normal then []
        else [.controlOut d.handle Request.setBitMode 0 interface.channel.index
          (history.foldl Turn.configure options).writeTimeout]) ∧
    ((∀ d, s.link ≠ .opened d) → s.farewell = []) ∧
    (∀ {σ : Type} (bus : Bus σ) (world : σ), (∀ c ∈ s.farewell, (bus.reply c world).1.isSome) →
      ∃ events after, events.filterMap Event.call? = s.farewell ∧
        ∀ ending ∈ endings, (ending s).play bus world = (events, some (.ok (), s.ended), after)) ∧
    ∀ world, Lives s world → ∃ events after,
      (∀ ending ∈ endings, (ending s).play bus world = (events, some (.ok (), s.ended), after)) ∧
      ∀ d, s.link = .opened d → d.mode ≠ .normal → world.failTransfer = none →
        ∃ b, world.boards[d.handle.id]? = some b ∧ after.boards[d.handle.id]? =
          some { b with
            mode := 0
            mask := 0
            pins := b.inputs
            requests := b.requests ++ [⟨Request.setBitMode, 0, d.channel.index⟩] } := by
  refine ⟨fun ending hending σ bus world => by rw [endings_eq hending], fun d hs => ?_,
    fun hs => ?_, fun bus world answered => ?_, fun world lives => ?_⟩
  · cases Session.eq_of_new made
    obtain ⟨hholds, hoptions⟩ := turns.holds rfl
    obtain ⟨interface, hclaimed, hchannel, -⟩ := hholds.exists_interface hs
    refine ⟨interface, hclaimed, ?_⟩
    rw [← hoptions, ← hchannel]
    unfold Session.farewell
    rw [hs]
  · unfold Session.farewell
    split
    · next d hs' => exact absurd hs' (hs d)
    · rfl
  · obtain ⟨events, after, hplay, hcalls⟩ := drop_asks bus world s answered
    exact ⟨events, after, hcalls, fun ending hending => endings_eq hending s ▸ hplay⟩
  · obtain ⟨events, after, hplay, hboard⟩ := lives.drop_play
    exact ⟨events, after, fun ending hending => endings_eq hending s ▸ hplay, hboard⟩

/-- A session that drives the pins of the light board ends in three ways, and each leaves the board
with its pins at the input level. -/
theorem ending_unique_lightDriven : ∃ after, ∀ ending ∈ endings,
    ((ending ⟨.default, .opened (Sample.lightDevice (.driven .bitBang)), none⟩).play bus
      Sample.lightDriven.2.2).2.2 = after ∧
    ∃ b, after.boards[0]? = some b ∧ b.mode = 0 ∧ b.mask = 0 ∧ b.pins = b.inputs := by
  have made : Session.new .default = .ok ⟨.default, .unopened, none⟩ := rfl
  have hopen : ((Action.openDevice Sample.light).perform ⟨.default, .unopened, none⟩).play bus
      (.ofBoards [.light]) = (Sample.lightOpened.1,
        some (.ok (), ⟨.default, .opened (Sample.lightDevice .normal), none⟩),
        Sample.lightOpened.2.2) := rfl
  have hdrive : ((Action.setBitMode 0x0F .bitBang).perform
      ⟨.default, .opened (Sample.lightDevice .normal), none⟩).play bus Sample.lightOpened.2.2 =
        (Sample.lightDriven.1,
          some (.ok (), ⟨.default, .opened (Sample.lightDevice (.driven .bitBang)), none⟩),
          Sample.lightDriven.2.2) := rfl
  have turns := (Turns.nil.snoc (Program.course_of_play hopen)).snoc
    (Program.course_of_play hdrive)
  obtain ⟨-, -, -, -, hsimulated⟩ := ending_unique made turns
  obtain ⟨events, after, hplay, hboard⟩ :=
    hsimulated _ (((Lives.start made).turn hopen).turn hdrive)
  obtain ⟨b, -, hafter⟩ := hboard _ rfl (by decide) rfl
  exact ⟨after, fun ending hending => ⟨by rw [hplay ending hending], _, hafter, rfl, rfl, rfl⟩⟩

end PinBridge
