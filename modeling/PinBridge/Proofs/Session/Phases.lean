import PinBridge.Proofs.Session.Run
import PinBridge.Proofs.Within

/-!
# The life of a session

A session is uninitialized, open or closed. An open that succeeds and a close that succeeds each
leave a mark (`Turn.mark?`), and the status moves with the marks only: `Status.Moves` is the
automaton, and each change of a session is one of its moves (`Change.moves`).

* `Run.alternate` : the marks of a run are openings and closings by turns, an opening first, and the
  status is what the last one has led to.
* `alreadyOpen_of_isOpen`, `close_completes` : while a device is open, no other is opened and
  closing never fails, whatever the bus replies to the request that it sends.
-/

namespace PinBridge

/-- What a call that succeeds does to the life of a session. -/
inductive Mark
  | opening
  | closing
  deriving DecidableEq

/-- The mark that a turn leaves. -/
def Turn.mark? (turn : Turn) : Option Mark :=
  if turn.opens then some .opening else if turn.closes then some .closing else none

/-- The marks of a history, the first one first. -/
def marks (history : List Turn) : List Mark := history.filterMap Turn.mark?

/-- **The automaton**: how a status goes over into the next one. -/
inductive Status.Moves : Status → Option Mark → Status → Prop
  | stays (status : Status) : Moves status none status
  | opens {status : Status} (notOpen : status ≠ .isOpen) : Moves status (some .opening) .isOpen
  | closes : Moves .isOpen (some .closing) .closed

/-- The status that marks lead to. -/
def reached (marks : List Mark) : Status :=
  match marks.getLast? with
  | none => .uninitialized
  | some .opening => .isOpen
  | some .closing => .closed

/-- **Openings and closings by turns**, an opening first. -/
def Alternate (marks : List Mark) : Prop :=
  ∀ i mark, marks[i]? = some mark → (mark = .opening ↔ i % 2 = 0)

variable {s t : Session} {turn : Turn} {history : List Turn} {ms : List Mark} {mark : Mark}
  {d : OpenDevice}

/-! ### Marks -/

theorem Turn.mark?_of_not (opens : turn.opens = false) (closes : turn.closes = false) :
    turn.mark? = none := by
  unfold Turn.mark?
  rw [opens, closes]
  rfl

theorem Turn.Idle.mark? (idle : turn.Idle) : turn.mark? = none :=
  Turn.mark?_of_not idle.opens idle.closes

theorem Turn.mark?_of_opens (opens : turn.opens) : turn.mark? = some .opening := if_pos opens

theorem Turn.opens_of_mark? (h : turn.mark? = some .opening) : turn.opens := by
  unfold Turn.mark? at h
  split at h
  · assumption
  · split at h <;> cases h

/-- A call that fails, and one that neither opens nor closes, leaves no mark. -/
theorem Turn.mark?_eq_none {action : Action} {events : List Event}
    {result : Except Error action.Result}
    (h : (∃ e, result = .error e) ∨ (action.isOpening = false ∧ action ≠ .close)) :
    (Turn.mk action events result).mark? = none := by
  rcases h with ⟨e, rfl⟩ | ⟨hopening, hclose⟩
  · exact Turn.mark?_of_not (Bool.and_false _) (by cases action <;> rfl)
  · refine Turn.mark?_of_not ?_ ?_
    · show (action.isOpening && _) = false
      rw [hopening]
      rfl
    · cases action with
      | close => exact absurd rfl hclose
      | _ => rfl

theorem marks_snoc : marks (history ++ [turn]) = marks history ++ turn.mark?.toList := by
  unfold marks
  rw [List.filterMap_append]
  cases h : turn.mark? with
  | none => simp [h]
  | some mark => simp [h]

/-- There are marks as soon as an open has succeeded. -/
theorem Alternate.marks_eq_nil_iff (h : Alternate (marks history)) :
    marks history = [] ↔ ∀ turn ∈ history, turn.opens = false := by
  constructor
  · intro hnil turn hmem
    have hnone := List.filterMap_eq_nil_iff.mp hnil turn hmem
    rw [Bool.eq_false_iff]
    intro opens
    rw [Turn.mark?_of_opens opens] at hnone
    cases hnone
  · intro hnever
    rcases hmarks : marks history with _ | ⟨first, rest⟩
    · rfl
    · -- The first mark would be an opening.
      have hfirst : first = .opening := (h 0 first (by rw [hmarks]; rfl)).mpr rfl
      have hmem : first ∈ marks history := by rw [hmarks]; exact List.mem_cons_self
      obtain ⟨turn, hturn, hmark⟩ := List.mem_filterMap.mp hmem
      rw [hfirst] at hmark
      have hopens := Turn.opens_of_mark? hmark
      rw [hnever turn hturn] at hopens
      cases hopens

/-- By the number of marks one knows the last one. -/
theorem Alternate.reached_iff (h : Alternate ms) : reached ms = .isOpen ↔ ms.length % 2 = 1 := by
  rcases List.eq_nil_or_concat ms with rfl | ⟨front, last, rfl⟩
  · exact iff_of_false (by simp [reached]) (by simp)
  · have hlast : (front.concat last)[front.length]? = some last := by simp
    have hparity := h front.length last hlast
    have hreached : reached (front.concat last) = .isOpen ↔ last = .opening := by
      unfold reached
      cases last <;> simp
    rw [hreached, hparity, List.length_concat]
    omega

/-- One more mark, an opening just where no device is open. -/
theorem Alternate.snoc (h : Alternate ms) (hmark : mark = .opening ↔ reached ms ≠ .isOpen) :
    Alternate (ms ++ [mark]) := by
  intro i other hi
  rcases Nat.lt_or_ge i ms.length with hlt | hge
  · rw [List.getElem?_append_left hlt] at hi
    exact h i other hi
  · rw [List.getElem?_append_right hge] at hi
    obtain ⟨hlt, hother⟩ := List.getElem?_eq_some_iff.mp hi
    have hzero : i = ms.length := by
      simp only [List.length_singleton] at hlt
      omega
    obtain rfl : mark = other := by simpa using hother
    rw [hmark, Ne, h.reached_iff, hzero]
    omega

/-! ### The automaton -/

theorem Session.status_of_opened (h : s.link = .opened d) : s.status = .isOpen := by
  unfold Session.status
  rw [h]

/-- **Every change is a move of the automaton.** -/
theorem Change.moves (h : Change s turn t) : s.status.Moves turn.mark? t.status := by
  cases h with
  | idle idle =>
    rw [idle.mark?]
    exact .stays _
  | configured succeeded idle =>
    rw [idle.mark?]
    exact .stays _
  | tuned link succeeded idle =>
    rw [idle.mark?, Session.status_of_opened link]
    exact .stays _
  | flushed link succeeded flushes opens closes stages =>
    rw [Turn.mark?_of_not opens closes, Session.status_of_opened link]
    exact .stays _
  | halfPurged link | taken link | refilled link =>
    rw [Session.status_of_opened link]
    exact .stays _
  | staged link =>
    exact .stays _
  | opened link opens =>
    rw [Turn.mark?_of_opens opens]
    refine .opens fun hopen => ?_
    unfold Session.isOpen at link
    rw [hopen] at link
    cases link
  | closed link =>
    rw [Session.status_of_opened link]
    exact .closes

/-- With a move the marks go on as they should. -/
theorem Alternate.moves (h : Alternate ms) {mark? : Option Mark} {status : Status}
    (hmoves : (reached ms).Moves mark? status) :
    Alternate (ms ++ mark?.toList) ∧ status = reached (ms ++ mark?.toList) := by
  generalize hbefore : reached ms = before at hmoves
  cases hmoves with
  | stays =>
    rw [Option.toList_none, List.append_nil]
    exact ⟨h, hbefore.symm⟩
  | opens notOpen =>
    rw [Option.toList_some]
    exact ⟨h.snoc (iff_of_true rfl (hbefore ▸ notOpen)), by simp [reached]⟩
  | closes =>
    rw [Option.toList_some]
    exact ⟨h.snoc (iff_of_false (by simp) (by simp [hbefore])), by simp [reached]⟩

/-- **After every run** the marks alternate, and the status is what they lead to. -/
theorem Run.alternate (run : Run history s) :
    Alternate (marks history) ∧ s.status = reached (marks history) := by
  refine run.invariant (P := fun history s =>
    Alternate (marks history) ∧ s.status = reached (marks history)) ?_ ?_
  · intro options s made
    rw [Session.eq_of_new made]
    refine ⟨fun i mark h => ?_, rfl⟩
    cases h
  · intro history s turn t ⟨halternate, hstatus⟩ change
    have hmoves := change.moves
    rw [hstatus] at hmoves
    rw [marks_snoc]
    exact halternate.moves hmoves

/-- The status by the marks. -/
theorem status_iff_of_reached (h : s.status = reached ms) :
    (s.status = .uninitialized ↔ ms = []) ∧
      (s.status = .isOpen ↔ ms.getLast? = some .opening) ∧
      (s.status = .closed ↔ ms.getLast? = some .closing) := by
  rw [h, ← List.getLast?_eq_none_iff]
  unfold reached
  rcases ms.getLast? with _ | _ | _ <;> simp

/-! ### While a device is open -/

/-- No other device is opened, nor the interface changed, and nothing is asked of the bus. -/
theorem alreadyOpen_of_isOpen (isOpen : s.isOpen) {action : Action}
    (h : action.isOpening ∨ ∃ interface, action = .setInterface interface) :
    action.perform s = .done (.error .alreadyOpen, s) := by
  have hrefused : ∀ m : Command Unit,
      (Command.requireNotOpen >>= fun _ => m) s = .done (.error .alreadyOpen, s) := by
    intro m
    rw [Command.requireNotOpen_then, if_pos isOpen]
  rcases h with hopening | ⟨interface, rfl⟩
  · cases action with
    | openIds | openFilter | openDevice => exact hrefused _
    | _ => cases hopening
  · exact hrefused _

/-- **Letting go of a device comes to an end** on every branch, and always to the same one. -/
theorem shutDown_completes (s : Session) (d : OpenDevice) :
    (Command.shutDown d s).Within (fun _ => True)
      (· = (.ok (), { s with link := .closed, staged := none })) := by
  unfold Command.shutDown
  by_cases hmode : d.mode = .normal
  · rw [if_pos hmode]
    rfl
  · rw [if_neg hmode]
    refine ⟨trivial, fun reply => ?_⟩
    cases reply <;> rfl

/-- So does closing an open session, whatever the bus replies to the reset. -/
theorem close_completes {σ : Type} {bus : Bus σ} (answers : bus.Answers fun _ => True)
    (isOpen : s.isOpen) (world : σ) : ∃ after, (Action.close.perform s).run bus world =
      (some (.ok (), { s with link := .closed, staged := none }), after) := by
  obtain ⟨d, hs⟩ := Session.isOpen_iff.mp isOpen
  obtain ⟨events, value, after, hplay, rfl, -⟩ := (shutDown_completes s d).completes answers world
  refine ⟨after, ?_⟩
  show (Command.close s).run bus world = _
  rw [close_of_opened hs, ← Program.play_run, hplay]

/-! ### The life of a session -/

/-- A call that leaves no mark leaves the status. -/
theorem status_of_unmarked {action : Action} {events : List Event}
    {result : Except Error action.Result} (course : action.perform.Course s events result t)
    (unmarked : (Turn.mk action events result).mark? = none) : t.status = s.status := by
  have hmoves := (perform_change course).moves
  rw [unmarked] at hmoves
  generalize s.status = before at hmoves ⊢
  cases hmoves
  rfl

/-- No call takes a session back to where it has never been open. -/
theorem status_ne_uninitialized {action : Action} {events : List Event}
    {result : Except Error action.Result} (course : action.perform.Course s events result t)
    (h : s.status ≠ .uninitialized) : t.status ≠ .uninitialized := by
  have hmoves := (perform_change course).moves
  generalize s.status = before at hmoves h
  generalize t.status = after at hmoves ⊢
  generalize Turn.mark? _ = mark? at hmoves
  cases hmoves with
  | stays => exact h
  | opens => simp
  | closes => simp

/-- **The life of a session**, after every run and on every bus. Openings and closings alternate, an
opening first, and the last of them tells the status; nothing else changes it, no call that fails
does, and no call leads back to the start. While a device is open, no call opens another one or
changes the interface, which is known without a call on the bus; and closing succeeds on every bus
that answers, also with a failure. -/
theorem lifecycle_of_run {history : List Turn} {s : Session} (run : Run history s) :
    (∀ i mark, (marks history)[i]? = some mark → (mark = .opening ↔ i % 2 = 0)) ∧
    (s.status = .uninitialized ↔ ∀ turn ∈ history, turn.opens = false) ∧
    (s.status = .isOpen ↔ (marks history).getLast? = some .opening) ∧
    (s.status = .closed ↔ (marks history).getLast? = some .closing) ∧
    (∀ (action : Action) events result t, action.perform.Course s events result t →
      ((∃ e, result = .error e) ∨ (action.isOpening = false ∧ action ≠ .close) →
        t.status = s.status) ∧
      (s.status ≠ .uninitialized → t.status ≠ .uninitialized)) ∧
    (s.status = .isOpen →
      (∀ action : Action, (action.isOpening ∨ ∃ interface, action = .setInterface interface) →
        action.perform s = .done (.error .alreadyOpen, s)) ∧
      ∀ (σ : Type) (bus : Bus σ) (world : σ), bus.Answers (fun _ => True) →
        ∃ after, (Action.close.perform s).run bus world =
          (some (.ok (), { s with link := .closed, staged := none }), after)) := by
  obtain ⟨halternate, hstatus⟩ := run.alternate
  obtain ⟨huninitialized, hopen, hclosed⟩ := status_iff_of_reached hstatus
  rw [halternate.marks_eq_nil_iff] at huninitialized
  refine ⟨halternate, huninitialized, hopen, hclosed, ?_, ?_⟩
  · intro action events result t course
    exact ⟨fun h => status_of_unmarked course (Turn.mark?_eq_none h),
      status_ne_uninitialized course⟩
  · intro h
    have isOpen : s.isOpen := beq_iff_eq.mpr h
    exact ⟨fun action => alreadyOpen_of_isOpen isOpen,
      fun σ bus world answers => close_completes answers isOpen world⟩

/-- A device is opened, its pins are driven, and it is closed though it fails the reset. -/
def Sample.openedAndClosed : List Turn :=
  [⟨.openDevice Sample.descriptor, Sample.opening (.ok ()), .ok ()⟩,
    ⟨.setBitMode 0xFF .bitBang,
      [.asked (.controlOut Sample.handle Request.setBitMode 0x01FF 1 5000) (.ok ())], .ok ()⟩,
    ⟨.close, [.asked (.controlOut Sample.handle Request.setBitMode 0 1 5000) (.error .timeout),
      .released Sample.handle], .ok ()⟩]

theorem Sample.run_openedAndClosed :
    Run Sample.openedAndClosed ⟨.default, .closed, none⟩ := by
  have driving : (Action.setBitMode 0xFF .bitBang).perform.Course
      ⟨.default, .opened Sample.device, none⟩
      [.asked (.controlOut Sample.handle Request.setBitMode 0x01FF 1 5000) (.ok ())] (.ok ())
      ⟨.default, .opened { Sample.device with mode := .driven .bitBang }, none⟩ :=
    setBitMode_course.mpr (.inr ⟨(), rfl, rfl, rfl⟩)
  have closing : Action.close.perform.Course
      ⟨.default, .opened { Sample.device with mode := .driven .bitBang }, none⟩
      [.asked (.controlOut Sample.handle Request.setBitMode 0 1 5000) (.error .timeout),
        .released Sample.handle] (.ok ()) ⟨.default, .closed, none⟩ := by
    show (Command.close _).Course _ _
    rw [close_of_opened rfl]
    exact .call (.error .timeout) (.note (.note (.release (.done _))))
  exact (Sample.run_opened.turn driving).turn closing

/-- A failing reset does not keep a device from being closed. -/
theorem lifecycle_of_run_closed :
    Alternate (marks Sample.openedAndClosed) ∧
      (marks Sample.openedAndClosed).getLast? = some .closing := by
  obtain ⟨halternate, -, -, hclosed, -⟩ := lifecycle_of_run Sample.run_openedAndClosed
  exact ⟨halternate, hclosed.mp rfl⟩

end PinBridge
