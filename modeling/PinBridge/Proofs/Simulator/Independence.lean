import Mathlib.Logic.Function.Basic
import PinBridge.Proofs.Simulator.Alongside
import PinBridge.Proofs.Simulator.Pins

/-!
# Two sessions on one bus

Two sessions that keep to different boards of a bus without failures do not interfere. `serveShared`
takes their uses in any order, and `sessions_independent` compares it with serving all those of one
session before those of the other: each use comes to the same, and the sessions and the whole bus
are the same at the end.

Both are compared with two buses on which each session is alone. `Apart` says how a bus that they
share rests on the two: each session finds its board as if it were alone, and all other boards are
as they were at the start. A use of either session keeps this (`Apart.of_mirrors`), hence any order of
uses does (`Apart.serve`); and it leaves no choice what the shared bus is (`Apart.unique`).
-/

namespace PinBridge

open Simulator

/-- One of two sessions on a bus. -/
inductive Side
  | left
  | right
  deriving DecidableEq

/-- The other one. -/
def Side.other : Side → Side
  | left => right
  | right => left

/-- What belongs to one side, in order. -/
def only {α : Type} (side : Side) (items : List (Side × α)) : List α :=
  items.filterMap fun item => if item.1 = side then some item.2 else none

/-- **Serves the uses of two sessions** on a bus that they share, in the order given. -/
def serveShared {σ : Type} (bus : Bus σ) (perform : (use : Use) → Command use.Result) :
    List (Side × Use) → (Side → Session) → σ → List (Side × Outcome) × (Side → Session) × σ
  | [], sessions, world => ([], sessions, world)
  | (side, use) :: rest, sessions, world =>
    let (outcome, t, after) := use.play bus perform (sessions side) world
    Prod.map ((side, outcome) :: ·) id
      (serveShared bus perform rest (Function.update sessions side t) after)

section only

variable {α : Type} {side other : Side} {item : α} {items : List (Side × α)}

theorem only_cons_self : only side ((side, item) :: items) = item :: only side items := by
  unfold only
  rw [List.filterMap_cons, if_pos rfl]

theorem only_cons_of_ne (h : other ≠ side) :
    only side ((other, item) :: items) = only side items := by
  unfold only
  rw [List.filterMap_cons, if_neg h]

theorem mem_of_mem_only (h : item ∈ only side items) : (side, item) ∈ items := by
  obtain ⟨⟨side', item'⟩, hmem, hsome⟩ := List.mem_filterMap.mp h
  split at hsome
  · next hside =>
    cases hside
    cases hsome
    exact hmem
  · cases hsome

end only

/-! ### A shared bus -/

/-- **A bus that two sessions share**, next to buses on which each of them is alone. -/
structure Apart (start : State) (place : Side → Nat) (alone : Side → State) (shared : State) :
    Prop where
  calm_alone : ∀ side, (alone side).Calm
  calm_shared : shared.Calm
  build_alone : ∀ side, (alone side).boards.map Board.build = start.boards.map Board.build
  build_shared : shared.boards.map Board.build = start.boards.map Board.build
  board : ∀ side, shared.boards[place side]? = (alone side).boards[place side]?
  elsewhere : ∀ k, (∀ side, place side ≠ k) → shared.boards[k]? = start.boards[k]?
  calls : shared.calls.plus start.calls = (alone .left).calls.plus (alone .right).calls

namespace Apart

variable {start shared shared' alone' : State} {place : Side → Nat} {alone : Side → State}
  {side : Side}

/-- At the start all buses are the same. -/
theorem of_calm (calm : start.Calm) : Apart start place (fun _ => start) start where
  calm_alone _ := calm
  calm_shared := calm
  build_alone _ := rfl
  build_shared := rfl
  board _ := rfl
  elsewhere _ _ := rfl
  calls := rfl

/-- Either session finds its board as if it were alone. -/
theorem mirrors (h : Apart start place alone shared) (side : Side) :
    Mirrors start (place side) (fun k => shared.boards[k]?) (alone side.other).calls (alone side)
      shared where
  calm_alone := h.calm_alone side
  calm_shared := h.calm_shared
  build_alone := h.build_alone side
  build_shared := h.build_shared
  board := h.board side
  rest _ _ := rfl
  calls := by
    cases side with
    | left => exact h.calls
    | right => exact h.calls.trans (Tally.plus_comm _ _)

theorem place_ne (apart : place .left ≠ place .right) {other : Side} (h : other ≠ side) :
    place side ≠ place other := by
  cases side with
  | left =>
    cases other with
    | left => exact absurd rfl h
    | right => exact apart
  | right =>
    cases other with
    | left => exact apart.symm
    | right => exact absurd rfl h

/-- **The step**: what one session does keeps the other apart. -/
theorem of_mirrors (h : Apart start place alone shared) (apart : place .left ≠ place .right)
    (mirrors : Mirrors start (place side) (fun k => shared.boards[k]?) (alone side.other).calls
      alone' shared') : Apart start place (Function.update alone side alone') shared' where
  calm_alone := (Function.forall_update_iff alone fun _ world => world.Calm).mpr
    ⟨mirrors.calm_alone, fun other _ => h.calm_alone other⟩
  calm_shared := mirrors.calm_shared
  build_alone := (Function.forall_update_iff alone fun _ world =>
      world.boards.map Board.build = start.boards.map Board.build).mpr
    ⟨mirrors.build_alone, fun other _ => h.build_alone other⟩
  build_shared := mirrors.build_shared
  board := (Function.forall_update_iff alone fun other world =>
      shared'.boards[place other]? = world.boards[place other]?).mpr
    ⟨mirrors.board, fun other hother =>
      (mirrors.rest _ (place_ne apart hother)).trans (h.board other)⟩
  elsewhere k hk := (mirrors.rest k (hk side)).trans (h.elsewhere k hk)
  calls := by
    cases side with
    | left => exact mirrors.calls
    | right => exact mirrors.calls.trans (Tally.plus_comm _ _)

/-- **The run**: the uses of either session come to what they would come to if it were alone. -/
theorem serve {uses : List (Side × Use)} {sessions : Side → Session}
    (h : Apart start place alone shared) (apart : place .left ≠ place .right)
    (keeps : ∀ side, (sessions side).KeepsTo (place side))
    (opens : ∀ side use, (side, use) ∈ uses → ∀ d, use.May (.claim d) →
      start.position d = .ok (place side)) :
    ∃ outcomes sessions' alone' shared',
      serveShared bus Use.perform uses sessions shared = (outcomes, sessions', shared') ∧
      (∀ side, PinBridge.serve bus Use.perform (only side uses) (sessions side) (alone side) =
        (only side outcomes, sessions' side, alone' side)) ∧
      Apart start place alone' shared' := by
  induction uses generalizing sessions alone shared with
  | nil => exact ⟨[], sessions, alone, shared, rfl, fun _ => rfl, h⟩
  | cons item uses ih =>
    obtain ⟨side, use⟩ := item
    obtain ⟨outcome, t, alone₁, shared₁, halone, hshared, hkeeps, mirrors⟩ :=
      (h.mirrors side).play (keeps side) (opens side use List.mem_cons_self)
    have keeps' : ∀ other, (Function.update sessions side t other).KeepsTo (place other) :=
      (Function.forall_update_iff sessions fun other s => s.KeepsTo (place other)).mpr
        ⟨hkeeps, fun other _ => keeps other⟩
    obtain ⟨outcomes, sessions', alone', shared', hserve, hsides, h'⟩ :=
      ih (h.of_mirrors apart mirrors) keeps' fun side use hmem =>
        opens side use (List.mem_cons_of_mem _ hmem)
    refine ⟨(side, outcome) :: outcomes, sessions', alone', shared', ?_, fun other => ?_, h'⟩
    · simp only [serveShared, hshared, hserve]
      rfl
    · have hother := hsides other
      by_cases hside : side = other
      · subst hside
        rw [Function.update_self, Function.update_self] at hother
        rw [only_cons_self, only_cons_self]
        simp only [PinBridge.serve, halone, hother]
        rfl
      · rw [Function.update_of_ne (Ne.symm hside), Function.update_of_ne (Ne.symm hside)] at hother
        rw [only_cons_of_ne hside, only_cons_of_ne hside]
        exact hother

/-- **There is no choice** what the shared bus is. -/
theorem unique (h : Apart start place alone shared) (h' : Apart start place alone shared') :
    shared = shared' := by
  have hboards : shared.boards = shared'.boards := by
    refine List.ext_getElem? fun k => ?_
    by_cases hk : ∃ side, place side = k
    · obtain ⟨side, rfl⟩ := hk
      exact (h.board side).trans (h'.board side).symm
    · have hk : ∀ side, place side ≠ k := fun side hside => hk ⟨side, hside⟩
      exact (h.elsewhere k hk).trans (h'.elsewhere k hk).symm
  have hcalls : shared.calls = shared'.calls := Tally.eq_of_plus (h.calls.trans h'.calls.symm)
  obtain ⟨hopens, hlists, hstrings, htransfers⟩ := h.calm_shared
  obtain ⟨hopens', hlists', hstrings', htransfers'⟩ := h'.calm_shared
  cases shared
  cases shared'
  simp_all

end Apart

/-- **Two sessions do not interfere.** A bus has at most 255 boards, numbered as they are when they
are added, and no failure is in store. Two sessions are made, each opens no device but one board of
its own, by the descriptor that is enumerated for it, and their uses are served in any order. Then
each use comes to the same, and at the end both sessions and the whole bus are the same, as if all
uses of the one session had been served before those of the other. And no other board is changed. -/
theorem sessions_independent {world : State} {place : Side → Nat} {options : Side → Options}
    {sessions : Side → Session} {uses : List (Side × Use)} (calm : world.Calm)
    (numbered : world.Numbered) (few : world.boards.length ≤ 255)
    (apart : place .left ≠ place .right)
    (made : ∀ side, Session.new (options side) = .ok (sessions side))
    (stays : ∀ side use, (side, use) ∈ uses → use.StaysAt world (place side)) :
    let shared := serveShared bus Use.perform uses sessions world
    let first := serve bus Use.perform (only .left uses) (sessions .left) world
    let second := serve bus Use.perform (only .right uses) (sessions .right) first.2.2
    (only .left shared.1 = first.1 ∧ only .right shared.1 = second.1) ∧
    (shared.2.1 .left = first.2.1 ∧ shared.2.1 .right = second.2.1) ∧
    shared.2.2 = second.2.2 ∧
    ∀ k, (∀ side, place side ≠ k) → shared.2.2.boards[k]? = world.boards[k]? := by
  have keeps := fun side => Session.keepsTo_of_new (made side) (place side)
  have opens := fun side use hmem => (stays side use hmem).opens numbered few
  have start : Apart world place (fun _ => world) world := .of_calm calm
  obtain ⟨outcomes, sessions', alone', shared', hshared, hsides, h⟩ :=
    start.serve apart keeps opens
  -- the one after the other
  obtain ⟨outcomes₁, t₁, alone₁, shared₁, halone₁, hshared₁, h₁⟩ :=
    (start.mirrors .left).serve (keeps .left) fun use hmem =>
      opens .left use (mem_of_mem_only hmem)
  have serial := start.of_mirrors apart h₁
  obtain ⟨outcomes₂, t₂, alone₂, shared₂, halone₂, hshared₂, h₂⟩ :=
    (serial.mirrors .right).serve (keeps .right) fun use hmem =>
      opens .right use (mem_of_mem_only hmem)
  have serial := serial.of_mirrors apart h₂
  -- either session has done alone what it has done in both orders
  obtain ⟨houtcomes₁, hleft⟩ := Prod.mk.inj ((hsides .left).symm.trans halone₁)
  obtain ⟨hsession₁, hworld₁⟩ := Prod.mk.inj hleft
  obtain ⟨houtcomes₂, hright⟩ := Prod.mk.inj ((hsides .right).symm.trans halone₂)
  obtain ⟨hsession₂, hworld₂⟩ := Prod.mk.inj hright
  have halone : alone' =
      Function.update (Function.update (fun _ => world) .left alone₁) .right alone₂ := by
    funext side
    cases side with
    | left => exact hworld₁
    | right => exact hworld₂
  have hworld : shared' = shared₂ := Apart.unique (halone ▸ h) serial
  simp only [hshared, hshared₁, hshared₂]
  exact ⟨⟨houtcomes₁, houtcomes₂⟩, ⟨hsession₁, hsession₂⟩, hworld, h.elsewhere⟩

namespace Sample

/-- A bus with two light boards. -/
def lights : State := .ofBoards [.light, .light]

/-- The second one, as enumeration lists it. -/
def secondLight : Descriptor := { light with address := 2 }

/-- A session that drives its pins, and one beside it that opens its board and closes it again. -/
def mixedUses : List (Side × Use) :=
  [(.left, .call (.openDevice light)), (.right, .call (.openDevice secondLight)),
    (.left, .call (.setBitMode 0x0F .bitBang)), (.right, .call (.findAll vendorId ProductId.board)),
    (.left, .call (.writeData 0xA5)), (.right, .call .close), (.left, .drop)]

end Sample

/-- The bus is as it would be if the one had come behind the other. -/
theorem sessions_independent_lights :
    (serveShared bus Use.perform Sample.mixedUses (fun _ => ⟨.default, .unopened, none⟩)
        Sample.lights).2.2 =
      (serve bus Use.perform (only .right Sample.mixedUses) ⟨.default, .unopened, none⟩
        (serve bus Use.perform (only .left Sample.mixedUses) ⟨.default, .unopened, none⟩
          Sample.lights).2.2).2.2 := by
  have calm : Sample.lights.Calm := ⟨rfl, rfl, rfl, rfl⟩
  have stays : ∀ side use, (side, use) ∈ Sample.mixedUses →
      use.StaysAt Sample.lights (match side with | .left => 0 | .right => 1) := by
    intro side use hmem
    simp only [Sample.mixedUses, List.mem_cons, Prod.mk.injEq, List.not_mem_nil, or_false] at hmem
    rcases hmem with ⟨rfl, rfl⟩ | ⟨rfl, rfl⟩ | ⟨rfl, rfl⟩ | ⟨rfl, rfl⟩ | ⟨rfl, rfl⟩ | ⟨rfl, rfl⟩ |
      ⟨rfl, rfl⟩
    all_goals trivial
  obtain ⟨-, -, hworld, -⟩ := sessions_independent calm (State.numbered_ofBoards _) (by decide)
    (by decide) (fun _ => (rfl : Session.new .default = .ok ⟨.default, .unopened, none⟩)) stays
  exact hworld

end PinBridge
