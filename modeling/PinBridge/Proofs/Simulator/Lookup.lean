import PinBridge.Proofs.Session.Lookup
import PinBridge.Proofs.Simulator.Calm

/-!
# Looking boards up on a bus without failures

Enumeration lists the boards in order, and each further step of a lookup asks for a device by its
place on the bus. On a bus whose boards are numbered as they are added, that is the board that the
descriptor was listed for, so a lookup comes to what the boards themselves say: `Filter.Describes`
are the boards that a filter asks for, and `described` lists them with their positions.

An operation *learns* (`Command.Learns`) if it comes to a fixed result and changes neither the
session nor the bus, its count of calls apart. To learn is kept by `bind`.

* `getStrings_learns` : the strings of a descriptor are those of its board.
* `pick_learns` : of the candidates with the right strings the one at the index is picked.
* `findDevice_learns` : a filter finds the board at its index among those that it describes.
-/

namespace PinBridge

open Simulator

namespace Filter

/-- **A board that a filter describes**: it has the IDs, and its own strings are those asked for. -/
structure Describes (f : Filter) (b : Board) : Prop where
  ids : b.descriptor.matchesIds f.vendor f.product
  description : ∀ text, f.description = some text → b.strings.description = some text
  serial : ∀ text, f.serial = some text → b.strings.serial = some text

theorem describes_iff {f : Filter} {b : Board} :
    f.Describes b ↔ b.descriptor.matchesIds f.vendor f.product ∧ f.accepts b.strings := by
  rw [accepts_iff]
  exact ⟨fun h => ⟨h.ids, h.description, h.serial⟩, fun h => ⟨h.1, h.2.1, h.2.2⟩⟩

instance (f : Filter) (b : Board) : Decidable (f.Describes b) := decidable_of_iff' _ describes_iff

end Filter

/-- The boards that a filter describes, each with its position, in the order of the bus. -/
def described (f : Filter) (boards : List Board) : List (Board × Nat) :=
  boards.zipIdx.filter fun entry => f.Describes entry.1

theorem getElem?_of_mem_zipIdx {boards : List Board} {entry : Board × Nat}
    (h : entry ∈ boards.zipIdx) : boards[entry.2]? = some entry.1 :=
  List.mem_zipIdx_iff_getElem?.mp h

/-- Enumeration lists the boards in order. -/
theorem Simulator.State.reply_list {s : State} (calm : s.failLists = 0) :
    bus.reply .list s = (some (.ok (s.boards.map (·.descriptor))), s.count .list) := by
  have hlist : ∀ t : State, t.failLists = 0 → t.list = (.ok (t.boards.map (·.descriptor)), t) := by
    intro t h
    unfold State.list
    rw [h]
  exact congrArg (Prod.map some id) (hlist (s.count .list) calm)

/-- The place of an enumerated descriptor, on a bus with the boards that were enumerated. -/
theorem Simulator.State.position_of_enumerated {world s : State} {b : Board} {i : Nat}
    (numbered : world.Numbered) (few : world.boards.length ≤ 255)
    (hb : world.boards[i]? = some b) (hboards : s.boards = world.boards) :
    s.position b.descriptor = .ok i := by
  unfold State.position
  rw [hboards]
  exact State.position_of_numbered numbered few hb

namespace Command

variable {α β : Type} {world : State}

/-- **An operation that learns**: it comes to a result, and nothing has changed but the count of
calls. -/
def Learns (world : State) (m : Command α) (r : Except Error α) : Prop :=
  ∀ s calls, ∃ calls', (m s).run bus { world with calls } =
    (some (r, s), { world with calls := calls' })

namespace Learns

theorem ofExcept (r : Except Error α) : Learns world (ofExcept r) r :=
  fun _ calls => ⟨calls, rfl⟩

theorem pure (a : α) : Learns world (pure a) (.ok a) := ofExcept (.ok a)

theorem note (n : Note) : Learns world (note n) (.ok ()) := fun _ calls => ⟨calls, rfl⟩

theorem bind {m : Command α} {f : α → Command β} {a : α} {r : Except Error β}
    (hm : Learns world m (.ok a)) (hf : Learns world (f a) r) : Learns world (m >>= f) r := by
  intro s calls
  obtain ⟨calls₁, h₁⟩ := hm s calls
  obtain ⟨calls₂, h₂⟩ := hf s calls₁
  refine ⟨calls₂, ?_⟩
  show ((m s).bind _).run bus _ = _
  rw [Program.run_bind, h₁]
  exact h₂

theorem ask {c : Call} {r : c.Reply} (h : ∀ calls, bus.reply c { world with calls } =
    (some r, { world with calls := calls.add c })) : Learns world (ask c) r := by
  intro s calls
  refine ⟨calls.add c, ?_⟩
  show (Program.call c fun reply => .done (reply, s)).run bus _ = _
  simp only [Program.run, h calls]

end Learns

section

variable (calm : world.Calm)
include calm

theorem findAll_learns (vendor product : UInt16) : Learns world (findAll vendor product)
    (.ok ((world.boards.map (·.descriptor)).filter fun d => d.matchesIds vendor product)) := by
  have hlist : Learns world (ask .list) (.ok (world.boards.map (·.descriptor))) := .ask fun calls =>
    State.reply_list (s := { world with calls }) calm.lists
  exact hlist.bind (.bind (.note _) (.pure _))

variable (numbered : world.Numbered) (few : world.boards.length ≤ 255)
include numbered few

/-- **The strings of an enumerated descriptor** are those that its board tells. -/
theorem getStrings_learns {b : Board} {i : Nat} (hb : world.boards[i]? = some b) :
    Learns world (getStrings b.descriptor) (.ok b.strings) := by
  refine .ask fun calls => ?_
  have hstrings : ∀ s : State, s.boards = world.boards → s.failStrings = world.failStrings →
      s.strings b.descriptor = .ok b.strings := by
    intro s hboards hfail
    unfold State.strings
    rw [State.position_of_enumerated numbered few hb hboards, hfail, hboards]
    simp only [calm.strings, hb, Bool.false_eq_true, if_false]
  exact Prod.ext (congrArg some (hstrings _ rfl rfl)) rfl

theorem fits_learns (f : Filter) {b : Board} {i : Nat} (hb : world.boards[i]? = some b) :
    Learns world (fits f b.descriptor) (.ok (f.accepts b.strings)) := by
  unfold fits
  by_cases hneeds : f.needsStrings
  · rw [if_pos hneeds]
    exact (getStrings_learns calm numbered few hb).bind (.pure _)
  · rw [if_neg hneeds, Filter.accepts_of_not_needsStrings (by simpa using hneeds)]
    exact .pure true

/-- **Of the candidates with the strings asked for** the next one after those skipped is picked. -/
theorem pick_learns (f : Filter) (candidates : List (Board × Nat)) (skip : Nat)
    (hall : ∀ entry ∈ candidates, world.boards[entry.2]? = some entry.1) :
    Learns world (pick f (candidates.map (·.1.descriptor)) skip)
      (match (candidates.filter fun entry => f.accepts entry.1.strings)[skip]? with
        | some entry => .ok entry.1.descriptor
        | none => .error .deviceNotFound) := by
  induction candidates generalizing skip with
  | nil => exact .ofExcept _
  | cons entry rest ih =>
    have hrest := fun skip => ih skip fun other hmem => hall other (List.mem_cons_of_mem _ hmem)
    have hfits := fits_learns calm numbered few f (hall entry List.mem_cons_self)
    rw [List.map_cons]
    unfold pick
    refine hfits.bind ?_
    by_cases haccepts : f.accepts entry.1.strings
    · rw [if_pos haccepts, List.filter_cons, if_pos haccepts]
      cases skip with
      | zero => exact .pure _
      | succ skip => exact hrest skip
    · rw [if_neg haccepts, List.filter_cons, if_neg haccepts]
      exact hrest skip

/-- **The device that a filter finds** is the one at its index among the boards it describes. -/
theorem findDevice_learns (f : Filter) : Learns world (findDevice f)
    (match (described f world.boards)[f.index]? with
      | some entry => .ok entry.1.descriptor
      | none => .error .deviceNotFound) := by
  -- The candidates with their positions, by the IDs alone.
  let candidates := world.boards.zipIdx.filter
    fun entry => entry.1.descriptor.matchesIds f.vendor f.product
  have hcandidates : (world.boards.map (·.descriptor)).filter
      (fun d => d.matchesIds f.vendor f.product) = candidates.map (·.1.descriptor) := by
    have hboards : world.boards.map (·.descriptor) =
        world.boards.zipIdx.map (·.1.descriptor) := by
      have hfst := congrArg (List.map (·.descriptor)) (List.zipIdx_map_fst 0 world.boards)
      rw [List.map_map] at hfst
      exact hfst.symm
    rw [hboards, List.filter_map]
    rfl
  have hdescribed : (candidates.filter fun entry => f.accepts entry.1.strings) =
      described f world.boards := by
    unfold described
    rw [List.filter_filter]
    refine List.filter_congr fun entry _ => ?_
    rw [Bool.eq_iff_iff, Bool.and_eq_true, decide_eq_true_iff, Filter.describes_iff]
    exact And.comm
  have hpick := pick_learns calm numbered few f candidates f.index fun entry hmem =>
    getElem?_of_mem_zipIdx (List.mem_filter.mp hmem).1
  have hfound := findAll_learns calm f.vendor f.product
  rw [hcandidates] at hfound
  rw [hdescribed] at hpick
  exact hfound.bind hpick

end

end Command

end PinBridge
