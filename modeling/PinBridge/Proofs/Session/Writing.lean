import Mathlib.Algebra.Order.Floor.Div
import PinBridge.Proofs.Session.Footprint
import PinBridge.Proofs.Session.Run

/-!
# Writing a pattern

A write offers the bytes that are left in pieces of a chunk each. The device may take part of a
piece; the next piece begins behind that part. A piece that fails, or of which nothing is taken, is
the last one. `Sending` is the account of such a write, and `sendAll_sending` says that every write
goes by it, as long as the device takes no more than it is offered. What it comes to:

* `Sending.nonempty`, `Sending.offers_next` : a piece has some bytes, no more than a chunk, and they
  are those that come next.
* `Sending.taken_append` : the bytes taken are the first ones, and all of them where nothing fails.
* `Sending.failed_last` : an error comes from the last piece.
* `Sending.length_of_whole` : where all pieces are taken as a whole, the number of pieces.
-/

namespace PinBridge

/-- **A piece of a write**: the bytes that are offered to the device, and its reply. -/
structure Piece where
  offered : List UInt8
  reply : Except Error Nat

namespace Piece

/-- The bytes that the device has taken. -/
def taken (piece : Piece) : List UInt8 :=
  match piece.reply with
  | .ok n => piece.offered.take n
  | .error _ => []

/-- The piece has failed with an error, or nothing of it has been taken. -/
def Fails (piece : Piece) (e : Error) : Prop :=
  piece.reply = .error e ∨ piece.reply = .ok 0 ∧ e = .shortTransfer piece.offered.length 0

/-- The piece as it passes between a session and the bus. -/
def event (d : OpenDevice) (timeout : Nat) (piece : Piece) : Event :=
  .asked (.bulkWrite d.handle d.channel.outEndpoint piece.offered timeout) piece.reply

theorem Fails.taken {piece : Piece} {e : Error} (h : piece.Fails e) : piece.taken = [] := by
  unfold Piece.taken
  rcases h with h | ⟨h, -⟩
  · rw [h]
  · rw [h]
    exact List.take_zero

end Piece

namespace Event

/-- The device takes no more bytes than it is offered. -/
def TakesOffered : Event → Prop
  | asked (.bulkWrite _ _ data _) (.ok n) => n ≤ data.length
  | _ => True

/-- The device takes all bytes that it is offered. -/
def TakesAll : Event → Prop
  | asked (.bulkWrite _ _ data _) reply => reply = .ok data.length
  | _ => True

end Event

/-- **How a write goes** that has some bytes left: the pieces, and the error that it ends with, if
it does not get through. -/
inductive Sending (chunk : Nat) : List UInt8 → List Piece → Option Error → Prop
  /-- There are no bytes left. -/
  | through : Sending chunk [] [] none
  /-- The piece is the last one. -/
  | failed {left : List UInt8} {piece : Piece} {e : Error} (remain : left ≠ [])
      (offered : piece.offered = left.take chunk) (fails : piece.Fails e) :
      Sending chunk left [piece] (some e)
  /-- Part of the piece is taken, or all of it. -/
  | taken {left : List UInt8} {piece : Piece} {n : Nat} {pieces : List Piece}
      {failure : Option Error} (remain : left ≠ []) (offered : piece.offered = left.take chunk)
      (reply : piece.reply = .ok n) (positive : 0 < n) (within : n ≤ piece.offered.length)
      (rest : Sending chunk (left.drop n) pieces failure) :
      Sending chunk left (piece :: pieces) failure

namespace Sending

variable {chunk : Nat} {left : List UInt8} {pieces : List Piece} {failure : Option Error}

theorem take_ne_nil (positive : 0 < chunk) (remain : left ≠ []) : left.take chunk ≠ [] := by
  rw [Ne, List.take_eq_nil_iff]
  rintro (h | h)
  · omega
  · exact remain h

/-- **Each piece has bytes**, and no more than a chunk. -/
theorem nonempty (h : Sending chunk left pieces failure) (positive : 0 < chunk) :
    ∀ piece ∈ pieces, piece.offered ≠ [] ∧ piece.offered.length ≤ chunk := by
  induction h with
  | through => simp
  | failed remain offered =>
    intro piece hmem
    rw [List.mem_singleton.mp hmem, offered]
    exact ⟨take_ne_nil positive remain, List.length_take_le _ _⟩
  | taken remain offered _ _ _ _ ih =>
    intro piece hmem
    rcases List.mem_cons.mp hmem with rfl | hmem
    · rw [offered]
      exact ⟨take_ne_nil positive remain, List.length_take_le _ _⟩
    · exact ih piece hmem

/-- What has been taken of a piece are the first of the bytes that were left. -/
theorem taken_eq_take {piece : Piece} {n : Nat} (offered : piece.offered = left.take chunk)
    (reply : piece.reply = .ok n) (within : n ≤ piece.offered.length) :
    piece.taken = left.take n ∧ piece.taken.length = n := by
  have htaken : piece.taken = left.take n := by
    have hn : n ≤ chunk := by
      rw [offered, List.length_take] at within
      omega
    unfold Piece.taken
    rw [reply, offered]
    show (left.take chunk).take n = _
    rw [List.take_take, Nat.min_eq_left hn]
  refine ⟨htaken, ?_⟩
  rw [htaken, List.length_take]
  rw [offered, List.length_take] at within
  omega

/-- **Each piece offers the bytes that come next**, behind those that have been taken. -/
theorem offers_next (h : Sending chunk left pieces failure) :
    ∀ before piece after, pieces = before ++ piece :: after →
      piece.offered = (left.drop (before.flatMap Piece.taken).length).take chunk := by
  induction h with
  | through => simp
  | failed _ offered =>
    intro before piece after hpieces
    cases before with
    | nil =>
      obtain ⟨rfl, -⟩ := List.cons.inj hpieces
      exact offered
    | cons head before => simp at hpieces
  | @taken left first n rest _ _ offered reply _ within _ ih =>
    intro before piece after hpieces
    cases before with
    | nil =>
      obtain ⟨rfl, -⟩ := List.cons.inj hpieces
      exact offered
    | cons head before =>
      obtain ⟨rfl, hrest⟩ := List.cons.inj hpieces
      have hlength := (taken_eq_take offered reply within).2
      rw [ih before piece after hrest, List.drop_drop, List.flatMap_cons, List.length_append,
        hlength]

/-- **The bytes taken are the first ones**; there are none behind them just where nothing fails. -/
theorem taken_append (h : Sending chunk left pieces failure) :
    ∃ rest, pieces.flatMap Piece.taken ++ rest = left ∧ (failure = none ↔ rest = []) := by
  induction h with
  | through => exact ⟨[], rfl, by simp⟩
  | @failed left _ _ remain _ fails =>
    refine ⟨left, ?_, by simp [remain]⟩
    rw [List.flatMap_singleton, fails.taken, List.nil_append]
  | @taken left _ n _ _ _ offered reply _ within _ ih =>
    obtain ⟨rest, hrest, hfailure⟩ := ih
    refine ⟨rest, ?_, hfailure⟩
    rw [List.flatMap_cons, List.append_assoc, hrest, (taken_eq_take offered reply within).1,
      List.take_append_drop]

/-- **An error comes from the last piece.** -/
theorem failed_last (h : Sending chunk left pieces failure) {e : Error} (he : failure = some e) :
    ∃ last, pieces.getLast? = some last ∧ last.Fails e := by
  induction h with
  | through => cases he
  | failed _ _ fails =>
    cases he
    exact ⟨_, rfl, fails⟩
  | taken _ _ _ _ _ _ ih =>
    obtain ⟨last, hlast, hfails⟩ := ih he
    refine ⟨last, ?_, hfails⟩
    rw [List.getLast?_cons, hlast]
    rfl

/-- One chunk less takes one piece less. -/
theorem ceilDiv_of_pos {length : Nat} (positive : 0 < chunk) (remain : 0 < length) :
    length ⌈/⌉ chunk = (length - min chunk length) ⌈/⌉ chunk + 1 := by
  simp only [Nat.ceilDiv_eq_add_pred_div]
  rcases Nat.le_total chunk length with hle | hle
  · have hsum : length + chunk - 1 = (length - chunk + chunk - 1) + chunk := by omega
    rw [Nat.min_eq_left hle, hsum, Nat.add_div_right _ positive]
  · have hfirst : length + chunk - 1 = (length - 1) + chunk := by omega
    have hnone : length - length + chunk - 1 < chunk := by omega
    rw [Nat.min_eq_right hle, hfirst, Nat.add_div_right _ positive, Nat.div_eq_of_lt hnone,
      Nat.div_eq_of_lt (by omega)]

/-- **Where all pieces are taken as a whole** nothing fails, and there is a piece for each chunk
that has been begun. -/
theorem length_of_whole (h : Sending chunk left pieces failure) (positive : 0 < chunk)
    (whole : ∀ piece ∈ pieces, piece.reply = .ok piece.offered.length) :
    failure = none ∧ pieces.length = left.length ⌈/⌉ chunk := by
  induction h with
  | through => simp
  | failed remain offered fails =>
    exfalso
    have hreply := whole _ List.mem_cons_self
    rcases fails with hfails | ⟨hfails, -⟩
    · cases hreply.symm.trans hfails
    · have hzero := Except.ok.inj (hreply.symm.trans hfails)
      rw [offered] at hzero
      exact take_ne_nil positive remain (List.eq_nil_of_length_eq_zero hzero)
  | @taken left piece n rest failure remain offered reply _ _ _ ih =>
    have hreply := whole _ List.mem_cons_self
    have hn : n = min chunk left.length := by
      have := Except.ok.inj (reply.symm.trans hreply)
      rw [this, offered, List.length_take]
    obtain ⟨hfailure, hlength⟩ := ih fun other hmem => whole other (List.mem_cons_of_mem _ hmem)
    refine ⟨hfailure, ?_⟩
    rw [List.length_cons, hlength, List.length_drop, hn,
      ceilDiv_of_pos positive (List.length_pos_of_ne_nil remain)]

end Sending

namespace Command

variable {s t : Session} {d : OpenDevice}

/-- What a write ends in. -/
def sent (count : Nat) : Option Error → Except Error Nat
  | none => .ok count
  | some e => .error e

/-- **Every write goes by its account**, on a device that takes no more than it is offered. -/
theorem sendAll_sending {chunk timeout : Nat} (data : List UInt8) (count : Nat) :
    ∀ {events : List Event} {r : Except Error Nat},
      (sendAll d chunk timeout data count).Course events r →
      (∀ event ∈ events, event.TakesOffered) →
      ∃ pieces failure, events = pieces.map (Piece.event d timeout) ∧
        Sending chunk data pieces failure ∧ r = sent (count + data.length) failure := by
  induction data, count using sendAll.induct d chunk timeout with
  | case1 count =>
    intro events r h _
    unfold sendAll at h
    obtain ⟨rfl, rfl⟩ := Program.course_done.mp h
    exact ⟨[], none, rfl, .through, rfl⟩
  | case2 b rest count piece =>
    rename_i ih
    intro events r h takes
    unfold sendAll at h
    obtain ⟨reply, tail, rfl, htail⟩ := Program.course_call.mp h
    have remain : b :: rest ≠ [] := List.cons_ne_nil _ _
    rcases reply with e | _ | more
    · obtain ⟨rfl, rfl⟩ := Program.course_done.mp htail
      exact ⟨[⟨piece, .error e⟩], e, rfl, .failed remain rfl (.inl rfl), rfl⟩
    · obtain ⟨rfl, rfl⟩ := Program.course_done.mp htail
      exact ⟨[⟨piece, .ok 0⟩], _, rfl, .failed remain rfl (.inr ⟨rfl, rfl⟩), rfl⟩
    · have within : more + 1 ≤ piece.length := takes _ List.mem_cons_self
      obtain ⟨pieces, failure, rfl, hsending, rfl⟩ :=
        ih more htail fun event hmem => takes event (List.mem_cons_of_mem _ hmem)
      refine ⟨⟨piece, .ok (more + 1)⟩ :: pieces, failure, rfl,
        .taken remain rfl rfl (Nat.succ_pos more) within hsending, ?_⟩
      have hpiece : piece.length ≤ rest.length + 1 := List.length_take_le' _ _
      rw [List.length_drop, List.length_cons]
      congr 1
      omega

/-- To write a pattern is to send all of it, if a bit mode is selected. -/
theorem writePattern_of_driven (hs : s.link = .opened d) (driven : d.mode ≠ .normal)
    (pattern : List UInt8) :
    writePattern pattern s =
      (sendAll d s.options.writeChunk s.options.writeTimeout pattern 0).bind fun r =>
        .done (r, s) := by
  obtain ⟨options, link, staged⟩ := s
  cases hs
  unfold writePattern requireDriven
  change ((if d.mode = .normal then _ else _ : Command Unit) _).bind _ = _
  rw [if_neg driven]
  rfl

/-- So does the writing of a pattern. -/
theorem writePattern_sending (hs : s.link = .opened d) (driven : d.mode ≠ .normal)
    {pattern : List UInt8} {events : List Event} {r : Except Error Nat}
    (h : (writePattern pattern).Course s events r t)
    (takes : ∀ c reply, .asked c reply ∈ events → (Event.asked c reply).TakesOffered) :
    ∃ pieces failure, events = pieces.map (Piece.event d s.options.writeTimeout) ∧
      Sending s.options.writeChunk pattern pieces failure ∧ r = sent pattern.length failure ∧
      t = s := by
  unfold Command.Course at h
  rw [writePattern_of_driven hs driven] at h
  obtain ⟨first, r', second, hsend, hdone, rfl⟩ := Program.course_bind.mp h
  obtain ⟨rfl, hdone⟩ := Program.course_done.mp hdone
  cases hdone
  rw [List.append_nil] at takes ⊢
  have htakes : ∀ event ∈ first, event.TakesOffered := by
    intro event hmem
    cases event with
    | asked c reply => exact takes c reply hmem
    | released handle => trivial
  obtain ⟨pieces, failure, hpieces, hsending, hr⟩ := sendAll_sending pattern 0 hsend htakes
  rw [Nat.zero_add] at hr
  exact ⟨pieces, failure, hpieces, hsending, hr, rfl⟩

end Command

open Command

/-- No call makes a chunk empty. -/
theorem Run.usable {history : List Turn} {s : Session} (run : Run history s) :
    s.options.Usable := by
  induction run with
  | new made => exact Session.usable_of_new made
  | @turn history s t action events result run course ih =>
    exact ((perform_within action s).of_course course).1 ih

/-- **A pattern is delivered once and in order.** On a bus whose devices take no more than they are
offered, and whatever part of a piece they take: each piece has bytes that come next, at most a
chunk, and the bytes taken are the first of the pattern. The write gets through just where they are
all of it, and tells their number then; otherwise the last piece has failed, or nothing of it has
been taken. Devices that take all that they are offered have the pattern after as many pieces as
there are chunks, be they full or begun. No run of a session makes a chunk empty. -/
theorem pattern_delivered {σ : Type} {bus : Bus σ} (answers : bus.Answers Event.TakesOffered)
    (pattern : List UInt8) :
    (∀ history s, Run history s → 0 < s.options.readChunk ∧ 0 < s.options.writeChunk) ∧
    ∀ (s : Session) (d : OpenDevice) (world : σ), s.link = .opened d → d.mode ≠ .normal →
      0 < s.options.writeChunk → ∃ pieces r after,
        ((Action.writePattern pattern).perform s).play bus world =
          (pieces.map (Piece.event d s.options.writeTimeout), some (r, s), after) ∧
        (∀ piece ∈ pieces,
          piece.offered ≠ [] ∧ piece.offered.length ≤ s.options.writeChunk) ∧
        (∀ before piece behind, pieces = before ++ piece :: behind → piece.offered =
          (pattern.drop (before.flatMap Piece.taken).length).take s.options.writeChunk) ∧
        pieces.flatMap Piece.taken <+: pattern ∧
        ((∃ n, r = .ok n) ↔ pieces.flatMap Piece.taken = pattern) ∧
        (∀ n, r = .ok n → n = pattern.length) ∧
        (∀ e, r = .error e → ∃ last, pieces.getLast? = some last ∧ (last.reply = .error e ∨
          last.reply = .ok 0 ∧ e = .shortTransfer last.offered.length 0)) ∧
        (bus.Answers Event.TakesAll → r = .ok pattern.length ∧
          pieces.flatMap Piece.taken = pattern ∧
          pieces.length = pattern.length ⌈/⌉ s.options.writeChunk) := by
  refine ⟨fun history s run => run.usable, fun s d world hs driven positive => ?_⟩
  obtain ⟨events, ⟨r, t⟩, after, hplay, -, hfine⟩ :=
    (perform_within (.writePattern pattern) s).completes answers world
  obtain ⟨pieces, failure, rfl, hsending, rfl, rfl⟩ :=
    writePattern_sending hs driven (Program.course_of_play hplay) hfine
  obtain ⟨rest, htaken, hthrough⟩ := hsending.taken_append
  have hok : (∃ n, sent pattern.length failure = .ok n) ↔ failure = none := by
    cases failure <;> simp [sent]
  have hwhole : pieces.flatMap Piece.taken = pattern ↔ rest = [] := by
    constructor
    · intro h
      rw [h] at htaken
      exact List.append_right_eq_self.mp htaken
    · rintro rfl
      rwa [List.append_nil] at htaken
  refine ⟨pieces, sent pattern.length failure, after, hplay, hsending.nonempty positive,
    hsending.offers_next, ⟨rest, htaken⟩, ?_, ?_, ?_, fun all => ?_⟩
  · rw [hok, hwhole, hthrough]
  · intro n hn
    cases failure with
    | none => exact (Except.ok.inj hn).symm
    | some e => cases hn
  · intro e he
    cases failure with
    | none => cases he
    | some e' =>
      cases he
      exact hsending.failed_last rfl
  · -- the same play, now known to be one in which every piece is taken as a whole
    obtain ⟨events', value, after', hplay', -, hall⟩ :=
      (perform_within (.writePattern pattern) _).completes all world
    obtain ⟨rfl, -⟩ := Prod.mk.inj (hplay'.symm.trans hplay)
    obtain ⟨rfl, hlength⟩ := hsending.length_of_whole positive fun piece hmem =>
      hall _ _ (List.mem_map_of_mem hmem)
    exact ⟨rfl, hwhole.mpr (hthrough.mp rfl), hlength⟩

namespace Sample

/-- A bus whose devices take all bytes that they are offered, and do nothing else. -/
def taking : Bus Unit := .fixed fun
  | .bulkWrite _ _ data _ => .ok data.length
  | _ => .error .timeout

theorem taking_answers : taking.Answers Event.TakesAll :=
  Bus.fixed_answers fun c => by cases c <;> trivial

/-- A session in chunks of two bytes, with the pins of its device driven. -/
def inPairs : Session :=
  ⟨{ Options.default with writeChunk := 2 },
    .opened { device with mode := .driven .bitBang }, none⟩

end Sample

/-- Five bytes are delivered in three pieces. -/
theorem pattern_delivered_pairs : Sample.taking.Answers Event.TakesOffered ∧
    ∃ (pieces : List Piece) (r : Except Error Nat) (after : Unit),
      ((Action.writePattern [1, 2, 3, 4, 5]).perform Sample.inPairs).play Sample.taking () =
        (pieces.map (Piece.event { Sample.device with mode := .driven .bitBang } 5000),
          some (r, Sample.inPairs), after) ∧
      r = .ok 5 ∧ pieces.flatMap Piece.taken = [1, 2, 3, 4, 5] ∧ pieces.length = 3 := by
  have answers : Sample.taking.Answers Event.TakesOffered := Bus.fixed_answers fun c => by
    cases c with
    | bulkWrite => exact Nat.le_refl _
    | _ => trivial
  have delivered := (pattern_delivered answers [1, 2, 3, 4, 5]).2 Sample.inPairs _ () rfl
    (by decide) (by decide)
  obtain ⟨pieces, r, after, hplay, -, -, -, -, -, -, hwhole⟩ := delivered
  exact ⟨answers, pieces, r, after, hplay, hwhole Sample.taking_answers⟩

end PinBridge
