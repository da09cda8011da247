import PinBridge.Proofs.Session.Footprint
import PinBridge.Proofs.Session.Observers
import PinBridge.Proofs.Session.Opening

/-!
# Which device a filter finds

A lookup lists the devices and goes through those with the right IDs. A filter that asks for no
strings reads none, so it takes the candidate at its index (`pick_of_plain`). Any other reads the
strings of one candidate after the other, and each of these reads may fail. `Filter.Picks` are the
three ways in which that can end, each with all that has been read until then; `Picks.cons` is one
more candidate in front, and `pick_picks` the whole lookup, by induction on the candidates.

* `findDevice_play` : a lookup on a bus that has listed its devices.
* `openIds_eq_openFilter` : to open by IDs is to open by the filter that has no more than these.
* `device_lookup` : which device is found on whatever bus, and what has been asked for until then.
-/

namespace PinBridge

/-- What a request for strings is answered with. -/
abbrev StringsReply : Type := Except Error Strings

/-- **The requests for strings**, to one candidate after the other, each with its reply. -/
def stringRequests (candidates : List Descriptor) (replies : List StringsReply) : List Event :=
  List.zipWith (fun d reply => .asked (.strings d Command.stringTimeout) reply) candidates replies

namespace Filter

/-- The devices with the IDs that a filter asks for, in the order of the bus. -/
def candidates (f : Filter) (devices : List Descriptor) : List Descriptor :=
  devices.filter fun d => d.matchesIds f.vendor f.product

theorem agrees_iff {wanted found : Option String} :
    agrees wanted found ↔ ∀ text, wanted = some text → found = some text := by
  unfold agrees
  cases wanted with
  | none => simp
  | some text => simp

/-- Strings will do if each one that is asked for is there. -/
theorem accepts_iff {f : Filter} {strings : Strings} : f.accepts strings ↔
    (∀ text, f.description = some text → strings.description = some text) ∧
      ∀ text, f.serial = some text → strings.serial = some text := by
  unfold accepts
  rw [Bool.and_eq_true, agrees_iff, agrees_iff]

theorem needsStrings_eq_false_iff {f : Filter} :
    f.needsStrings = false ↔ f.description = none ∧ f.serial = none := by
  unfold needsStrings
  rw [Bool.or_eq_false_iff, Option.isSome_eq_false_iff, Option.isSome_eq_false_iff,
    Option.isNone_iff_eq_none, Option.isNone_iff_eq_none]

/-- Any strings will do where none are asked for. -/
theorem accepts_of_not_needsStrings {f : Filter} (h : f.needsStrings = false) (strings : Strings) :
    f.accepts strings := by
  obtain ⟨hdescription, hserial⟩ := needsStrings_eq_false_iff.mp h
  rw [accepts_iff, hdescription, hserial]
  exact ⟨by rintro _ ⟨⟩, by rintro _ ⟨⟩⟩

/-- **How a lookup by strings ends**: what has been read of the first candidates, all the replies,
and the result. So many that fit are skipped. -/
inductive Picks (f : Filter) (candidates : List Descriptor) (skip : Nat) (read : List Strings) :
    List StringsReply → Except Error Descriptor → Prop
  /-- The strings of the next candidate cannot be read. -/
  | unread {e : Error} (more : read.length < candidates.length)
      (few : read.countP f.accepts ≤ skip) :
      Picks f candidates skip read (read.map .ok ++ [.error e]) (.error e)
  /-- The next candidate fits, and as many as are skipped have fitted before it. -/
  | found {strings : Strings} {d : Descriptor} (next : candidates[read.length]? = some d)
      (fit : f.accepts strings) (enough : read.countP f.accepts = skip) :
      Picks f candidates skip read (read.map .ok ++ [.ok strings]) (.ok d)
  /-- There is no candidate left. -/
  | exhausted (all : read.length = candidates.length) (few : read.countP f.accepts ≤ skip) :
      Picks f candidates skip read (read.map .ok) (.error .deviceNotFound)

/-- **One more candidate in front**, which counts if it fits. -/
theorem Picks.cons {f : Filter} {candidates : List Descriptor} {skip : Nat} {read : List Strings}
    {replies : List StringsReply} {r : Except Error Descriptor}
    (h : f.Picks candidates skip read replies r) (d : Descriptor) (strings : Strings) :
    f.Picks (d :: candidates) (skip + if f.accepts strings then 1 else 0) (strings :: read)
      (.ok strings :: replies) r := by
  cases h with
  | unread more few =>
    refine .unread (Nat.succ_lt_succ more) ?_
    rw [List.countP_cons]
    exact Nat.add_le_add_right few _
  | found next fit enough =>
    refine .found next fit ?_
    rw [List.countP_cons, enough]
  | exhausted all few =>
    refine .exhausted (congrArg (· + 1) all) ?_
    rw [List.countP_cons]
    exact Nat.add_le_add_right few _

end Filter

namespace Command

variable {f : Filter} {s t : Session} {events : List Event}

/-- Without strings to be read, **the candidate at the index** is picked. -/
theorem pick_of_plain (plain : f.needsStrings = false) :
    ∀ (candidates : List Descriptor) (skip : Nat), pick f candidates skip =
      ofExcept (match candidates[skip]? with
        | some d => .ok d
        | none => .error .deviceNotFound)
  | [], skip => rfl
  | d :: rest, skip => by
    have hfits : fits f d = pure true := by
      unfold fits
      rw [plain]
      rfl
    unfold pick
    rw [hfits]
    cases skip with
    | zero => rfl
    | succ skip => exact pick_of_plain plain rest skip

/-- **A lookup by strings goes in no other way.** -/
theorem pick_picks (needs : f.needsStrings) :
    ∀ {candidates : List Descriptor} {skip : Nat} {events : List Event}
      {r : Except Error Descriptor}, (pick f candidates skip).Course s events r t →
        ∃ read replies, events = stringRequests candidates replies ∧
          f.Picks candidates skip read replies r
  | [], skip, events, r, h => by
    obtain ⟨rfl, rfl, -⟩ := course_fail.mp h
    exact ⟨[], [], rfl, .exhausted rfl (Nat.zero_le _)⟩
  | d :: rest, skip, events, r, h => by
    unfold pick fits getStrings at h
    rw [if_pos needs, Command.bind_assoc, ask_bind] at h
    rcases h with ⟨e, rfl, rfl, -⟩ | ⟨strings, others, h, rfl⟩
    · exact ⟨[], [.error e], by cases rest <;> rfl, .unread (Nat.succ_pos _) (Nat.zero_le _)⟩
    rw [pure_bind, course_ite] at h
    by_cases fit : f.accepts strings
    · rw [if_pos fit] at h
      cases skip with
      | zero =>
        obtain ⟨rfl, rfl, -⟩ := course_pure.mp h
        exact ⟨[], [.ok strings], by cases rest <;> rfl, .found rfl fit rfl⟩
      | succ skip =>
        obtain ⟨read, replies, rfl, hpicks⟩ := pick_picks needs h
        have hcons := hpicks.cons d strings
        rw [if_pos fit] at hcons
        exact ⟨strings :: read, .ok strings :: replies, rfl, hcons⟩
    · rw [if_neg fit] at h
      obtain ⟨read, replies, rfl, hpicks⟩ := pick_picks needs h
      have hcons := hpicks.cons d strings
      rw [if_neg fit] at hcons
      exact ⟨strings :: read, .ok strings :: replies, rfl, hcons⟩

/-- **A lookup on a bus that has listed its devices** goes on with the candidates among them. -/
theorem findDevice_play {σ : Type} {bus : Bus σ} {world listed : σ} {devices : List Descriptor}
    (listing : bus.reply .list world = (some (.ok devices), listed)) (f : Filter) (s : Session) :
    (findDevice f s).play bus world = Prod.map (.asked .list (.ok devices) :: ·) id
      ((pick f (f.candidates devices) f.index s).play bus
        (bus.note (.found f.vendor f.product (f.candidates devices).length) listed)) := by
  change (Program.call .list _).play bus world = _
  simp only [Program.play, listing]
  rfl

/-- **To open by IDs** is to open by the filter that asks for no more than these. -/
theorem openIds_eq_openFilter (vendor product : UInt16) :
    openIds vendor product = openFilter (.ofIds vendor product) := by
  have hplain : (Filter.ofIds vendor product).needsStrings = false := rfl
  unfold openIds openFilter findDevice
  congr 1
  funext _
  rw [Command.bind_assoc]
  congr 1
  funext candidates
  rw [pick_of_plain hplain]
  cases candidates with
  | nil => rfl
  | cons d rest => rfl

end Command

/-- **The device that a filter finds.** A bus answers every call, and lists its devices. A lookup
then leaves the session as it is. A filter that asks for no strings reads none, and finds the
candidate at its index, if there are so many. Any other reads the strings of one candidate after the
other, each once, up to the first that cannot be read, the first that fits behind as many as its
index, or the last. To open the first device with a pair of IDs is therefore the same as to open by
the filter for these. -/
theorem device_lookup {σ : Type} {bus : Bus σ} (answers : bus.Answers fun _ => True)
    {world listed : σ} {devices : List Descriptor}
    (listing : bus.reply .list world = (some (.ok devices), listed)) (f : Filter) (s : Session) :
    (∃ events r after,
      ((Action.findDevice f).perform s).play bus world =
        (.asked .list (.ok devices) :: events, some (r, s), after) ∧
      (f.description = none ∧ f.serial = none → events = [] ∧
        r = match (f.candidates devices)[f.index]? with
          | some d => .ok d
          | none => .error .deviceNotFound) ∧
      (¬(f.description = none ∧ f.serial = none) → ∃ read replies,
        events = stringRequests (f.candidates devices) replies ∧
          f.Picks (f.candidates devices) f.index read replies r)) ∧
    (∀ strings, f.accepts strings ↔
      (∀ text, f.description = some text → strings.description = some text) ∧
        ∀ text, f.serial = some text → strings.serial = some text) ∧
    ∀ vendor product, (Action.openIds vendor product).perform =
      (Action.openFilter (.ofIds vendor product)).perform := by
  refine ⟨?_, fun _ => Filter.accepts_iff, Command.openIds_eq_openFilter⟩
  have hplay := Command.findDevice_play listing f s
  rw [← Filter.needsStrings_eq_false_iff]
  cases needs : f.needsStrings with
  | false =>
    rw [Command.pick_of_plain needs] at hplay
    exact ⟨[], _, _, hplay, fun _ => ⟨rfl, rfl⟩, fun h => (h rfl).elim⟩
  | true =>
    obtain ⟨events, ⟨r, t⟩, after, hpick, -, -⟩ :=
      (@Command.pick_within (fun _ => False) f (f.candidates devices) f.index s).completes answers
        (bus.note _ listed)
    have hcourse := Program.course_of_play hpick
    obtain ⟨rfl, -⟩ := Command.pick_observes f _ _ hcourse
    rw [hpick] at hplay
    exact ⟨events, r, after, hplay, fun h => Bool.noConfusion h,
      fun _ => Command.pick_picks needs hcourse⟩

namespace Sample

/-- Three devices, which differ in their addresses. -/
def shelf : List Descriptor :=
  [descriptor, { descriptor with address := 2 }, { descriptor with address := 3 }]

/-- A bus with the three devices, of which the second has another serial. It fails all else. -/
def shelved : Bus Unit := .fixed fun
  | .list => .ok shelf
  | .strings d _ => .ok ⟨none, none, some (if d.address = 2 then "B" else "A")⟩
  | _ => .error .timeout

/-- The second of the devices with a serial. -/
def another : Filter := { Filter.ofIds 0 0 with serial := some "A", index := 1 }

end Sample

/-- Behind one device that fits and one that does not the third one is found. -/
theorem device_lookup_another : Sample.shelved.Answers (fun _ => True) ∧
    Sample.shelved.reply .list () = (some (.ok Sample.shelf), ()) ∧
    ∃ read replies,
      ((Action.findDevice Sample.another).perform ⟨.default, .unopened, none⟩).play
        Sample.shelved () = (.asked .list (.ok Sample.shelf) :: stringRequests Sample.shelf replies,
          some (.ok { Sample.descriptor with address := 3 }, ⟨.default, .unopened, none⟩), ()) ∧
      Sample.another.Picks Sample.shelf 1 read replies
        (.ok { Sample.descriptor with address := 3 }) := by
  have answers : Sample.shelved.Answers fun _ => True := Bus.fixed_answers fun _ => trivial
  have listing : Sample.shelved.reply .list () = (some (.ok Sample.shelf), ()) := rfl
  obtain ⟨⟨events, r, after, hplay, -, hread⟩, -⟩ :=
    device_lookup answers listing Sample.another ⟨.default, .unopened, none⟩
  obtain ⟨read, replies, rfl, hpicks⟩ := hread (by decide)
  have hthird : r = .ok { Sample.descriptor with address := 3 } := by
    have hrun : some (r, _) = some (Except.ok _, _) := (congrArg (·.2.1) hplay).symm.trans rfl
    cases hrun
    rfl
  subst hthird
  exact ⟨answers, listing, read, replies, hplay, hpicks⟩

end PinBridge
