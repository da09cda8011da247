import Mathlib.Data.Fin.VecNotation
import Mathlib.Data.FinEnum
import Mathlib.Data.Fintype.EquivFin
import Mathlib.Tactic.FinCases
import PinBridge.Proofs.Session.FullRead
import PinBridge.Proofs.Session.Memory

/-!
# Chip IDs

An ID comes from four bytes, the first two of the reply to each of two requests. Taken as one number
(`raw`) they are scrambled, which moves the bits within each byte (`scramble`), and then masked
(`idOf_eq`). To scramble respects exclusive or (`scramble_xor`) and takes a single bit to a single
bit (`scramble_bit`), and each number comes from one number only; so a difference of one bit stays
one, and different words have different IDs.

`Account` lists what a read of the ID may come to, by nothing but its replies, and
`chip_id_identifies` puts both together.
-/

namespace PinBridge

namespace ChipId

/-- Two words, each given by the two bytes that it is read as. -/
abbrev Words : Type := (UInt8 × UInt8) × (UInt8 × UInt8)

/-- The words as one number, as they are read. -/
def raw (words : Words) : UInt32 := ofBytes words.1.1 words.1.2 words.2.1 words.2.2

/-- The ID in two words. -/
def idOf (words : Words) : UInt32 := ofWords words.1 words.2

/-! ### Bytes -/

/-- Where each bit of a permuted byte comes from. -/
def source : Fin 8 → Fin 8 := ![2, 0, 6, 4, 5, 7, 1, 3]

theorem getLsbD_permute (b : UInt8) (k : Fin 8) :
    (permute b).toBitVec.getLsbD k = b.toBitVec.getLsbD (source k) := by
  unfold permute
  fin_cases k <;> simp [source]

theorem permute_xor (a b : UInt8) : permute (a ^^^ b) = permute a ^^^ permute b := by
  refine UInt8.toBitVec_inj.mp (BitVec.eq_of_getLsbD_eq fun i hi => ?_)
  rw [UInt8.toBitVec_xor, BitVec.getLsbD_xor, getLsbD_permute _ ⟨i, hi⟩, getLsbD_permute _ ⟨i, hi⟩,
    getLsbD_permute _ ⟨i, hi⟩, UInt8.toBitVec_xor, BitVec.getLsbD_xor]

/-- No bit of a byte is lost. -/
theorem permute_injective : Function.Injective permute := by
  intro a b h
  refine UInt8.toBitVec_inj.mp (BitVec.eq_of_getLsbD_eq fun i hi => ?_)
  have hsource : ∀ i, ∃ k, source k = i := by decide
  obtain ⟨k, hk⟩ := hsource ⟨i, hi⟩
  have hbit := getLsbD_permute a k
  rw [h, getLsbD_permute, hk] at hbit
  exact hbit.symm

theorem permute_surjective : Function.Surjective permute :=
  Finite.surjective_of_injective permute_injective

/-! ### Numbers of four bytes -/

variable {a b c d a' b' c' d' : UInt8}

theorem toBitVec_ofBytes (a b c d : UInt8) : (ofBytes a b c d).toBitVec =
    (a.toBitVec ++ b.toBitVec ++ c.toBitVec ++ d.toBitVec : BitVec (8 + 8 + 8 + 8)) := by
  have hshift : ∀ (v : UInt8) {n : Nat}, n ≤ 24 → v.toNat <<< n % 2 ^ 32 = v.toNat <<< n := by
    intro v n hn
    refine Nat.mod_eq_of_lt ?_
    have hpow : 2 ^ n ≤ 2 ^ 24 := Nat.pow_le_pow_right (by decide) hn
    have hv := v.toNat_lt
    rw [Nat.shiftLeft_eq]
    calc v.toNat * 2 ^ n ≤ 255 * 2 ^ 24 := Nat.mul_le_mul (by omega) hpow
      _ < 2 ^ 32 := by decide
  apply BitVec.eq_of_toNat_eq
  change (ofBytes a b c d).toNat = _
  unfold ofBytes
  simp only [UInt32.toNat_or, UInt32.toNat_shiftLeft, UInt8.toNat_toUInt32, BitVec.toNat_append,
    Nat.shiftLeft_or_distrib, ← Nat.shiftLeft_add]
  rw [show (24 : UInt32).toNat % 32 = 24 from rfl, show (16 : UInt32).toNat % 32 = 16 from rfl,
    show (8 : UInt32).toNat % 32 = 8 from rfl, hshift a (by decide), hshift b (by decide),
    hshift c (by decide)]
  rfl

theorem ofBytes_xor : ofBytes a b c d ^^^ ofBytes a' b' c' d' =
    ofBytes (a ^^^ a') (b ^^^ b') (c ^^^ c') (d ^^^ d') := by
  refine UInt32.toBitVec_inj.mp ?_
  rw [UInt32.toBitVec_xor, toBitVec_ofBytes, toBitVec_ofBytes, toBitVec_ofBytes]
  simp only [UInt8.toBitVec_xor]
  rw [← BitVec.xor_append, ← BitVec.xor_append, ← BitVec.xor_append]

theorem toNat_ofBytes (a b c d : UInt8) : (ofBytes a b c d).toNat =
    ((a.toNat * 256 + b.toNat) * 256 + c.toNat) * 256 + d.toNat := by
  change (ofBytes a b c d).toBitVec.toNat = _
  rw [toBitVec_ofBytes]
  have hbyte : ∀ (n : Nat) (v : UInt8), n <<< 8 ||| v.toNat = n * 256 + v.toNat := by
    intro n v
    rw [← Nat.shiftLeft_add_eq_or_of_lt v.toNat_lt, Nat.shiftLeft_eq]
  simp only [BitVec.toNat_append, UInt8.toNat_toBitVec, hbyte]

/-- A number tells the bytes that it is made of. -/
theorem ofBytes_inj (h : ofBytes a b c d = ofBytes a' b' c' d') :
    a = a' ∧ b = b' ∧ c = c' ∧ d = d' := by
  have hnat := congrArg UInt32.toNat h
  rw [toNat_ofBytes, toNat_ofBytes] at hnat
  have hb := b.toNat_lt
  have hc := c.toNat_lt
  have hd := d.toNat_lt
  have hb' := b'.toNat_lt
  have hc' := c'.toNat_lt
  have hd' := d'.toNat_lt
  simp only [← UInt8.toNat_inj]
  omega

/-- A byte of a number, the least significant one being the first. -/
def byteAt (x : UInt32) (k : Nat) : UInt8 := UInt8.ofNat (x.toNat / 256 ^ k)

/-- Each number is made of its bytes. -/
theorem ofBytes_byteAt (x : UInt32) :
    ofBytes (byteAt x 3) (byteAt x 2) (byteAt x 1) (byteAt x 0) = x := by
  have hx := x.toNat_lt
  apply UInt32.toNat_inj.mp
  rw [toNat_ofBytes]
  unfold byteAt
  simp only [UInt8.toNat_ofNat']
  omega

/-! ### Scrambling -/

/-- A number with the bits within each of its bytes permuted. -/
def scramble (x : UInt32) : UInt32 :=
  ofBytes (permute (byteAt x 3)) (permute (byteAt x 2)) (permute (byteAt x 1)) (permute (byteAt x 0))

/-- A number with a single bit set. -/
def bit (j : Fin 32) : UInt32 := 1 <<< UInt32.ofNat j

/-- Where each bit of a byte goes. -/
def target : Fin 8 → Fin 8 := ![1, 6, 0, 7, 3, 4, 2, 5]

/-- Where each bit of a number goes: it stays within its byte. -/
def place (j : Fin 32) : Fin 32 :=
  let within := target ⟨j % 8, Nat.mod_lt _ (by decide)⟩
  ⟨j / 8 * 8 + within, by omega⟩

theorem scramble_ofBytes (a b c d : UInt8) :
    scramble (ofBytes a b c d) = ofBytes (permute a) (permute b) (permute c) (permute d) := by
  obtain ⟨ha, hb, hc, hd⟩ := ofBytes_inj (ofBytes_byteAt (ofBytes a b c d))
  unfold scramble
  rw [ha, hb, hc, hd]

/-- To scramble respects exclusive or. -/
theorem scramble_xor (x y : UInt32) : scramble (x ^^^ y) = scramble x ^^^ scramble y := by
  rw [← ofBytes_byteAt x, ← ofBytes_byteAt y]
  simp only [ofBytes_xor, scramble_ofBytes, permute_xor]

/-- A single bit goes to a single bit. -/
theorem scramble_bit : ∀ j, scramble (bit j) = bit (place j) := by decide

theorem scramble_bijective : Function.Bijective scramble := by
  constructor
  · intro x y h
    obtain ⟨h₃, h₂, h₁, h₀⟩ := ofBytes_inj h
    rw [← ofBytes_byteAt x, ← ofBytes_byteAt y, permute_injective h₃, permute_injective h₂,
      permute_injective h₁, permute_injective h₀]
  · intro y
    obtain ⟨a, ha⟩ := permute_surjective (byteAt y 3)
    obtain ⟨b, hb⟩ := permute_surjective (byteAt y 2)
    obtain ⟨c, hc⟩ := permute_surjective (byteAt y 1)
    obtain ⟨d, hd⟩ := permute_surjective (byteAt y 0)
    refine ⟨ofBytes a b c d, ?_⟩
    rw [scramble_ofBytes, ha, hb, hc, hd, ofBytes_byteAt]

/-! ### IDs -/

/-- **An ID is what has been read, scrambled and masked.** -/
theorem idOf_eq (words : Words) : idOf words = scramble (raw words) ^^^ mask := by
  unfold raw
  rw [scramble_ofBytes]
  rfl

theorem raw_bijective : Function.Bijective raw := by
  constructor
  · rintro ⟨⟨a, b⟩, c, d⟩ ⟨⟨a', b'⟩, c', d'⟩ h
    obtain ⟨rfl, rfl, rfl, rfl⟩ := ofBytes_inj h
    rfl
  · exact fun x => ⟨((byteAt x 3, byteAt x 2), byteAt x 1, byteAt x 0), ofBytes_byteAt x⟩

/-- **Each number is the ID in one pair of words, and in no other.** -/
theorem idOf_bijective : Function.Bijective idOf := by
  have hmask : Function.Bijective fun x : UInt32 => x ^^^ mask :=
    Function.Involutive.bijective fun x => by rw [UInt32.xor_assoc, UInt32.xor_self, UInt32.xor_zero]
  rw [funext idOf_eq]
  exact hmask.comp (scramble_bijective.comp raw_bijective)

/-- **A single bit that is flipped** flips a single bit of the ID. -/
theorem idOf_flip {p q : Words} {j : Fin 32} (h : raw q = raw p ^^^ bit j) :
    idOf q = idOf p ^^^ bit (place j) := by
  rw [idOf_eq, idOf_eq, h, scramble_xor, scramble_bit]
  ac_rfl

/-! ### Reading the ID -/

/-- **What reading an ID comes to**, by the replies: the error of the first one that is no word, or
the ID in the first two bytes of each. -/
inductive Account : List WordReply → Except Error UInt32 → Prop
  /-- The first reply is no word, and there is no second one. -/
  | firstFailed {reply : WordReply} {e : Error} (failure : reply.failure? = some e) :
      Account [reply] (.error e)
  /-- The second reply is no word. -/
  | secondFailed {first second : WordReply} {e : Error} (fine : first.failure? = none)
      (failure : second.failure? = some e) : Account [first, second] (.error e)
  /-- Both are words. -/
  | found {first second : WordReply} {a b c d : UInt8} (fine : first.failure? = none)
      (fine' : second.failure? = none) (high : first.bytes = [a, b]) (low : second.bytes = [c, d]) :
      Account [first, second] (.ok (idOf ((a, b), c, d)))

namespace Account

variable {replies : List WordReply} {r r' : Except Error UInt32}

/-- The replies settle the result. -/
theorem unique (h : Account replies r) (h' : Account replies r') : r = r' := by
  cases h with
  | firstFailed failure =>
    cases h' with
    | firstFailed failure' =>
      cases failure.symm.trans failure'
      rfl
  | secondFailed fine failure =>
    cases h' with
    | secondFailed fine' failure' =>
      cases failure.symm.trans failure'
      rfl
    | found _ fine' => cases failure.symm.trans fine'
  | found fine fine' high low =>
    cases h' with
    | secondFailed _ failure => cases fine'.symm.trans failure
    | found _ _ high' low' =>
      cases high.symm.trans high'
      cases low.symm.trans low'
      rfl

/-- Two replies that are words come to an ID, whatever they have beyond two bytes. -/
theorem of_bytes (a b c d : UInt8) (more more' : List UInt8) :
    Account [.ok (a :: b :: more), .ok (c :: d :: more')] (.ok (idOf ((a, b), c, d))) := by
  have fine : ∀ (a b : UInt8) (more : List UInt8),
      WordReply.failure? (.ok (a :: b :: more)) = none := fun a b more =>
    WordReply.failure?_eq_none_iff.mpr ⟨_, rfl, Nat.le_add_left 2 more.length⟩
  exact .found (fine a b more) (fine c d more') rfl rfl

/-- **IDs are equal just where the first two bytes of both replies are.** -/
theorem id_eq_iff {first second first' second' : List UInt8} {id id' : UInt32}
    (h : Account [.ok first, .ok second] (.ok id))
    (h' : Account [.ok first', .ok second'] (.ok id')) :
    id = id' ↔ first.take 2 = first'.take 2 ∧ second.take 2 = second'.take 2 := by
  cases h with
  | found _ _ high low =>
    cases h' with
    | found _ _ high' low' =>
      have hbytes : ∀ data : List UInt8, WordReply.bytes (.ok data) = data.take 2 := fun _ => rfl
      rw [hbytes] at high low high' low'
      rw [high, low, high', low', idOf_bijective.1.eq_iff]
      simp [and_assoc]

end Account

end ChipId

open Command

variable {s t : Session} {d : OpenDevice} {events : List Event}

/-- **Every read of an ID goes by this account**, and leaves the session as it is. -/
theorem readChipId_account (hs : s.link = .opened d) (hchip : d.chip = .ft232r)
    {r : Except Error UInt32} (h : readChipId.Course s events r t) :
    t = s ∧ ∃ replies, events = wordRequests d.handle s.options.readTimeout 0x43 replies ∧
      ChipId.Account replies r := by
  refine ⟨(readChipId_observes h).1, ?_⟩
  unfold readChipId at h
  rw [device_bind, hs] at h
  simp only [hchip, if_true] at h
  rcases course_bind.mp h with ⟨e, h₁, rfl⟩ | ⟨first, _, s₁, events₂, h₁, h₂, rfl⟩
  · obtain ⟨reply, rfl, ⟨e', failure, he⟩ | ⟨-, _, _, he, -⟩⟩ := readWord_course hs h₁
    · cases he
      exact ⟨[reply], rfl, .firstFailed failure⟩
    · cases he
  · obtain ⟨rfl, -⟩ := readWord_observes _ h₁
    obtain ⟨reply, rfl, ⟨_, -, he⟩ | ⟨fine, a, b, hword, high⟩⟩ := readWord_course hs h₁
    · cases he
    cases hword
    rcases course_bind.mp h₂ with ⟨e, h₃, rfl⟩ | ⟨second, _, s₂, events₃, h₃, h₄, rfl⟩
    · obtain ⟨reply', rfl, ⟨e', failure, he⟩ | ⟨-, _, _, he, -⟩⟩ := readWord_course hs h₃
      · cases he
        exact ⟨[reply, reply'], rfl, .secondFailed fine failure⟩
      · cases he
    · obtain ⟨reply', rfl, ⟨_, -, he⟩ | ⟨fine', c, d', hword, low⟩⟩ := readWord_course hs h₃
      · cases he
      cases hword
      rw [note_bind] at h₄
      obtain ⟨rfl, rfl, -⟩ := course_pure.mp h₄
      exact ⟨[reply, reply'], rfl, .found fine fine' high low⟩

/-- Conversely, an ID whose words are answered is read. -/
theorem readChipId_answered (hs : s.link = .opened d) (hchip : d.chip = .ft232r)
    (first second : UInt8 × UInt8) :
    readChipId.Course s
      (wordReads d.handle s.options.readTimeout 0x43
        [[first.1, first.2], [second.1, second.2]])
      (.ok (ChipId.ofWords first second)) s := by
  unfold readChipId
  rw [device_bind, hs]
  simp only [hchip, if_true]
  refine course_bind.mpr (.inr ⟨first, _, s, _, readWord_answered hs _ [], ?_, rfl⟩)
  refine course_bind.mpr (.inr ⟨second, _, s, [], readWord_answered hs _ [], ?_, rfl⟩)
  rw [note_bind]
  exact course_pure.mpr ⟨rfl, rfl, rfl⟩

/-- **Chip IDs identify chips.** In every session with a chip of the family that has an ID, whatever
has come before and in whatever mode, on every bus that answers all calls: reading the ID asks for
the words at two addresses, until one cannot be read, and its result is settled by the replies. The
IDs that come of two such reads are equal just where the first two bytes of both replies are the
same; each number of 32 bits is the ID in just one pair of words; and where a single bit of them is
flipped, so is a single bit of the ID. -/
theorem chip_id_identifies {σ : Type} {bus : Bus σ} (answers : bus.Answers fun _ => True)
    (hs : s.link = .opened d) (hchip : d.chip = .ft232r) (world : σ) :
    (∃ replies r after, (Action.readChipId.perform s).play bus world =
        (wordRequests d.handle s.options.readTimeout 0x43 replies, some (r, s), after) ∧
      ChipId.Account replies r) ∧
    (∀ replies r r', ChipId.Account replies r → ChipId.Account replies r' → r = r') ∧
    (∀ (a b c d : UInt8) (more more' : List UInt8),
      ChipId.Account [.ok (a :: b :: more), .ok (c :: d :: more')]
        (.ok (ChipId.idOf ((a, b), c, d)))) ∧
    (∀ first second first' second' id id',
      ChipId.Account [.ok first, .ok second] (.ok id) →
      ChipId.Account [.ok first', .ok second'] (.ok id') →
      (id = id' ↔ first.take 2 = first'.take 2 ∧ second.take 2 = second'.take 2)) ∧
    Function.Bijective ChipId.idOf ∧
    ∀ p q j, ChipId.raw q = ChipId.raw p ^^^ ChipId.bit j →
      ChipId.idOf q = ChipId.idOf p ^^^ ChipId.bit (ChipId.place j) := by
  refine ⟨?_, fun _ _ _ => ChipId.Account.unique, ChipId.Account.of_bytes,
    fun _ _ _ _ _ _ => ChipId.Account.id_eq_iff, ChipId.idOf_bijective,
    fun _ _ _ => ChipId.idOf_flip⟩
  obtain ⟨events, ⟨r, t⟩, after, hplay, -, -⟩ :=
    (perform_within .readChipId s).completes answers world
  obtain ⟨rfl, replies, rfl, haccount⟩ :=
    readChipId_account hs hchip (Program.course_of_play hplay)
  exact ⟨replies, r, after, hplay, haccount⟩

/-- The ID that comes of bytes which are the same for both words, and of no others. -/
theorem chip_id_identifies_wordy : Sample.wordy.Answers (fun _ => True) ∧
    ∃ after, (Action.readChipId.perform ⟨.default, .opened Sample.device, none⟩).play
        Sample.wordy () =
      (wordRequests Sample.handle 5000 0x43 [.ok [0x12, 0x34, 0x56], .ok [0x12, 0x34, 0x56]],
        some (.ok 0xEDE9BFC8, ⟨.default, .opened Sample.device, none⟩), after) ∧
      ∀ words, ChipId.idOf words = 0xEDE9BFC8 → words = ((0x12, 0x34), 0x12, 0x34) := by
  have answers : Sample.wordy.Answers fun _ => True := Bus.fixed_answers fun _ => trivial
  have opened : (Session.mk .default (.opened Sample.device) none).link =
      .opened Sample.device := rfl
  obtain ⟨-, -, -, -, hbijective, -⟩ := chip_id_identifies answers opened rfl ()
  exact ⟨answers, (), rfl, fun words h => hbijective.1 (h.trans rfl)⟩

end PinBridge
