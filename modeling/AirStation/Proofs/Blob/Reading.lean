import AirStation.Proofs.Blob.Writing

/-!
Two judgements on readers, each with a rule for a reader after another. `Takes` is the round trip: a
reader takes exactly these bytes for this value, whatever follows them. `Consumes` bounds from below
how much a reader takes off its input for the value it returns.

The first is proved of the bytes that are written, field by field. The second holds for all
spellings, and it is what keeps a blob that is written back from growing: each reader takes at least
as many bytes as its value is written in (`Shrinks`).
-/

namespace AirStation.Blob.Reader

variable {α γ : Type}

theorem run_bind_eq_ok_iff {r : Reader α} {k : α → Reader γ} {bytes rest : List UInt8} {b : γ} :
    (r >>= k).run bytes = .ok (b, rest) ↔
      ∃ a middle, r.run bytes = .ok (a, middle) ∧ (k a).run middle = .ok (b, rest) := by
  rw [StateT.run_bind]
  cases r.run bytes with
  | error e => simp [bind, Except.bind]
  | ok outcome =>
    constructor
    · intro hk
      exact ⟨outcome.1, outcome.2, rfl, hk⟩
    · rintro ⟨a, middle, houtcome, hk⟩
      obtain rfl := Except.ok.inj houtcome
      exact hk

theorem run_bind_eq_error_iff {r : Reader α} {k : α → Reader γ} {bytes : List UInt8}
    {e : DecodeError} :
    (r >>= k).run bytes = .error e ↔
      r.run bytes = .error e ∨
        ∃ a middle, r.run bytes = .ok (a, middle) ∧ (k a).run middle = .error e := by
  rw [StateT.run_bind]
  cases r.run bytes with
  | error e => simp [bind, Except.bind]
  | ok outcome =>
    constructor
    · intro hk
      exact .inr ⟨outcome.1, outcome.2, rfl, hk⟩
    · rintro (herror | ⟨a, middle, houtcome, hk⟩)
      · nomatch herror
      · obtain rfl := Except.ok.inj houtcome
        exact hk

theorem run_pure_eq_ok_iff {a b : α} {bytes rest : List UInt8} :
    (pure a : Reader α).run bytes = .ok (b, rest) ↔ a = b ∧ bytes = rest := by
  rw [StateT.run_pure]
  simp [pure, Except.pure]

/-- The reader takes exactly these bytes for this value, whatever bytes follow them. -/
def Takes (r : Reader α) (bytes : List UInt8) (a : α) : Prop :=
  ∀ rest, r.run (bytes ++ rest) = .ok (a, rest)

theorem takes_pure (a : α) : (pure a : Reader α).Takes [] a :=
  fun _ => rfl

theorem Takes.bind {r : Reader α} {k : α → Reader γ} {first second : List UInt8} {a : α} {b : γ}
    (hr : r.Takes first a) (hk : (k a).Takes second b) :
    (r >>= k).Takes (first ++ second) b := by
  intro rest
  rw [List.append_assoc]
  exact run_bind_eq_ok_iff.mpr ⟨a, second ++ rest, hr _, hk rest⟩

theorem Takes.map {r : Reader α} {bytes : List UInt8} {a : α} (hr : r.Takes bytes a)
    (f : α → γ) : (do return f (← r)).Takes bytes (f a) := by
  rw [← List.append_nil bytes]
  exact hr.bind (takes_pure (f a))

theorem takes_byte (b : UInt8) : byte.Takes [b] b :=
  fun _ => rfl

theorem takes_bool (b : Bool) : bool.Takes (Blob.bool b) b := by
  cases b <;> exact fun _ => rfl

theorem takes_varint {width : VarintWidth} {bytes : List UInt8} {n : Nat}
    (h : Number width bytes n) : (varint width).Takes bytes n :=
  takeVarint_of_number h

/-- A word is read from every spelling of its number, and from nothing else. The two conversions
between numbers and words have to be inverse below the bound of the width. -/
theorem run_word_eq_ok_iff {width : VarintWidth} {ofNat : Nat → α} {toNat : α → Nat}
    (hofNat : ∀ n < width.bound, toNat (ofNat n) = n) (htoNat : ∀ a, ofNat (toNat a) = a)
    {bytes rest : List UInt8} {a : α} :
    (do return ofNat (← varint width) : Reader α).run bytes = .ok (a, rest) ↔
      ∃ used, bytes = used ++ rest ∧ Number width used (toNat a) := by
  rw [run_bind_eq_ok_iff]
  constructor
  · rintro ⟨n, middle, hvarint, hpure⟩
    obtain ⟨rfl, rfl⟩ := run_pure_eq_ok_iff.mp hpure
    obtain ⟨used, hsplit, hused⟩ := number_of_takeVarint hvarint
    refine ⟨used, hsplit, ?_⟩
    rwa [hofNat n hused.lt_bound]
  · rintro ⟨used, rfl, hused⟩
    refine ⟨toNat a, rest, takes_varint hused rest, ?_⟩
    rw [htoNat]
    rfl

theorem run_uint16_eq_ok_iff {bytes rest : List UInt8} {n : UInt16} :
    uint16.run bytes = .ok (n, rest) ↔
      ∃ used, bytes = used ++ rest ∧ Number .bits16 used n.toNat := by
  apply run_word_eq_ok_iff
  · intro m hm
    exact UInt16.toNat_ofNat_of_lt hm
  · intro a
    exact UInt16.ofNat_toNat

theorem run_uint32_eq_ok_iff {bytes rest : List UInt8} {n : UInt32} :
    uint32.run bytes = .ok (n, rest) ↔
      ∃ used, bytes = used ++ rest ∧ Number .bits32 used n.toNat := by
  apply run_word_eq_ok_iff
  · intro m hm
    exact UInt32.toNat_ofNat_of_lt hm
  · intro a
    exact UInt32.ofNat_toNat

theorem takes_uint16 (n : UInt16) : uint16.Takes (Blob.varint n.toNat) n := fun _ =>
  run_uint16_eq_ok_iff.mpr ⟨_, rfl, number_varint (by decide) n.toNat_lt⟩

theorem takes_uint32 (n : UInt32) : uint32.Takes (Blob.varint n.toNat) n := fun _ =>
  run_uint32_eq_ok_iff.mpr ⟨_, rfl, number_varint (by decide) n.toNat_lt⟩

theorem takes_int8 (x : Int8) : int8.Takes [x.toUInt8] x := by
  have hbyte := (takes_byte x.toUInt8).map UInt8.toInt8
  rwa [Int8.toInt8_toUInt8] at hbyte

theorem word32_bytes (w : UInt32) :
    w.toUInt8.toUInt32 ||| ((w >>> 8).toUInt8.toUInt32 <<< 8) |||
      ((w >>> 16).toUInt8.toUInt32 <<< 16) ||| ((w >>> 24).toUInt8.toUInt32 <<< 24) = w := by
  apply UInt32.toBitVec_inj.mp
  apply BitVec.eq_of_getLsbD_eq
  intro i hi
  have h8 : UInt32.toBitVec 8 % 32 = 8#32 := rfl
  have h16 : UInt32.toBitVec 16 % 32 = 16#32 := rfl
  have h24 : UInt32.toBitVec 24 % 32 = 24#32 := rfl
  simp only [UInt32.toBitVec_or, UInt32.toBitVec_shiftLeft, UInt32.toBitVec_shiftRight,
    UInt8.toBitVec_toUInt32, UInt32.toBitVec_toUInt8, h8, h16, h24, BitVec.shiftLeft_eq',
    BitVec.ushiftRight_eq', BitVec.getLsbD_or, BitVec.getLsbD_setWidth, BitVec.getLsbD_shiftLeft,
    BitVec.getLsbD_ushiftRight, BitVec.toNat_ofNat, Nat.reduceMod, Nat.reducePow]
  -- Each bit lies in exactly one of the four bytes.
  grind

theorem takes_word32 (w : UInt32) : word32.Takes (Blob.word32 w) w := by
  intro rest
  show Except.ok (_, rest) = _
  rw [word32_bytes]

theorem exists_uint32 {used : List UInt8} {n : Nat} (h : Number .bits32 used n) :
    ∃ index : UInt32, index.toNat = n :=
  ⟨UInt32.ofNat n, UInt32.toNat_ofNat_of_lt h.lt_bound⟩

theorem takes_variant {constructors : List α} {used : List UInt8} {n : Nat} {a : α}
    (hn : Number .bits32 used n) (ha : constructors[n]? = some a) :
    (variant constructors).Takes used a := by
  intro rest
  obtain ⟨index, hindex⟩ := exists_uint32 hn
  refine run_bind_eq_ok_iff.mpr ⟨index, rest, ?_, ?_⟩
  · exact run_uint32_eq_ok_iff.mpr ⟨used, rfl, hindex ▸ hn⟩
  · rw [hindex, ha]
    rfl

theorem takes_position {constructors : List α} {position : α → Nat}
    (h : Enumerates constructors position) (a : α) :
    (variant constructors).Takes (Blob.varint (position a)) a := by
  have hsmall : position a < 0x80 := Nat.lt_trans (h.position_lt a) h.small
  exact takes_variant (number_varint_low hsmall fun hleft => nomatch hleft) (h.complete a)

theorem takes_elements {element : Reader α} {toBlob : α → List UInt8}
    (helement : ∀ a, element.Takes (toBlob a) a) {values : List α} {room : Nat}
    (hroom : values.length ≤ room) :
    (elements element room values.length).Takes (values.flatMap toBlob) values := by
  induction values generalizing room with
  | nil => cases room <;> exact takes_pure []
  | cons first values ih =>
    cases room with
    | zero => nomatch hroom
    | succ room =>
      apply (helement first).bind
      exact (ih (Nat.le_of_succ_le_succ hroom)).map (first :: ·)

/-- A sequence that fits is read from its length and its elements. -/
theorem takes_sequence {element : Reader α} {toBlob : α → List UInt8}
    (helement : ∀ a, element.Takes (toBlob a) a) {values : List α} {room : Nat}
    (hroom : values.length ≤ room) (hlength : values.length < VarintWidth.bits64.bound) :
    (sequence element room).Takes (Blob.sequence toBlob values) values :=
  (takes_varint (number_varint (by decide) hlength)).bind (takes_elements helement hroom)

/-- What the reader returns, together with the number of bytes that it has taken, satisfies the
condition. -/
def Consumes (r : Reader α) (post : Nat → α → Prop) : Prop :=
  ∀ bytes a rest, r.run bytes = .ok (a, rest) →
    ∃ count, bytes.length = count + rest.length ∧ post count a

variable {post : Nat → γ → Prop}

theorem consumes_pure {a : γ} (h : post 0 a) : (pure a : Reader γ).Consumes post := by
  intro bytes b rest hrun
  obtain ⟨rfl, rfl⟩ := run_pure_eq_ok_iff.mp hrun
  exact ⟨0, (Nat.zero_add _).symm, h⟩

theorem consumes_fail (e : DecodeError) : (fail e : Reader γ).Consumes post :=
  fun _ _ _ hrun => nomatch hrun

theorem Consumes.bind {first : Nat → α → Prop} {r : Reader α} {k : α → Reader γ}
    (hr : r.Consumes first)
    (hk : ∀ count a, first count a → (k a).Consumes fun more => post (count + more)) :
    (r >>= k).Consumes post := by
  intro bytes b rest hrun
  obtain ⟨a, middle, hfirst, hsecond⟩ := run_bind_eq_ok_iff.mp hrun
  obtain ⟨count, hcount, ha⟩ := hr bytes a middle hfirst
  obtain ⟨more, hmore, hb⟩ := hk count a ha middle b rest hsecond
  exact ⟨count + more, by omega, hb⟩

theorem Consumes.mono {first : Nat → γ → Prop} {r : Reader γ} (hr : r.Consumes first)
    (h : ∀ count a, first count a → post count a) : r.Consumes post := by
  intro bytes a rest hrun
  obtain ⟨count, hcount, ha⟩ := hr bytes a rest hrun
  exact ⟨count, hcount, h count a ha⟩

/-- No value takes fewer bytes than it is written in, so writing back what was read never needs more
room. -/
def Shrinks (r : Reader α) (toBlob : α → List UInt8) : Prop :=
  r.Consumes fun count a => (toBlob a).length ≤ count

theorem shrinks_byte : byte.Shrinks fun b => [b] := by
  intro bytes b rest hrun
  cases bytes with
  | nil => nomatch hrun
  | cons first bytes =>
    obtain ⟨rfl, rfl⟩ := Prod.mk.inj (Except.ok.inj hrun)
    exact ⟨1, Nat.add_comm _ _, Nat.le_refl 1⟩

theorem Shrinks.map {r : Reader α} {f : α → γ} {first : α → List UInt8}
    {toBlob : γ → List UInt8} (hr : r.Shrinks first)
    (h : ∀ a, (toBlob (f a)).length ≤ (first a).length) :
    (do return f (← r) : Reader γ).Shrinks toBlob := by
  apply hr.bind
  intro count a ha
  exact consumes_pure (Nat.le_trans (h a) ha)

theorem shrinks_bool : bool.Shrinks Blob.bool := by
  apply shrinks_byte.bind
  intro count b hcount
  split
  · exact consumes_pure hcount
  · exact consumes_pure hcount
  · exact consumes_fail _

theorem shrinks_varint (width : VarintWidth) : (varint width).Shrinks Blob.varint := by
  intro bytes n rest hrun
  obtain ⟨used, rfl, hused⟩ := number_of_takeVarint hrun
  exact ⟨used.length, List.length_append, hused.length_varint_le⟩

theorem shrinks_uint16 : uint16.Shrinks fun n => Blob.varint n.toNat := by
  intro bytes n rest hrun
  obtain ⟨used, rfl, hused⟩ := run_uint16_eq_ok_iff.mp hrun
  exact ⟨used.length, List.length_append, hused.length_varint_le⟩

theorem shrinks_uint32 : uint32.Shrinks fun n => Blob.varint n.toNat := by
  intro bytes n rest hrun
  obtain ⟨used, rfl, hused⟩ := run_uint32_eq_ok_iff.mp hrun
  exact ⟨used.length, List.length_append, hused.length_varint_le⟩

theorem shrinks_int8 : int8.Shrinks fun x => [x.toUInt8] :=
  shrinks_byte.map fun _ => Nat.le_refl 1

theorem shrinks_word32 : word32.Shrinks Blob.word32 := by
  intro bytes w rest hrun
  match bytes with
  | b0 :: b1 :: b2 :: b3 :: bytes =>
    obtain ⟨rfl, rfl⟩ := Prod.mk.inj (Except.ok.inj hrun)
    exact ⟨4, Nat.add_comm bytes.length 4, Nat.le_refl 4⟩
  | [] | [_] | [_, _] | [_, _, _] => nomatch hrun

theorem shrinks_position {constructors : List α} {position : α → Nat}
    (h : Enumerates constructors position) :
    (variant constructors).Shrinks fun a => Blob.varint (position a) := by
  apply shrinks_uint32.bind
  intro count index hcount
  cases ha : constructors[index.toNat]? with
  | none => exact consumes_fail _
  | some a =>
    apply consumes_pure
    dsimp only
    rw [h.position_eq ha]
    exact hcount

theorem consumes_elements {element : Reader α} {toBlob : α → List UInt8}
    (helement : element.Shrinks toBlob) (room count : Nat) :
    (elements element room count).Consumes fun used values =>
      values.length = count ∧ count ≤ room ∧ (values.flatMap toBlob).length ≤ used := by
  induction count generalizing room with
  | zero =>
    cases room <;> exact consumes_pure ⟨rfl, Nat.zero_le _, Nat.le_refl 0⟩
  | succ count ih =>
    cases room with
    | zero => exact helement.bind fun _ _ _ => consumes_fail _
    | succ room =>
      apply helement.bind
      intro used first hfirst
      apply (ih room).bind
      rintro more values ⟨hlength, hroom, hmore⟩
      apply consumes_pure
      refine ⟨by rw [List.length_cons, hlength], Nat.succ_le_succ hroom, ?_⟩
      rw [List.flatMap_cons, List.length_append]
      omega

/-- A sequence that is read fits its room, and was not shorter than it would be written. -/
theorem consumes_sequence {element : Reader α} {toBlob : α → List UInt8}
    (helement : element.Shrinks toBlob) (room : Nat) :
    (sequence element room).Consumes fun used values =>
      values.length ≤ room ∧ (Blob.sequence toBlob values).length ≤ used := by
  apply (shrinks_varint _).bind
  intro used count hused
  apply (consumes_elements helement room count).mono
  rintro more values ⟨rfl, hroom, hmore⟩
  refine ⟨hroom, ?_⟩
  rw [Blob.sequence, List.length_append]
  exact Nat.add_le_add hused hmore

end AirStation.Blob.Reader
