import AirStation.Proofs.Blob.Reading

/-!
Formats: what a sequence of fields looks like as bytes, and which flaw bytes have that are not of
this form. The flaw is the first one in the order of the fields. `Follows` says that a reader
returns a value exactly on the bytes that start with a spelling, and reports exactly the flaw on all
others.

A format is built the way its reader is: a field, one format after another, or a length with as many
elements. Each way of building has one lemma about readers, so a record of ten fields costs no more
than the list of its fields.
-/

namespace AirStation.Blob

/-- Which bytes spell a value of this form, and which flaw is found in bytes that begin with no
spelling. Nothing is said about the values themselves. -/
structure Format where
  Spelled : List UInt8 → Prop
  Flawed : List UInt8 → DecodeError → Prop
  /-- A spelling that is cut short ends too soon and has no other flaw. -/
  flawed_cut : ∀ used more, Spelled (used ++ more) → more ≠ [] → Flawed used .unexpectedEnd

/-- What is wrong with a flag: there is no byte, or the byte is neither zero nor one. -/
inductive FlagFlaw : List UInt8 → DecodeError → Prop where
  | missing : FlagFlaw [] .unexpectedEnd
  | unknown (b : UInt8) (rest : List UInt8) (hb : 1 < b) : FlagFlaw (b :: rest) .badBool

/-- What is wrong with a position: its number is spelled badly, or the number is spelled well and
there is no such constructor. -/
inductive PositionFlaw (count : Nat) : List UInt8 → DecodeError → Prop where
  | number {bytes : List UInt8} {e : DecodeError} (h : NumberFlaw .bits32 bytes e) :
    PositionFlaw count bytes e
  | unknown {used : List UInt8} {n : Nat} (h : Number .bits32 used n) (hn : count ≤ n)
      (rest : List UInt8) : PositionFlaw count (used ++ rest) .unknownVariant

/-- Bytes of two parts that are cut short are cut in the first part, or behind it. -/
theorem cut_append {used more first second : List UInt8}
    (hsplit : used ++ more = first ++ second) :
    (∃ missing, missing ≠ [] ∧ first = used ++ missing) ∨
      ∃ part, used = first ++ part ∧ second = part ++ more := by
  rcases List.append_eq_append_iff.mp hsplit with ⟨middle, hfirst, hsecond⟩ | ⟨part, hused, hrest⟩
  · cases middle with
    | nil => exact .inr ⟨[], by rw [hfirst, List.append_nil, List.append_nil], hsecond.symm⟩
    | cons b middle => exact .inl ⟨b :: middle, List.cons_ne_nil _ _, hfirst⟩
  · exact .inr ⟨part, hused, hrest⟩

namespace Format

/-- As many bytes, of any value. Only their number can be wrong. -/
def raw (count : Nat) : Format where
  Spelled bytes := bytes.length = count
  Flawed bytes e := bytes.length < count ∧ e = .unexpectedEnd
  flawed_cut used more hspelled hmore := by
    have hpositive : 0 < more.length := List.length_pos_iff.mpr hmore
    rw [List.length_append] at hspelled
    exact ⟨by omega, rfl⟩

/-- One byte for a truth value, which is zero or one. Any other byte is a flaw of its own. -/
def flag : Format where
  Spelled bytes := bytes = [0] ∨ bytes = [1]
  Flawed := FlagFlaw
  flawed_cut used more hspelled hmore := by
    have hlength : (used ++ more).length = 1 := by
      rcases hspelled with h | h <;> rw [h] <;> rfl
    have hpositive : 0 < more.length := List.length_pos_iff.mpr hmore
    rw [List.length_append] at hlength
    obtain rfl : used = [] := List.length_eq_zero_iff.mp (by omega)
    exact .missing

/-- A number that is spelled in seven bits a byte, up to the width of its word. -/
def number (width : VarintWidth) : Format where
  Spelled bytes := ∃ n, Number width bytes n
  Flawed := NumberFlaw width
  flawed_cut _ _ := fun ⟨_, hn⟩ hmore => hn.cut hmore

/-- The position of one of `count` constructors, spelled as a number of 32 bits. -/
def position (count : Nat) : Format where
  Spelled bytes := ∃ n, Number .bits32 bytes n ∧ n < count
  Flawed := PositionFlaw count
  flawed_cut _ _ := fun ⟨_, hn, _⟩ hmore => .number (hn.cut hmore)

/-- No bytes at all, which is what the end of a list of fields looks like. -/
def nothing : Format where
  Spelled bytes := bytes = []
  Flawed _ _ := False
  flawed_cut _ _ hspelled hmore := hmore (List.append_eq_nil_iff.mp hspelled).2

end Format

/-- The spelling of one format and then that of another, with nothing in between. -/
inductive ThenSpelled (first second : Format) : List UInt8 → Prop where
  | both {used more : List UInt8} (hfirst : first.Spelled used) (hsecond : second.Spelled more) :
    ThenSpelled first second (used ++ more)

/-- A flaw of the first format, or a flaw of the second behind a spelling of the first. The second
format is not looked at otherwise. -/
inductive ThenFlawed (first second : Format) : List UInt8 → DecodeError → Prop where
  | here {bytes : List UInt8} {e : DecodeError} (h : first.Flawed bytes e) :
    ThenFlawed first second bytes e
  | later {used rest : List UInt8} {e : DecodeError} (hfirst : first.Spelled used)
      (hsecond : second.Flawed rest e) : ThenFlawed first second (used ++ rest) e

namespace Format

/-- One format after another. If such a spelling is cut short, the cut is in the first part or
behind it, and either way the bytes end too soon. -/
def andThen (first second : Format) : Format where
  Spelled := ThenSpelled first second
  Flawed := ThenFlawed first second
  flawed_cut used more hspelled hmore := by
    generalize hbytes : used ++ more = bytes at hspelled
    obtain ⟨hfirst, hsecond⟩ := hspelled
    rcases cut_append hbytes with ⟨missing, hmissing, rfl⟩ | ⟨part, rfl, rfl⟩
    · exact .here (first.flawed_cut used missing hfirst hmissing)
    · exact .later hfirst (second.flawed_cut part more hsecond hmore)

/-- The fields one after another, in the order of the list. A flaw is looked for in this order
too. -/
def all : List Format → Format :=
  List.foldr andThen nothing

/-- Whatever the bytes are, they are refused, and always with the same error. -/
def never (error : DecodeError) : Format where
  Spelled _ := False
  Flawed _ e := e = error
  flawed_cut _ _ hspelled := hspelled.elim

/-- So many elements, of which `room` fit. One more than fits is still looked at before the sequence
is refused, so a flaw in that one is found first. -/
def counted (element : Format) (room count : Nat) : Format :=
  if count ≤ room then all (List.replicate count element)
  else all (List.replicate (room + 1) element ++ [never .tooLong])

end Format

/-- A number for the length, in any of its spellings, and then the elements. -/
inductive SequenceSpelled (element : Format) (room : Nat) : List UInt8 → Prop where
  | both {head body : List UInt8} {count : Nat} (hcount : Number .bits64 head count)
      (hbody : (element.counted room count).Spelled body) :
    SequenceSpelled element room (head ++ body)

/-- What is wrong with a sequence: the number of its elements is spelled badly, or something is
wrong behind it. -/
inductive SequenceFlaw (element : Format) (room : Nat) : List UInt8 → DecodeError → Prop where
  | length {bytes : List UInt8} {e : DecodeError} (h : NumberFlaw .bits64 bytes e) :
    SequenceFlaw element room bytes e
  | body {head rest : List UInt8} {count : Nat} {e : DecodeError}
      (hcount : Number .bits64 head count) (h : (element.counted room count).Flawed rest e) :
    SequenceFlaw element room (head ++ rest) e

/-- A length and as many elements, of which `room` fit. A longer sequence is refused, even if all
its elements are there. -/
def Format.sequence (element : Format) (room : Nat) : Format where
  Spelled := SequenceSpelled element room
  Flawed := SequenceFlaw element room
  flawed_cut used more hspelled hmore := by
    generalize hbytes : used ++ more = bytes at hspelled
    obtain ⟨hcount, hbody⟩ := hspelled
    rcases cut_append hbytes with ⟨missing, hmissing, rfl⟩ | ⟨part, rfl, rfl⟩
    · exact .length (hcount.cut hmissing)
    · exact .body hcount (Format.flawed_cut _ part more hbody hmore)

namespace Reader

variable {α γ : Type}

/-- The reader does what the format says. It returns a value after a spelling, it does so for every
spelling, and it reports a flaw exactly where there is that flaw. -/
structure Follows (r : Reader α) (f : Format) : Prop where
  sound : ∀ bytes a rest, r.run bytes = .ok (a, rest) →
    ∃ used, bytes = used ++ rest ∧ f.Spelled used
  complete : ∀ used, f.Spelled used → ∃ a, r.Takes used a
  flawed : ∀ bytes e, r.run bytes = .error e ↔ f.Flawed bytes e

/-- The reader can return this value, for some bytes. A property of what is returned, such as a
bound on a length, is proved from this. -/
def Returns (r : Reader α) (a : α) : Prop :=
  ∃ bytes rest, r.run bytes = .ok (a, rest)

variable {r : Reader α} {f : Format}

theorem Takes.returns {bytes : List UInt8} {a : α} (h : r.Takes bytes a) : r.Returns a :=
  ⟨bytes ++ [], [], h []⟩

/-- Only the spelling in front decides on the value; any other bytes behind it give the same. -/
theorem Follows.takes (h : r.Follows f) {bytes rest : List UInt8} {a : α}
    (hrun : r.run bytes = .ok (a, rest)) :
    ∃ used, bytes = used ++ rest ∧ f.Spelled used ∧ r.Takes used a := by
  obtain ⟨used, rfl, hused⟩ := h.sound bytes a rest hrun
  obtain ⟨b, hb⟩ := h.complete used hused
  obtain ⟨rfl, -⟩ := Prod.mk.inj (Except.ok.inj ((hb rest).symm.trans hrun))
  exact ⟨used, rfl, hused, hb⟩

theorem Follows.spelled (h : r.Follows f) {bytes : List UInt8} {a : α}
    (htakes : r.Takes bytes a) : f.Spelled bytes := by
  obtain ⟨used, hsplit, hused⟩ := h.sound _ _ _ (htakes [])
  rw [List.append_nil, List.append_nil] at hsplit
  rwa [hsplit]

/-- A spelling that is cut short is refused because it ends too soon. -/
theorem Follows.run_cut (h : r.Follows f) {used more : List UInt8} {a : α}
    (htakes : r.Takes (used ++ more) a) (hmore : more ≠ []) :
    r.run used = .error .unexpectedEnd :=
  (h.flawed _ _).mpr (f.flawed_cut used more (h.spelled htakes) hmore)

theorem follows_pure (a : α) : (pure a : Reader α).Follows .nothing where
  sound bytes b rest hrun := by
    obtain ⟨-, rfl⟩ := run_pure_eq_ok_iff.mp hrun
    exact ⟨[], rfl, rfl⟩
  complete used hused := by
    obtain rfl : used = [] := hused
    exact ⟨a, takes_pure a⟩
  flawed bytes e := by
    constructor
    · intro hrun
      nomatch hrun
    · intro hflawed
      exact hflawed.elim

theorem follows_fail (e : DecodeError) : (fail e : Reader α).Follows (.all [.never e]) where
  sound _ _ _ hrun := nomatch hrun
  complete used hused := by
    obtain ⟨hnever, -⟩ := hused
    exact hnever.elim
  flawed bytes e' := by
    constructor
    · intro hrun
      obtain rfl : e = e' := Except.error.inj hrun
      exact .here rfl
    · rintro (rfl | ⟨hnever, -⟩)
      · rfl
      · exact hnever.elim

/-- A reader after another follows the one format after the other. The second may depend on the
value of the first, as far as that can be returned at all. -/
theorem Follows.bind {k : α → Reader γ} {g : Format} (hr : r.Follows f)
    (hk : ∀ a, r.Returns a → (k a).Follows g) : (r >>= k).Follows (f.andThen g) where
  sound bytes b rest hrun := by
    obtain ⟨a, middle, hfirst, hsecond⟩ := run_bind_eq_ok_iff.mp hrun
    obtain ⟨used, rfl, hused⟩ := hr.sound bytes a middle hfirst
    obtain ⟨more, rfl, hmore⟩ := (hk a ⟨_, _, hfirst⟩).sound middle b rest hsecond
    exact ⟨used ++ more, (List.append_assoc _ _ _).symm, .both hused hmore⟩
  complete used hused := by
    obtain ⟨hfirst, hsecond⟩ := hused
    obtain ⟨a, ha⟩ := hr.complete _ hfirst
    obtain ⟨b, hb⟩ := (hk a ha.returns).complete _ hsecond
    exact ⟨b, ha.bind hb⟩
  flawed bytes e := by
    rw [run_bind_eq_error_iff]
    constructor
    · rintro (hfirst | ⟨a, middle, hfirst, hsecond⟩)
      · exact .here ((hr.flawed bytes e).mp hfirst)
      · obtain ⟨used, rfl, hused⟩ := hr.sound bytes a middle hfirst
        exact .later hused (((hk a ⟨_, _, hfirst⟩).flawed middle e).mp hsecond)
    · rintro (hflawed | ⟨hfirst, hsecond⟩)
      · exact .inl ((hr.flawed bytes e).mpr hflawed)
      · obtain ⟨a, ha⟩ := hr.complete _ hfirst
        exact .inr ⟨a, _, ha _, ((hk a ha.returns).flawed _ e).mpr hsecond⟩

theorem Follows.map (hr : r.Follows f) (g : α → γ) : (do return g (← r) : Reader γ).Follows f where
  sound bytes b rest hrun := by
    obtain ⟨a, middle, hfirst, hsecond⟩ := run_bind_eq_ok_iff.mp hrun
    obtain ⟨-, rfl⟩ := run_pure_eq_ok_iff.mp hsecond
    exact hr.sound bytes a middle hfirst
  complete used hused := by
    obtain ⟨a, ha⟩ := hr.complete used hused
    exact ⟨g a, ha.map g⟩
  flawed bytes e := by
    rw [← hr.flawed, run_bind_eq_error_iff]
    constructor
    · rintro (hfirst | ⟨a, middle, -, hsecond⟩)
      · exact hfirst
      · nomatch hsecond
    · exact .inl

theorem follows_byte : byte.Follows (.raw 1) where
  sound bytes b rest hrun := by
    cases bytes with
    | nil => nomatch hrun
    | cons first bytes =>
      obtain ⟨rfl, rfl⟩ := Prod.mk.inj (Except.ok.inj hrun)
      exact ⟨[first], rfl, rfl⟩
  complete used hused := by
    obtain ⟨b, rfl⟩ := List.length_eq_one_iff.mp hused
    exact ⟨b, takes_byte b⟩
  flawed bytes e := by
    cases bytes with
    | nil => simp [Format.raw, byte, StateT.run, eq_comm]
    | cons b rest => simp [Format.raw, byte, StateT.run]

theorem follows_word32 : word32.Follows (.raw 4) where
  sound bytes w rest hrun := by
    match bytes with
    | b0 :: b1 :: b2 :: b3 :: bytes =>
      obtain ⟨-, rfl⟩ := Prod.mk.inj (Except.ok.inj hrun)
      exact ⟨[b0, b1, b2, b3], rfl, rfl⟩
    | [] | [_] | [_, _] | [_, _, _] => nomatch hrun
  complete used hused := by
    match used with
    | [b0, b1, b2, b3] => exact ⟨_, fun _ => rfl⟩
  flawed bytes e := by
    match bytes with
    | b0 :: b1 :: b2 :: b3 :: bytes =>
      constructor
      · intro hrun
        nomatch hrun
      · rintro ⟨hshort, -⟩
        simp only [List.length_cons] at hshort
        omega
    | [] | [_] | [_, _] | [_, _, _] => simp [Format.raw, word32, StateT.run, eq_comm]

theorem flag_or_above (b : UInt8) : b = 0 ∨ b = 1 ∨ 1 < b := by
  rw [UInt8.lt_iff_toNat_lt, ← UInt8.toNat_inj, ← UInt8.toNat_inj]
  simp only [UInt8.toNat_ofNat, Nat.reducePow, Nat.reduceMod]
  omega

theorem run_bool_above {b : UInt8} (hb : 1 < b) (rest : List UInt8) :
    bool.run (b :: rest) = .error .badBool := by
  apply run_bind_eq_error_iff.mpr
  refine .inr ⟨b, rest, rfl, ?_⟩
  split
  · exact absurd hb (by decide)
  · exact absurd hb (by decide)
  · rfl

theorem follows_bool : bool.Follows .flag where
  sound bytes value rest hrun := by
    cases bytes with
    | nil => nomatch hrun
    | cons b bytes =>
      rcases flag_or_above b with rfl | rfl | hb
      · obtain ⟨-, rfl⟩ := Prod.mk.inj (Except.ok.inj hrun)
        exact ⟨[0], rfl, .inl rfl⟩
      · obtain ⟨-, rfl⟩ := Prod.mk.inj (Except.ok.inj hrun)
        exact ⟨[1], rfl, .inr rfl⟩
      · rw [run_bool_above hb] at hrun
        nomatch hrun
  complete used hused := by
    rcases hused with rfl | rfl
    · exact ⟨false, takes_bool false⟩
    · exact ⟨true, takes_bool true⟩
  flawed bytes e := by
    constructor
    · intro hrun
      cases bytes with
      | nil =>
        obtain rfl := Except.error.inj hrun
        exact .missing
      | cons b rest =>
        rcases flag_or_above b with rfl | rfl | hb
        · nomatch hrun
        · nomatch hrun
        · rw [run_bool_above hb] at hrun
          obtain rfl := Except.error.inj hrun
          exact .unknown b rest hb
    · intro hflawed
      cases hflawed with
      | missing => rfl
      | unknown b rest hb => exact run_bool_above hb rest

/-- The reader of a number follows its format for every width in which the last byte is less than a
continuation. -/
theorem follows_varint (width : VarintWidth) (hlast : width.lastByte < 0x80)
    (hbytes : 0 < width.bytes) : (varint width).Follows (.number width) where
  sound _ n _ hrun := by
    obtain ⟨used, hsplit, hused⟩ := number_of_takeVarint hrun
    exact ⟨used, hsplit, n, hused⟩
  complete _ := fun ⟨n, hn⟩ => ⟨n, takes_varint hn⟩
  flawed bytes e := by
    obtain ⟨left, lastByte⟩ := width
    obtain ⟨left, rfl⟩ : ∃ k, left = k + 1 := ⟨left - 1, by dsimp only at hbytes; omega⟩
    exact takeVarint_eq_error_iff hlast

theorem follows_length : (varint .bits64).Follows (.number .bits64) :=
  follows_varint .bits64 (by decide) (by decide)

theorem follows_uint16 : uint16.Follows (.number .bits16) :=
  (follows_varint .bits16 (by decide) (by decide)).map UInt16.ofNat

theorem follows_uint32 : uint32.Follows (.number .bits32) :=
  (follows_varint .bits32 (by decide) (by decide)).map UInt32.ofNat

theorem follows_int8 : int8.Follows (.raw 1) :=
  follows_byte.map UInt8.toInt8

theorem follows_variant (constructors : List α) :
    (variant constructors).Follows (.position constructors.length) where
  sound bytes a rest hrun := by
    obtain ⟨index, middle, hindex, hrest⟩ := run_bind_eq_ok_iff.mp hrun
    obtain ⟨used, rfl, hused⟩ := run_uint32_eq_ok_iff.mp hindex
    cases hfound : constructors[index.toNat]? with
    | none =>
      rw [hfound] at hrest
      nomatch hrest
    | some b =>
      rw [hfound] at hrest
      obtain ⟨-, rfl⟩ := run_pure_eq_ok_iff.mp hrest
      exact ⟨used, rfl, _, hused, (List.getElem?_eq_some_iff.mp hfound).1⟩
  complete used hused := by
    obtain ⟨n, hn, hlt⟩ := hused
    exact ⟨constructors[n], takes_variant hn (List.getElem?_eq_getElem hlt)⟩
  flawed bytes e := by
    rw [variant, run_bind_eq_error_iff]
    constructor
    · rintro (hindex | ⟨index, middle, hindex, hrest⟩)
      · exact .number ((follows_uint32.flawed bytes e).mp hindex)
      · obtain ⟨used, rfl, hused⟩ := run_uint32_eq_ok_iff.mp hindex
        cases hfound : constructors[index.toNat]? with
        | none =>
          rw [hfound] at hrest
          obtain rfl := Except.error.inj hrest
          exact .unknown hused (List.getElem?_eq_none_iff.mp hfound) middle
        | some b =>
          rw [hfound] at hrest
          nomatch hrest
    · rintro (hflawed | ⟨hn, hle⟩)
      · exact .inl ((follows_uint32.flawed bytes e).mpr hflawed)
      · obtain ⟨index, hindex⟩ := exists_uint32 hn
        refine .inr ⟨index, _, run_uint32_eq_ok_iff.mpr ⟨_, rfl, hindex ▸ hn⟩, ?_⟩
        rw [hindex, List.getElem?_eq_none hle]
        rfl

theorem counted_zero (f : Format) (room : Nat) : f.counted room 0 = .nothing := by
  rw [Format.counted, if_pos (Nat.zero_le room)]
  rfl

theorem counted_full (f : Format) (count : Nat) :
    f.counted 0 (count + 1) = f.andThen (.all [.never .tooLong]) := by
  rw [Format.counted, if_neg (Nat.not_succ_le_zero count)]
  rfl

theorem counted_succ (f : Format) (room count : Nat) :
    f.counted (room + 1) (count + 1) = f.andThen (f.counted room count) := by
  by_cases hroom : count ≤ room
  · rw [Format.counted, Format.counted, if_pos hroom, if_pos (Nat.succ_le_succ hroom)]
    rfl
  · rw [Format.counted, Format.counted, if_neg hroom, if_neg (by omega)]
    rfl

/-- A fixed number of elements, each of which follows its format, and a refusal behind those that
fit. -/
theorem follows_elements {element : Reader α} {f : Format} (helement : element.Follows f)
    (room count : Nat) : (elements element room count).Follows (f.counted room count) := by
  induction count generalizing room with
  | zero =>
    rw [counted_zero]
    cases room <;> exact follows_pure []
  | succ count ih =>
    cases room with
    | zero =>
      rw [counted_full]
      exact helement.bind fun _ _ => follows_fail .tooLong
    | succ room =>
      rw [counted_succ]
      exact helement.bind fun first _ => (ih room).map (first :: ·)

theorem follows_sequence {element : Reader α} {f : Format} (helement : element.Follows f)
    (room : Nat) : (sequence element room).Follows (f.sequence room) where
  sound bytes values rest hrun := by
    obtain ⟨count, middle, hfirst, hsecond⟩ := run_bind_eq_ok_iff.mp hrun
    obtain ⟨head, rfl, hhead⟩ := number_of_takeVarint hfirst
    obtain ⟨body, rfl, hbody⟩ := (follows_elements helement room count).sound _ _ _ hsecond
    exact ⟨head ++ body, (List.append_assoc _ _ _).symm, .both hhead hbody⟩
  complete used hused := by
    obtain ⟨hcount, hbody⟩ := hused
    obtain ⟨values, hvalues⟩ := (follows_elements helement room _).complete _ hbody
    exact ⟨values, (takes_varint hcount).bind hvalues⟩
  flawed bytes e := by
    rw [sequence, run_bind_eq_error_iff]
    constructor
    · rintro (hfirst | ⟨count, middle, hfirst, hsecond⟩)
      · exact .length ((follows_length.flawed bytes e).mp hfirst)
      · obtain ⟨head, rfl, hhead⟩ := number_of_takeVarint hfirst
        exact .body hhead (((follows_elements helement room count).flawed _ e).mp hsecond)
    · rintro (hflawed | ⟨hcount, hbody⟩)
      · exact .inl ((follows_length.flawed bytes e).mpr hflawed)
      · exact .inr ⟨_, _, takes_varint hcount _,
          ((follows_elements helement room _).flawed _ e).mpr hbody⟩

end Reader

end AirStation.Blob
