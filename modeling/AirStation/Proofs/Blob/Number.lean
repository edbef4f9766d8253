import AirStation.Blob.Reader
import AirStation.Blob.Writer

/-!
Variable-length numbers as byte strings. `Number` says which bytes spell a number of a given width
and `NumberFlaw` which have a flaw in its place; the reader agrees with both. A number has many
spellings, the longer ones padded with zeros, and `varint` is the shortest.

The reader goes through the bytes with a count of how many may still come, and the last byte of the
width has fewer bits than the others. The lemmas about one byte in front are therefore about a width
with one byte less, and everything else is an induction on the bytes.
-/

namespace AirStation.Blob

/-- Seven bits of each byte, the least significant first. The high bits are left out. -/
def sevens : List UInt8 → Nat
  | [] => 0
  | byte :: rest => byte.toNat % 0x80 + 0x80 * sevens rest

/-- Each byte but the last has its high bit set, and a number that takes all the bytes of its width
ends in one that is small enough. -/
inductive Number (width : VarintWidth) : List UInt8 → Nat → Prop where
  | spelled (upper : List UInt8) (last : UInt8) (hupper : ∀ byte ∈ upper, 0x80 ≤ byte)
      (hlast : last < 0x80) (hroom : upper.length < width.bytes)
      (hfull : upper.length + 1 = width.bytes → last ≤ width.lastByte) :
    Number width (upper ++ [last]) (sevens (upper ++ [last]))

/-- What is wrong with a number: the bytes end inside it, or it does not fit its width. -/
inductive NumberFlaw (width : VarintWidth) : List UInt8 → DecodeError → Prop where
  /-- The bytes end inside the number. -/
  | unfinished (bytes : List UInt8) (hbytes : ∀ byte ∈ bytes, 0x80 ≤ byte)
      (hlength : bytes.length < width.bytes) : NumberFlaw width bytes .unexpectedEnd
  /-- The last byte of the width continues the number or is too large. -/
  | tooWide (upper : List UInt8) (last : UInt8) (rest : List UInt8)
      (hupper : ∀ byte ∈ upper, 0x80 ≤ byte) (hfull : upper.length + 1 = width.bytes)
      (hlast : width.lastByte < last) : NumberFlaw width (upper ++ last :: rest) .badVarint

variable {left : Nat} {lastByte byte : UInt8} {bytes rest : List UInt8} {n : Nat}
  {e : DecodeError}

theorem not_number_nil (width : VarintWidth) (n : Nat) : ¬ Number width [] n := by
  intro h
  generalize hbytes : ([] : List UInt8) = bytes at h
  cases h
  simp at hbytes

theorem sevens_low (hbyte : byte < 0x80) : sevens [byte] = byte.toNat := by
  have hlt : byte.toNat < 0x80 := hbyte
  simp [sevens, Nat.mod_eq_of_lt hlt]

theorem sevens_high (hbyte : 0x80 ≤ byte) (rest : List UInt8) :
    sevens (byte :: rest) = byte.toNat - 0x80 + 0x80 * sevens rest := by
  have hle : 0x80 ≤ byte.toNat := hbyte
  have hlt := byte.toNat_lt
  rw [sevens]
  omega

theorem number_cons_low (hbyte : byte < 0x80) :
    Number ⟨left + 1, lastByte⟩ (byte :: rest) n ↔
      rest = [] ∧ n = byte.toNat ∧ (left = 0 → byte ≤ lastByte) := by
  constructor
  · intro h
    generalize hbytes : byte :: rest = bytes at h
    cases h with
    | spelled upper last hupper hlast hroom hfull =>
      cases upper with
      | nil =>
        obtain ⟨rfl, rfl⟩ := List.cons.inj hbytes
        refine ⟨rfl, sevens_low hbyte, fun hleft => hfull ?_⟩
        simp [hleft]
      | cons first upper =>
        obtain ⟨rfl, -⟩ := List.cons.inj hbytes
        exact absurd (hupper _ List.mem_cons_self) (UInt8.not_le.mpr hbyte)
  · rintro ⟨rfl, rfl, hlast⟩
    rw [← sevens_low hbyte]
    refine .spelled [] byte (by simp) hbyte (Nat.succ_pos left) fun hfull => hlast ?_
    simpa using hfull.symm

theorem number_cons_high (hbyte : 0x80 ≤ byte) :
    Number ⟨left + 1, lastByte⟩ (byte :: rest) n ↔
      ∃ m, Number ⟨left, lastByte⟩ rest m ∧ n = byte.toNat - 0x80 + 0x80 * m := by
  constructor
  · intro h
    generalize hbytes : byte :: rest = bytes at h
    cases h with
    | spelled upper last hupper hlast hroom hfull =>
      cases upper with
      | nil =>
        obtain ⟨rfl, -⟩ := List.cons.inj hbytes
        exact absurd hbyte (UInt8.not_le.mpr hlast)
      | cons first upper =>
        obtain ⟨rfl, rfl⟩ := List.cons.inj hbytes
        refine ⟨sevens (upper ++ [last]), ?_, sevens_high hbyte _⟩
        refine .spelled upper last (fun b hb => hupper b (List.mem_cons_of_mem _ hb)) hlast ?_ ?_
        · simpa using hroom
        · intro hlength
          exact hfull (by simpa using hlength)
  · rintro ⟨m, hm, rfl⟩
    cases hm with
    | spelled upper last hupper hlast hroom hfull =>
      rw [← sevens_high hbyte]
      refine .spelled (byte :: upper) last ?_ hlast ?_ ?_
      · exact List.forall_mem_cons.mpr ⟨hbyte, hupper⟩
      · simpa using hroom
      · intro hlength
        exact hfull (by simpa using hlength)

theorem numberFlaw_nil : NumberFlaw ⟨left + 1, lastByte⟩ [] e ↔ e = .unexpectedEnd := by
  constructor
  · intro h
    generalize hbytes : ([] : List UInt8) = bytes at h
    cases h with
    | unfinished => rfl
    | tooWide => simp at hbytes
  · rintro rfl
    exact .unfinished [] (by simp) (Nat.succ_pos left)

theorem numberFlaw_cons_low (hbyte : byte < 0x80) :
    NumberFlaw ⟨left + 1, lastByte⟩ (byte :: rest) e ↔
      left = 0 ∧ lastByte < byte ∧ e = .badVarint := by
  constructor
  · intro h
    generalize hbytes : byte :: rest = bytes at h
    cases h with
    | unfinished _ hhigh =>
      subst hbytes
      exact absurd (hhigh _ List.mem_cons_self) (UInt8.not_le.mpr hbyte)
    | tooWide upper last _ hupper hfull hlast =>
      cases upper with
      | nil =>
        obtain ⟨rfl, -⟩ := List.cons.inj hbytes
        exact ⟨by simpa using hfull.symm, hlast, rfl⟩
      | cons first upper =>
        obtain ⟨rfl, -⟩ := List.cons.inj hbytes
        exact absurd (hupper _ List.mem_cons_self) (UInt8.not_le.mpr hbyte)
  · rintro ⟨rfl, hlast, rfl⟩
    exact .tooWide [] byte rest (by simp) rfl hlast

/-- The last byte of the width may not continue the number; one that does is as wrong as one that is
too large. -/
theorem numberFlaw_cons_last (hbyte : lastByte < byte) :
    NumberFlaw ⟨1, lastByte⟩ (byte :: rest) e ↔ e = .badVarint := by
  constructor
  · intro h
    generalize hbytes : byte :: rest = bytes at h
    cases h with
    | unfinished _ _ hlength =>
      subst hbytes
      simp at hlength
    | tooWide => rfl
  · rintro rfl
    exact .tooWide [] byte rest (by simp) rfl hbyte

theorem numberFlaw_cons_high (hbyte : 0x80 ≤ byte) :
    NumberFlaw ⟨left + 2, lastByte⟩ (byte :: rest) e ↔
      NumberFlaw ⟨left + 1, lastByte⟩ rest e := by
  constructor
  · intro h
    generalize hbytes : byte :: rest = bytes at h
    cases h with
    | unfinished _ hhigh hlength =>
      subst hbytes
      exact .unfinished rest (fun b hb => hhigh b (List.mem_cons_of_mem _ hb))
        (by simpa using hlength)
    | tooWide upper last _ hupper hfull hlast =>
      cases upper with
      | nil => simp at hfull
      | cons first upper =>
        obtain ⟨rfl, rfl⟩ := List.cons.inj hbytes
        exact .tooWide upper last _ (fun b hb => hupper b (List.mem_cons_of_mem _ hb))
          (by simpa using hfull) hlast
  · intro h
    cases h with
    | unfinished _ hhigh hlength =>
      exact .unfinished _ (List.forall_mem_cons.mpr ⟨hbyte, hhigh⟩) (by simpa using hlength)
    | tooWide upper last _ hupper hfull hlast =>
      exact .tooWide (byte :: upper) last _ (List.forall_mem_cons.mpr ⟨hbyte, hupper⟩)
        (by simpa using hfull) hlast

theorem takeVarint_low (hbyte : byte < 0x80) :
    takeVarint lastByte (left + 1) (byte :: rest) =
      if left = 0 ∧ lastByte < byte then .error .badVarint else .ok (byte.toNat, rest) := by
  rw [takeVarint, if_pos hbyte]

theorem takeVarint_high (hbyte : 0x80 ≤ byte) :
    takeVarint lastByte (left + 1) (byte :: rest) =
      (takeVarint lastByte left rest).map fun (upper, rest) =>
        (byte.toNat - 0x80 + 0x80 * upper, rest) := by
  rw [takeVarint, if_neg (UInt8.not_lt.mpr hbyte)]
  rfl

/-- What the reader returns is spelled by the bytes it has taken. -/
theorem number_of_takeVarint (h : takeVarint lastByte left bytes = .ok (n, rest)) :
    ∃ used, bytes = used ++ rest ∧ Number ⟨left, lastByte⟩ used n := by
  induction left generalizing bytes n with
  | zero => nomatch h
  | succ left ih =>
    cases bytes with
    | nil => nomatch h
    | cons byte bytes =>
      by_cases hbyte : byte < 0x80
      · rw [takeVarint_low hbyte] at h
        split at h
        case isTrue => nomatch h
        case isFalse hsmall =>
          obtain ⟨rfl, rfl⟩ := Prod.mk.inj (Except.ok.inj h)
          refine ⟨[byte], rfl, (number_cons_low hbyte).mpr ⟨rfl, rfl, fun hleft => ?_⟩⟩
          exact UInt8.not_lt.mp fun hlast => hsmall ⟨hleft, hlast⟩
      · have hhigh : 0x80 ≤ byte := UInt8.not_lt.mp hbyte
        rw [takeVarint_high hhigh] at h
        cases hupper : takeVarint lastByte left bytes with
        | error e =>
          rw [hupper] at h
          nomatch h
        | ok outcome =>
          obtain ⟨m, rest'⟩ := outcome
          rw [hupper] at h
          obtain ⟨rfl, rfl⟩ := Prod.mk.inj (Except.ok.inj h)
          obtain ⟨used, rfl, hused⟩ := ih hupper
          exact ⟨byte :: used, rfl, (number_cons_high hhigh).mpr ⟨m, hused, rfl⟩⟩

theorem takeVarint_of_number {used : List UInt8} (h : Number ⟨left, lastByte⟩ used n)
    (rest : List UInt8) : takeVarint lastByte left (used ++ rest) = .ok (n, rest) := by
  induction left generalizing used n with
  | zero =>
    cases h with
    | spelled _ _ _ _ hroom => exact absurd hroom (Nat.not_lt_zero _)
  | succ left ih =>
    cases used with
    | nil => exact absurd h (not_number_nil _ n)
    | cons byte used =>
      by_cases hbyte : byte < 0x80
      · obtain ⟨rfl, rfl, hlast⟩ := (number_cons_low hbyte).mp h
        rw [List.singleton_append, takeVarint_low hbyte, if_neg]
        rintro ⟨hleft, hlarge⟩
        exact UInt8.not_le.mpr hlarge (hlast hleft)
      · have hhigh : 0x80 ≤ byte := UInt8.not_lt.mp hbyte
        obtain ⟨m, hm, rfl⟩ := (number_cons_high hhigh).mp h
        rw [List.cons_append, takeVarint_high hhigh, ih hm]
        rfl

theorem map_eq_error_iff {α γ ε : Type} {x : Except ε α} {f : α → γ} {e : ε} :
    x.map f = .error e ↔ x = .error e := by
  cases x <;> simp [Except.map]

/-- The reader refuses a number exactly for the flaw that its bytes have. -/
theorem takeVarint_eq_error_iff (hlast : lastByte < 0x80) :
    takeVarint lastByte (left + 1) bytes = .error e ↔
      NumberFlaw ⟨left + 1, lastByte⟩ bytes e := by
  induction bytes generalizing left with
  | nil =>
    rw [numberFlaw_nil, takeVarint, Except.error.injEq, eq_comm]
  | cons byte rest ih =>
    by_cases hbyte : byte < 0x80
    · rw [takeVarint_low hbyte, numberFlaw_cons_low hbyte]
      by_cases hwide : left = 0 ∧ lastByte < byte
      · rw [if_pos hwide, Except.error.injEq, eq_comm]
        constructor
        · intro he
          exact ⟨hwide.1, hwide.2, he⟩
        · rintro ⟨-, -, he⟩
          exact he
      · rw [if_neg hwide]
        constructor
        · intro h
          nomatch h
        · rintro ⟨hleft, hlarge, -⟩
          exact absurd ⟨hleft, hlarge⟩ hwide
    · have hhigh : 0x80 ≤ byte := UInt8.not_lt.mp hbyte
      rw [takeVarint_high hhigh, map_eq_error_iff]
      cases left with
      | zero =>
        rw [numberFlaw_cons_last (UInt8.lt_of_lt_of_le hlast hhigh), takeVarint,
          Except.error.injEq, eq_comm]
      | succ left => rw [ih, numberFlaw_cons_high hhigh]

/-- The numbers that so many bytes can spell lie below this, as seven bits each give. -/
def capacity : Nat → Nat
  | 0 => 1
  | count + 1 => 0x80 * capacity count

theorem capacity_le_succ (count : Nat) : capacity count ≤ capacity (count + 1) := by
  rw [capacity]
  omega

theorem capacity_mono {count more : Nat} (h : count ≤ more) : capacity count ≤ capacity more := by
  induction h with
  | refl => exact Nat.le_refl _
  | step _ ih => exact Nat.le_trans ih (capacity_le_succ _)

/-- The numbers of a width lie below this. It is a power of two, the size of the word. -/
def VarintWidth.bound (width : VarintWidth) : Nat :=
  (width.lastByte.toNat + 1) * capacity (width.bytes - 1)

theorem sevens_lt (bytes : List UInt8) : sevens bytes < capacity bytes.length := by
  induction bytes with
  | nil => simp [sevens, capacity]
  | cons byte rest ih =>
    have hbyte : byte.toNat % 0x80 < 0x80 := Nat.mod_lt _ (by decide)
    rw [sevens, List.length_cons, capacity]
    omega

theorem sevens_concat (upper : List UInt8) (last : UInt8) :
    sevens (upper ++ [last]) = sevens upper + capacity upper.length * (last.toNat % 0x80) := by
  induction upper with
  | nil => simp [sevens, capacity]
  | cons byte upper ih =>
    rw [List.cons_append, sevens, ih, sevens, List.length_cons, capacity, Nat.mul_add,
      Nat.add_assoc, ← Nat.mul_assoc]

theorem Number.lt_bound {width : VarintWidth} (h : Number width bytes n) : n < width.bound := by
  cases h with
  | spelled upper last hupper hlast hroom hfull =>
    -- Only a spelling that takes every byte of the width depends on the largest last byte.
    by_cases hlength : upper.length + 1 = width.bytes
    · have hcapacity : upper.length = width.bytes - 1 := by omega
      have hle : last.toNat % 0x80 ≤ width.lastByte.toNat :=
        Nat.le_trans (Nat.mod_le _ _) (hfull hlength)
      calc sevens (upper ++ [last])
          = sevens upper + capacity upper.length * (last.toNat % 0x80) := sevens_concat upper last
        _ < capacity upper.length + capacity upper.length * (last.toNat % 0x80) :=
          Nat.add_lt_add_right (sevens_lt upper) _
        _ = (last.toNat % 0x80 + 1) * capacity upper.length := by
          rw [Nat.add_mul, Nat.one_mul, Nat.mul_comm, Nat.add_comm]
        _ ≤ width.bound := by
          rw [VarintWidth.bound, ← hcapacity]
          exact Nat.mul_le_mul_right _ (Nat.succ_le_succ hle)
    · have hshort : (upper ++ [last]).length ≤ width.bytes - 1 := by
        rw [List.length_append, List.length_singleton]
        omega
      calc sevens (upper ++ [last])
          < capacity (upper ++ [last]).length := sevens_lt _
        _ ≤ capacity (width.bytes - 1) := capacity_mono hshort
        _ ≤ width.bound := Nat.le_mul_of_pos_left _ (Nat.succ_pos _)

theorem varint_low (hn : n < 0x80) : varint n = [UInt8.ofNat n] := by
  rw [varint, if_pos hn]

theorem varint_high (hn : 0x80 ≤ n) :
    varint n = UInt8.ofNat (n % 0x80 + 0x80) :: varint (n / 0x80) := by
  rw [varint, if_neg (Nat.not_lt.mpr hn)]

theorem number_varint_low (hn : n < 0x80) (hlast : left = 0 → n ≤ lastByte.toNat) :
    Number ⟨left + 1, lastByte⟩ (varint n) n := by
  have hbyte : (UInt8.ofNat n).toNat = n := by
    rw [UInt8.toNat_ofNat']
    omega
  rw [varint_low hn]
  refine (number_cons_low ?_).mpr ⟨rfl, hbyte.symm, fun hleft => ?_⟩
  · rw [UInt8.lt_iff_toNat_lt, hbyte]
    exact hn
  · rw [UInt8.le_iff_toNat_le, hbyte]
    exact hlast hleft

/-- The shortest spelling is one, for every number below the bound of its width. -/
theorem number_varint (hlast : lastByte < 0x80)
    (hn : n < (lastByte.toNat + 1) * capacity left) :
    Number ⟨left + 1, lastByte⟩ (varint n) n := by
  have hsmall : lastByte.toNat < 0x80 := hlast
  induction left generalizing n with
  | zero =>
    rw [capacity, Nat.mul_one] at hn
    exact number_varint_low (by omega) fun _ => by omega
  | succ left ih =>
    by_cases hlow : n < 0x80
    · exact number_varint_low hlow fun hleft => nomatch hleft
    · have hbyte : (UInt8.ofNat (n % 0x80 + 0x80)).toNat = n % 0x80 + 0x80 := by
        rw [UInt8.toNat_ofNat']
        omega
      have hupper : n / 0x80 < (lastByte.toNat + 1) * capacity left := by
        apply Nat.div_lt_of_lt_mul
        rwa [capacity, Nat.mul_left_comm] at hn
      rw [varint_high (Nat.not_lt.mp hlow)]
      refine (number_cons_high ?_).mpr ⟨n / 0x80, ih hupper, ?_⟩
      · rw [UInt8.le_iff_toNat_le, hbyte]
        exact Nat.le_add_left _ _
      · rw [hbyte]
        omega

theorem length_varint_le {more : Nat} (hn : n < capacity (more + 1)) :
    (varint n).length ≤ more + 1 := by
  induction more generalizing n with
  | zero =>
    rw [varint_low (by simpa [capacity] using hn)]
    exact Nat.le_refl 1
  | succ more ih =>
    by_cases hlow : n < 0x80
    · rw [varint_low hlow]
      exact Nat.succ_le_succ (Nat.zero_le _)
    · rw [varint_high (Nat.not_lt.mp hlow), List.length_cons]
      exact Nat.succ_le_succ (ih (Nat.div_lt_of_lt_mul hn))

/-- No spelling is shorter than the one that is written. -/
theorem Number.length_varint_le {width : VarintWidth} (h : Number width bytes n) :
    (varint n).length ≤ bytes.length := by
  cases h with
  | spelled upper last =>
    have hvalue := sevens_lt (upper ++ [last])
    rw [List.length_append, List.length_singleton] at hvalue ⊢
    exact Blob.length_varint_le hvalue

/-- A spelling that is cut short lacks the byte that would end it. -/
theorem Number.cut {width : VarintWidth} {used more : List UInt8}
    (h : Number width (used ++ more) n) (hmore : more ≠ []) :
    NumberFlaw width used .unexpectedEnd := by
  generalize hbytes : used ++ more = bytes at h
  cases h with
  | spelled upper last hupper hlast hroom =>
    obtain ⟨init, final, rfl⟩ := (List.eq_nil_or_concat more).resolve_left hmore
    rw [List.concat_eq_append, ← List.append_assoc] at hbytes
    obtain ⟨rfl, -⟩ := List.append_inj' hbytes rfl
    refine .unfinished used (fun b hb => hupper b (List.mem_append_left _ hb)) ?_
    rw [List.length_append] at hroom
    omega

end AirStation.Blob
