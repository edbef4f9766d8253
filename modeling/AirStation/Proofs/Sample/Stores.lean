import AirStation.Snapshot

/-!
Stores into a sample, one after another. Every position but the last has one owner, and a sample is
known by what it holds for each owner and at the last position. A store replaces what its owner has
there and leaves the rest alone. After a whole sequence each owner therefore has what was stored for
it last, and the order of stores for different owners plays no part.

A store is taken with the values and not with the reading they come from. What is proved is true of
any values that fill the slot, and the readings are put in afterwards.
-/

namespace AirStation

/-- Who a slot belongs to: a sensor, or the air quality that is computed from one. -/
inductive Owner where
  | htu21d
  | ccs811
  | bme68x
  | airQuality
deriving DecidableEq, Repr

namespace Owner

def slot : Owner → Slot
  | .htu21d => .htu21d
  | .ccs811 => .ccs811
  | .bme68x => .bme68x
  | .airQuality => .airQuality

def all : List Owner :=
  [.htu21d, .ccs811, .bme68x, .airQuality]

theorem mem_all (owner : Owner) : owner ∈ all := by
  cases owner <;> decide

/-- As many values as the owner has, to be read from a sample or written into one. -/
abbrev Values (owner : Owner) : Type :=
  Vector Int owner.slot.count

def zeros (owner : Owner) : owner.Values :=
  Vector.replicate owner.slot.count 0

/-- Slots end before the last position of a sample, which is left for a later use. -/
theorem slot_end_le (owner : Owner) : owner.slot.start + owner.slot.count ≤ 9 := by
  cases owner <;> decide

theorem slots_disjoint {owner other : Owner} (h : owner ≠ other) :
    owner.slot.start + owner.slot.count ≤ other.slot.start ∨
      other.slot.start + other.slot.count ≤ owner.slot.start := by
  revert h
  cases owner <;> cases other <;> decide

/-- Where a value of the owner stands in a sample, counted from the start of its slot. -/
def position (owner : Owner) (k : Fin owner.slot.count) : Fin sampleSize :=
  ⟨owner.slot.start + k.val, by
    have hend := owner.slot_end_le
    have hk := k.isLt
    unfold sampleSize
    omega⟩

end Owner

namespace Slot

/-- The position is before the slot or behind it, so a store through the slot does not reach it. -/
def Misses (slot : Slot) (i : Fin sampleSize) : Prop :=
  i.val < slot.start ∨ slot.start + slot.count ≤ i.val

variable {slot : Slot} (values : Vector Int slot.count) (sample : Sample) {i : Fin sampleSize}

theorem get_store_inside {k : Fin slot.count} (h : i.val = slot.start + k.val) :
    (slot.store values sample).get i = values.get k := by
  have hoffset : i.val - slot.start = k.val := by omega
  have hinside : slot.start ≤ i.val ∧ i.val - slot.start < slot.count :=
    ⟨by omega, hoffset ▸ k.isLt⟩
  rw [get_store, dif_pos hinside]
  exact congrArg values.get (Fin.ext hoffset)

theorem get_store_of_misses (h : slot.Misses i) :
    (slot.store values sample).get i = sample.get i := by
  unfold Misses at h
  rw [get_store, dif_neg (by omega)]

end Slot

theorem Owner.misses_position {owner other : Owner} (h : owner ≠ other)
    (k : Fin other.slot.count) : owner.slot.Misses (other.position k) := by
  have hdisjoint := slots_disjoint h
  have hk := k.isLt
  unfold Slot.Misses position
  dsimp only
  omega

/-- A store through the slot of an owner. Any reading will do that has as many values as the slot
has positions, so the values stand for the reading. -/
structure Store where
  owner : Owner
  values : owner.Values

def Store.apply (store : Store) (sample : Sample) : Sample :=
  store.owner.slot.store store.values sample

namespace Sample

/-- The last position, which belongs to nobody and is never written. -/
def spare : Fin sampleSize :=
  ⟨9, by decide⟩

/-- What a sample holds for an owner, in the order of its slot. -/
def valuesOf (sample : Sample) (owner : Owner) : owner.Values :=
  Vector.ofFn fun k => sample.get (owner.position k)

theorem get_valuesOf (sample : Sample) (owner : Owner) (k : Fin owner.slot.count) :
    (sample.valuesOf owner).get k = sample.get (owner.position k) :=
  Vector.getElem_ofFn k.isLt

theorem valuesOf_zero (owner : Owner) : zero.valuesOf owner = owner.zeros := by
  cases owner <;> rfl

theorem covered : ∀ i : Fin sampleSize, i = spare ∨
    ∃ owner ∈ Owner.all, owner.slot.start ≤ i.val ∧
      i.val - owner.slot.start < owner.slot.count := by
  decide

/-- Samples that differ, do so in what they hold for an owner or at the last position. -/
theorem ext_valuesOf {sample other : Sample}
    (hvalues : ∀ owner, sample.valuesOf owner = other.valuesOf owner)
    (hspare : sample.get spare = other.get spare) : sample = other := by
  refine Vector.ext fun i hi => ?_
  show sample.get ⟨i, hi⟩ = other.get ⟨i, hi⟩
  rcases covered ⟨i, hi⟩ with hlast | ⟨owner, -, hstart, hcount⟩
  · rw [hlast, hspare]
  · have hposition : ⟨i, hi⟩ = owner.position ⟨i - owner.slot.start, hcount⟩ :=
      Fin.ext (Nat.add_sub_of_le hstart).symm
    rw [hposition, ← get_valuesOf, ← get_valuesOf, hvalues]

theorem toList_eq_valuesOf (sample : Sample) :
    sample.toList =
      Owner.all.flatMap (fun owner => (sample.valuesOf owner).toList) ++ [sample.get spare] := by
  obtain ⟨⟨list⟩, hsize⟩ := sample
  match list, hsize with
  | [_, _, _, _, _, _, _, _, _, _], _ => rfl

end Sample

namespace Sample

/-- The sample after the stores, the first of them first. Later stores may overwrite what earlier
ones have left. -/
def fill (sample : Sample) (stores : List Store) : Sample :=
  stores.foldl (fun sample store => store.apply sample) sample

variable (sample : Sample) {stores : List Store} {owner : Owner}

theorem fill_append (stores more : List Store) :
    sample.fill (stores ++ more) = (sample.fill stores).fill more :=
  List.foldl_append

theorem get_fill_of_misses {i : Fin sampleSize} (h : ∀ store ∈ stores, store.owner.slot.Misses i) :
    (sample.fill stores).get i = sample.get i := by
  induction stores generalizing sample with
  | nil => rfl
  | cons store rest ih =>
    obtain ⟨hstore, hrest⟩ := List.forall_mem_cons.mp h
    calc (sample.fill (store :: rest)).get i
      _ = (store.apply sample).get i := ih (store.apply sample) hrest
      _ = sample.get i := Slot.get_store_of_misses store.values sample hstore

theorem get_fill_spare (stores : List Store) :
    (sample.fill stores).get spare = sample.get spare :=
  sample.get_fill_of_misses fun store _ => .inr store.owner.slot_end_le

theorem valuesOf_fill_of_absent (h : ∀ store ∈ stores, store.owner ≠ owner) :
    (sample.fill stores).valuesOf owner = sample.valuesOf owner := by
  refine congrArg Vector.ofFn (funext fun k => ?_)
  exact sample.get_fill_of_misses fun store hstore => Owner.misses_position (h store hstore) k

theorem valuesOf_apply (store : Store) :
    (store.apply sample).valuesOf store.owner = store.values := by
  refine Vector.ext fun k hk => ?_
  calc ((store.apply sample).valuesOf store.owner).get ⟨k, hk⟩
    _ = (store.apply sample).get (store.owner.position ⟨k, hk⟩) := get_valuesOf _ _ _
    _ = store.values.get ⟨k, hk⟩ := Slot.get_store_inside store.values sample rfl

/-- What was stored last for an owner stays, whatever is stored for others. -/
theorem valuesOf_fill_of_last (before : List Store) {store : Store} {after : List Store}
    (hstores : stores = before ++ store :: after)
    (h : ∀ later ∈ after, later.owner ≠ store.owner) :
    (sample.fill stores).valuesOf store.owner = store.values := by
  rw [hstores, fill_append]
  calc ((sample.fill before).fill (store :: after)).valuesOf store.owner
    _ = (store.apply (sample.fill before)).valuesOf store.owner := valuesOf_fill_of_absent _ h
    _ = store.values := valuesOf_apply _ store

theorem apply_comm {first second : Store} (h : first.owner ≠ second.owner) :
    second.apply (first.apply sample) = first.apply (second.apply sample) := by
  show sample.fill [first, second] = sample.fill [second, first]
  apply ext_valuesOf
  · intro owner
    -- each of the two stores is the last one for its owner, on both sides
    by_cases hfirst : first.owner = owner
    · subst hfirst
      exact (sample.valuesOf_fill_of_last [] rfl (List.forall_mem_singleton.mpr h.symm)).trans
        (sample.valuesOf_fill_of_last [second] rfl (List.forall_mem_nil _)).symm
    · by_cases hsecond : second.owner = owner
      · subst hsecond
        exact (sample.valuesOf_fill_of_last [first] rfl (List.forall_mem_nil _)).trans
          (sample.valuesOf_fill_of_last [] rfl (List.forall_mem_singleton.mpr h)).symm
      · exact (sample.valuesOf_fill_of_absent (by simp [hfirst, hsecond])).trans
          (sample.valuesOf_fill_of_absent (by simp [hfirst, hsecond])).symm
  · rw [get_fill_spare, get_fill_spare]

end Sample

/-- No owner has two stores, so none of them is overwritten, and their order plays no part. -/
def Store.Distinct (stores : List Store) : Prop :=
  ∀ first ∈ stores, ∀ second ∈ stores, first.owner = second.owner → first = second

namespace Sample

variable (sample : Sample) {stores : List Store} (hdistinct : Store.Distinct stores)

include hdistinct

theorem fill_perm {other : List Store} (hperm : stores.Perm other) :
    sample.fill stores = sample.fill other := by
  refine hperm.foldl_eq' (fun first hfirst second hsecond sample => ?_) sample
  by_cases howner : first.owner = second.owner
  · rw [hdistinct first hfirst second hsecond howner]
  · exact sample.apply_comm howner

theorem valuesOf_fill_of_mem {store : Store} (hstore : store ∈ stores) :
    (sample.fill stores).valuesOf store.owner = store.values := by
  obtain ⟨before, after, rfl⟩ := List.append_of_mem hstore
  -- any order will do, so let the store come last
  have hperm : (before ++ store :: after).Perm ((before ++ after) ++ [store]) :=
    List.perm_middle.trans (List.perm_append_singleton store (before ++ after)).symm
  rw [sample.fill_perm hdistinct hperm]
  exact sample.valuesOf_fill_of_last (before ++ after) rfl (List.forall_mem_nil _)

end Sample

section Each

variable (values? : (owner : Owner) → Option owner.Values)

namespace Store

/-- What there is to store, in the order of the slots, with at most one store for each owner. -/
def each : List Store :=
  Owner.all.flatMap fun owner => ((values? owner).map (Store.mk owner)).toList

theorem mem_each_iff {store : Store} :
    store ∈ each values? ↔ values? store.owner = some store.values := by
  unfold each
  rw [List.mem_flatMap]
  constructor
  · rintro ⟨owner, -, hstore⟩
    obtain ⟨values, hvalues, rfl⟩ := Option.map_eq_some_iff.mp (Option.mem_toList.mp hstore)
    exact hvalues
  · intro hvalues
    refine ⟨store.owner, Owner.mem_all _, ?_⟩
    rw [hvalues]
    exact List.mem_singleton_self store

theorem distinct_each : Distinct (each values?) := by
  intro first hfirst second hsecond howner
  rw [mem_each_iff] at hfirst hsecond
  obtain ⟨owner, values⟩ := first
  obtain ⟨_, others⟩ := second
  dsimp only at howner hfirst hsecond
  subst howner
  rw [Option.some.inj (hfirst.symm.trans hsecond)]

end Store

namespace Sample

variable (sample : Sample)

theorem valuesOf_fill_each (owner : Owner) :
    (sample.fill (Store.each values?)).valuesOf owner =
      (values? owner).getD (sample.valuesOf owner) := by
  cases hvalues : values? owner with
  | none =>
    apply valuesOf_fill_of_absent
    rintro store hstore rfl
    rw [Store.mem_each_iff, hvalues] at hstore
    nomatch hstore
  | some values =>
    have hstore : ⟨owner, values⟩ ∈ Store.each values? := (Store.mem_each_iff values?).mpr hvalues
    exact sample.valuesOf_fill_of_mem (Store.distinct_each values?) hstore

theorem storeSome_eq_fill {owner : Owner} (values : Option owner.Values) :
    owner.slot.storeSome values sample = sample.fill (values.map (Store.mk owner)).toList := by
  cases values <;> rfl

/-- All that there is to store, written out as one optional store for each owner. -/
theorem fill_each_eq :
    sample.fill (Store.each values?) =
      (Slot.airQuality.storeSome (values? .airQuality) <|
        Slot.bme68x.storeSome (values? .bme68x) <|
        Slot.ccs811.storeSome (values? .ccs811) <|
        Slot.htu21d.storeSome (values? .htu21d) sample) := by
  simp only [Store.each, Owner.all, List.flatMap_cons, List.flatMap_nil, List.append_nil,
    fill_append, ← storeSome_eq_fill]
  rfl

end Sample

end Each

end AirStation
