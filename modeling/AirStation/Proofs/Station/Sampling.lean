import AirStation.Proofs.Sample.Stores
import AirStation.Proofs.Station.Steps
import AirStation.Simulated.Bus

/-!
The sample of a station. It is made by one store for each reading there is, and these may come in
any order; the result is the readings of the snapshot side by side, with zeros for a missing one.

A station asks its sensors one by one and a snapshot has asked them before, so both are given here
as what there is to store for an owner. That the two agree, and that a sample is filled from a
sample of zeros, is all that is needed beside the lemmas about stores.
-/

namespace AirStation

namespace Snapshot

/-- What a snapshot has to show for an owner, already in thousandths. -/
def values? (s : Snapshot) : (owner : Owner) → Option owner.Values
  | .htu21d => s.htu21d.map (·.toValues)
  | .ccs811 => s.ccs811.map (·.toValues)
  | .bme68x => s.bme68x.map (·.toValues)
  | .airQuality => s.airQuality.map (·.toValues)

theorem toSample_eq_fill (s : Snapshot) : s.toSample = Sample.zero.fill (Store.each s.values?) :=
  (Sample.fill_each_eq s.values? Sample.zero).symm

theorem toList_valuesOf_toSample (s : Snapshot) {ρ : Type} {owner : Owner} {reading : Option ρ}
    {toValues : ρ → owner.Values} (h : s.values? owner = reading.map toValues) :
    (s.toSample.valuesOf owner).toList =
      reading.elim owner.zeros.toList fun r => (toValues r).toList := by
  rw [toSample_eq_fill, Sample.valuesOf_fill_each, h, Sample.valuesOf_zero]
  cases reading <;> rfl

/-- The readings side by side, and zero behind them, where a missing reading has as many zeros as it
would have values. -/
theorem toList_toSample (s : Snapshot) :
    s.toSample.toList =
      s.htu21d.elim [0, 0] (·.toValues.toList) ++
      s.ccs811.elim [0, 0] (·.toValues.toList) ++
      s.bme68x.elim [0, 0, 0, 0] (·.toValues.toList) ++
      s.airQuality.elim [0] (·.toValues.toList) ++ [0] := by
  have hhtu : (s.toSample.valuesOf .htu21d).toList = s.htu21d.elim [0, 0] (·.toValues.toList) :=
    s.toList_valuesOf_toSample rfl
  have hccs : (s.toSample.valuesOf .ccs811).toList = s.ccs811.elim [0, 0] (·.toValues.toList) :=
    s.toList_valuesOf_toSample rfl
  have hbme : (s.toSample.valuesOf .bme68x).toList =
      s.bme68x.elim [0, 0, 0, 0] (·.toValues.toList) :=
    s.toList_valuesOf_toSample rfl
  have hair : (s.toSample.valuesOf .airQuality).toList =
      s.airQuality.elim [0] (·.toValues.toList) :=
    s.toList_valuesOf_toSample rfl
  have hspare : s.toSample.get Sample.spare = 0 := by
    rw [toSample_eq_fill, Sample.get_fill_spare]
    rfl
  rw [Sample.toList_eq_valuesOf, hspare]
  simp only [Owner.all, List.flatMap_cons, List.flatMap_nil, List.append_nil, List.append_assoc,
    hhtu, hccs, hbme, hair]

end Snapshot

namespace Station

/-- What a station has to show for an owner, asked of the sensor itself. -/
def values? (s : Station) : (owner : Owner) → Option owner.Values
  | .htu21d => (s.htu21d.bind (·.latest)).map (·.toValues)
  | .ccs811 => (s.ccs811.bind (·.latest)).map (·.toValues)
  | .bme68x => (s.bme68x.bind (·.latest)).map (·.toValues)
  | .airQuality => s.airQuality.map (·.toValues)

/-- The stores that make the sample of a station, in the order in which it makes them. -/
def stores (s : Station) : List Store :=
  Store.each s.values?

theorem values?_snapshot (s : Station) : s.snapshot.values? = s.values? := by
  funext owner
  cases owner <;> rfl

theorem sample_eq_fill (s : Station) : s.sample = Sample.zero.fill s.stores := by
  rw [sample, Snapshot.toSample_eq_fill, values?_snapshot, stores]

theorem fill_eq_sample {s : Station} {reordered : List Store} (h : reordered.Perm s.stores) :
    Sample.zero.fill reordered = s.sample := by
  rw [sample_eq_fill]
  exact (Sample.zero.fill_perm (Store.distinct_each s.values?) h.symm).symm

/-- A sample keeps the readings apart. After any stores into any sample every owner has what was
stored for it last, or what it had if nothing was, and the last position never changes; stores for
different owners commute. So the sample of a station, whatever its state, does not depend on the
order of the stores that make it, and shows the readings of its snapshot in the order of the slots,
with zeros for a missing one. -/
theorem sample_keeps_readings_apart (sample : Sample) (stores : List Store) :
    let filled := sample.fill stores
    (∀ before store after, stores = before ++ store :: after →
      (∀ later ∈ after, later.owner ≠ store.owner) →
        filled.valuesOf store.owner = store.values) ∧
    (∀ owner, (∀ store ∈ stores, store.owner ≠ owner) →
      filled.valuesOf owner = sample.valuesOf owner) ∧
    filled.get Sample.spare = sample.get Sample.spare ∧
    (∀ first second : Store, first.owner ≠ second.owner →
      second.apply (first.apply sample) = first.apply (second.apply sample)) ∧
    ∀ s : Station,
      (∀ reordered, reordered.Perm s.stores → Sample.zero.fill reordered = s.sample) ∧
      s.sample.toList =
        s.snapshot.htu21d.elim [0, 0] (·.toValues.toList) ++
        s.snapshot.ccs811.elim [0, 0] (·.toValues.toList) ++
        s.snapshot.bme68x.elim [0, 0, 0, 0] (·.toValues.toList) ++
        s.snapshot.airQuality.elim [0] (·.toValues.toList) ++ [0] := by
  intro filled
  refine ⟨?_, ?_, sample.get_fill_spare stores, ?_, ?_⟩
  · intro before store after hstores hlast
    exact sample.valuesOf_fill_of_last before hstores hlast
  · intro owner habsent
    exact sample.valuesOf_fill_of_absent habsent
  · intro first second hother
    exact sample.apply_comm hother
  · intro s
    exact ⟨fun _ hperm => fill_eq_sample hperm, s.snapshot.toList_toSample⟩

/-- An outdated climate is overwritten, and nothing is stored for the BME68x. In the session no
BME68x is on the bus. -/
theorem sample_keeps_readings_apart_overwritten :
    let sevens : Sample := Vector.replicate sampleSize 7
    let outdated : Store := ⟨.htu21d, #v[19000, 30000]⟩
    let gases : Store := ⟨.ccs811, #v[520000, 18000]⟩
    let climate : Store := ⟨.htu21d, #v[22000, 41000]⟩
    let air : Store := ⟨.airQuality, #v[35000]⟩
    let filled := sevens.fill [outdated, gases, climate, air]
    let bus := { SimulatedBus.empty with
      htu21d := some ⟨0x6000, 0x8002, none, false, 0⟩
      ccs811 := some (Ccs811.Model.standard.publish 520 18) }
    let s := (history .standard bus
      [.init 0, .poll 1000000, .poll 1050000, .poll 1066000]).state
    (∀ later ∈ [air], later.owner ≠ climate.owner) ∧ filled.valuesOf .htu21d = #v[22000, 41000] ∧
      (∀ store ∈ [outdated, gases, climate, air], store.owner ≠ .bme68x) ∧
      filled.valuesOf .bme68x = #v[7, 7, 7, 7] ∧ filled.get Sample.spare = 7 ∧
      gases.owner ≠ climate.owner ∧
      climate.apply (gases.apply sevens) = gases.apply (climate.apply sevens) ∧
      s.stores.reverse.Perm s.stores ∧ Sample.zero.fill s.stores.reverse = s.sample ∧
      s.sample.toList = [19045, 56500, 520000, 18000, 0, 0, 0, 0, 0, 0] := by
  intro sevens outdated gases climate air filled bus s
  obtain ⟨hlast, habsent, hspare, hcomm, hstation⟩ :=
    sample_keeps_readings_apart sevens [outdated, gases, climate, air]
  obtain ⟨horder, hlist⟩ := hstation s
  have hlater : ∀ later ∈ [air], later.owner ≠ climate.owner := by decide
  have hnone : ∀ store ∈ [outdated, gases, climate, air], store.owner ≠ .bme68x := by decide
  have hother : gases.owner ≠ climate.owner := by decide
  have hreverse : s.stores.reverse.Perm s.stores := List.reverse_perm _
  exact ⟨hlater, hlast [outdated, gases] climate [air] rfl hlater, hnone,
    (habsent .bme68x hnone).trans rfl, hspare.trans rfl, hother, hcomm gases climate hother, hreverse,
    horder _ hreverse, hlist.trans (by decide +kernel)⟩

end Station

end AirStation
