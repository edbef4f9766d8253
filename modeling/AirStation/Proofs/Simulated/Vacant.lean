import AirStation.Proofs.Simulated.Furnished

/-!
An address of the simulated bus at which nothing is attached. Whatever is sent there is refused,
whether the address is offline or not, so a run does not depend on it (`Vacant.run`).

Being offline and having no device give the same error. The two lists of offline addresses are
therefore compared beside the address only, and all else, the counter and the pending failures
included, comes out the same.
-/

namespace AirStation.SimulatedBus

/-- No device answers at the address, neither the one that has it by design nor one that was put
there. -/
structure Vacant (b : SimulatedBus) (address : UInt8) : Prop where
  htu21d : address = 0x40 → b.htu21d = none
  ccs811 : ∀ m, b.ccs811 = some m → m.address ≠ address
  bme68x : ∀ m, b.bme68x = some m → m.address ≠ address

/-- The same addresses are offline, the given one apart, about which nothing is said. -/
def OfflineBeside (address : UInt8) (offline offline' : List UInt8) : Prop :=
  ∀ other, other ≠ address → offline'.contains other = offline.contains other

variable {ε α : Type} {b : SimulatedBus} {address : UInt8} {offline : List UInt8}

theorem Vacant.serve_eq (h : b.Vacant address) (transfer : Transfer) :
    b.serve address transfer = (.error .addressNack, b) := by
  have hccs : b.ccs811.filter (·.address == address) = none :=
    Option.filter_eq_none_iff.mpr fun m hm => by simpa using h.ccs811 m hm
  have hbme : b.bme68x.filter (·.address == address) = none :=
    Option.filter_eq_none_iff.mpr fun m hm => by simpa using h.bme68x m hm
  simp only [serve, htu21d_passes h.htu21d, hccs, hbme]

/-- Devices keep their addresses, so a vacant address stays vacant whatever is served. -/
theorem Vacant.serve (h : b.Vacant address) (target : UInt8) (transfer : Transfer) :
    (b.serve target transfer).2.Vacant address := by
  unfold SimulatedBus.serve
  split
  case h_1 m hm =>
    refine ⟨fun haddress => ?_, h.ccs811, h.bme68x⟩
    simp [h.htu21d haddress] at hm
  case h_2 =>
    split
    case h_1 m hm =>
      refine ⟨h.htu21d, ?_, h.bme68x⟩
      rintro _ ⟨rfl⟩ haddress
      have hsame := m.address_serve transfer
      exact h.ccs811 m (Option.filter_eq_some_iff.mp hm).1 (hsame.symm.trans haddress)
    case h_2 =>
      split
      case h_1 m hm =>
        refine ⟨h.htu21d, h.ccs811, ?_⟩
        rintro _ ⟨rfl⟩ haddress
        have hsame := m.address_serve transfer
        exact h.bme68x m (Option.filter_eq_some_iff.mp hm).1 (hsame.symm.trans haddress)
      case h_2 => exact h

theorem serve_offline (b : SimulatedBus) (offline : List UInt8) (target : UInt8)
    (transfer : Transfer) :
    ({ b with offline := offline } : SimulatedBus).serve target transfer =
      ((b.serve target transfer).1, { (b.serve target transfer).2 with offline := offline }) := by
  unfold serve
  dsimp only
  split
  · rfl
  · split
    · rfl
    · split <;> rfl

theorem Vacant.refuses (h : b.Vacant address) (hpending : ¬ b.pendingFailures.contains address)
    (transfer : Transfer) :
    Bus.transact b address transfer =
      (.error .addressNack, { b with transactions := b.transactions + 1 }) := by
  have hcounted : ({ b with transactions := b.transactions + 1 } : SimulatedBus).Vacant address :=
    ⟨h.htu21d, h.ccs811, h.bme68x⟩
  by_cases hoffline : b.offline.contains address
  · exact (if_neg hpending).trans (if_pos hoffline)
  · exact ((if_neg hpending).trans (if_neg hoffline)).trans (hcounted.serve_eq transfer)

theorem Vacant.transact (h : b.Vacant address) (hoffline : OfflineBeside address b.offline offline)
    (target : UInt8) (transfer : Transfer) :
    let answer := Bus.transact b target transfer
    Bus.transact ({ b with offline := offline } : SimulatedBus) target transfer =
        (answer.1, { answer.2 with offline := offline }) ∧
      answer.2.Vacant address ∧ answer.2.offline = b.offline := by
  intro answer
  let counted := { b with transactions := b.transactions + 1 }
  have hcounted : counted.Vacant address := ⟨h.htu21d, h.ccs811, h.bme68x⟩
  by_cases hpending : b.pendingFailures.contains target
  · have hanswer : answer = (.error .addressNack,
        { counted with pendingFailures := useFailure b.pendingFailures target }) := if_pos hpending
    rw [hanswer]
    exact ⟨if_pos hpending, ⟨h.htu21d, h.ccs811, h.bme68x⟩, rfl⟩
  by_cases htarget : target = address
  · subst htarget
    have hother : ({ b with offline := offline } : SimulatedBus).Vacant target :=
      ⟨h.htu21d, h.ccs811, h.bme68x⟩
    have hanswer : answer = (.error .addressNack, counted) := h.refuses hpending transfer
    rw [hanswer]
    exact ⟨hother.refuses hpending transfer, hcounted, rfl⟩
  have hsame := hoffline target htarget
  by_cases hsilent : b.offline.contains target
  · have hanswer : answer = (.error .addressNack, counted) :=
      (if_neg hpending).trans (if_pos hsilent)
    rw [hanswer]
    exact ⟨(if_neg hpending).trans (if_pos (hsame.trans hsilent)), hcounted, rfl⟩
  · have hanswer : answer = counted.serve target transfer :=
      (if_neg hpending).trans (if_neg hsilent)
    rw [hanswer]
    refine ⟨?_, hcounted.serve target transfer, (serve_keeps counted target transfer).2.1⟩
    have hserved : Bus.transact ({ b with offline := offline } : SimulatedBus) target transfer =
        ({ counted with offline := offline } : SimulatedBus).serve target transfer :=
      (if_neg hpending).trans (if_neg (hsame ▸ hsilent))
    rw [hserved, serve_offline]

/-- Whether the address is offline makes no difference to a run, except that it is still so
afterwards. -/
theorem Vacant.run (h : b.Vacant address) (hoffline : OfflineBeside address b.offline offline)
    (m : BusM ε α) :
    let run := m.run b
    m.run ({ b with offline := offline } : SimulatedBus) =
        { run with bus := { run.bus with offline := offline } } ∧
      run.bus.Vacant address ∧ run.bus.offline = b.offline := by
  induction m generalizing b with
  | done value => exact ⟨rfl, h, rfl⟩
  | exchange target transfer next ih =>
    obtain ⟨hanswer, hvacant, hkept⟩ := h.transact hoffline target transfer
    obtain ⟨hrun, hvacant, hkept'⟩ :=
      ih (Bus.transact b target transfer).1 hvacant (hkept ▸ hoffline)
    refine ⟨?_, hvacant, hkept'.trans hkept⟩
    simp only [BusM.run, hanswer, hrun]
  | pause milliseconds next ih =>
    obtain ⟨hrun, hafter⟩ := ih h hoffline
    refine ⟨?_, hafter⟩
    simp only [BusM.run, hrun]
  | report event next ih =>
    obtain ⟨hrun, hafter⟩ := ih h hoffline
    refine ⟨?_, hafter⟩
    simp only [BusM.run, hrun]

end AirStation.SimulatedBus
