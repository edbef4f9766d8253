import AirStation.Proofs.Simulated.Session

/-!
Which device answers at an address of the simulated bus. `AnswersAt` says that it is the CCS811, or
the BME68x, in a given state. No transaction and no disturbance puts another in its place, so each
of the two is wired to its address (`Ccs811.Model.wired`, `Bme68x.Model.wired`).

The bus asks its devices in a fixed order, and two of them may have been given one address. So
answering takes more than being there: the ones that are asked before must not be at the address.
Faults are left to `Seat.wired`, which is proved once for all devices.
-/

namespace AirStation

theorem get_answerBytes (bytes : List UInt8) {count : Nat} (i : Fin count) :
    (answerBytes bytes count).get i = bytes[i.val]?.getD 0 := by
  show (answerBytes bytes count)[i.val] = _
  rw [answerBytes, Vector.getElem_ofFn]

namespace SimulatedBus

/-- The same devices in the same states. Injected failures and offline addresses may differ. -/
structure SameDevices (b b' : SimulatedBus) : Prop where
  htu21d : b'.htu21d = b.htu21d
  ccs811 : b'.ccs811 = b.ccs811
  bme68x : b'.bme68x = b.bme68x

theorem sameDevices_failNext (b : SimulatedBus) (address : UInt8) :
    b.SameDevices (b.failNext address) := by
  unfold failNext
  split <;> exact ⟨rfl, rfl, rfl⟩

theorem sameDevices_setOffline (b : SimulatedBus) (address : UInt8) (offline : Bool) :
    b.SameDevices (b.setOffline address offline) := by
  unfold setOffline
  dsimp only
  split <;> exact ⟨rfl, rfl, rfl⟩

/-- A transaction is refused before any device sees it, or it is served. In both cases the
bookkeeping of faults has left the devices as they were. -/
theorem transact_cases (b : SimulatedBus) (address : UInt8) (transfer : Transfer) :
    ∃ b', b.SameDevices b' ∧
      (Bus.transact b address transfer = (.error .addressNack, b') ∨
        Bus.transact b address transfer = b'.serve address transfer) := by
  let counted := { b with transactions := b.transactions + 1 }
  by_cases hpending : b.pendingFailures.contains address
  · refine ⟨{ counted with pendingFailures := useFailure b.pendingFailures address },
      ⟨rfl, rfl, rfl⟩, .inl (if_pos hpending)⟩
  · by_cases hoffline : b.offline.contains address
    · exact ⟨counted, ⟨rfl, rfl, rfl⟩, .inl ((if_neg hpending).trans (if_pos hoffline))⟩
    · exact ⟨counted, ⟨rfl, rfl, rfl⟩, .inr ((if_neg hpending).trans (if_neg hoffline))⟩

/-- A place on the bus, said without its faults: which device serves there, and what becomes of it
when it serves, when others do, and when something is measured. -/
structure Seat {δ : Type} [Responder δ] (address : UInt8) (At : SimulatedBus → δ → Prop)
    (disturbed : δ → Disturbance → δ) : Prop where
  sameDevices : ∀ b b' device, b.SameDevices b' → At b device → At b' device
  serve : ∀ b device transfer, At b device →
    (b.serve address transfer).1 = .ok (Responder.serve device transfer).1 ∧
      At (b.serve address transfer).2 (Responder.serve device transfer).2
  elsewhere : ∀ b device target transfer, target ≠ address → At b device →
    At (b.serve target transfer).2 device
  disturb : ∀ b device d, At b device → At (b.disturbDevices d) (disturbed device d)
  failNext : ∀ device target, disturbed device (.failNext target) = device
  setOffline : ∀ device target offline, disturbed device (.setOffline target offline) = device

/-- A device with a place is wired to its address: faults only decide whether it is asked. -/
theorem Seat.wired {δ : Type} [Responder δ] {address : UInt8} {At : SimulatedBus → δ → Prop}
    {disturbed : δ → Disturbance → δ} (seat : Seat address At disturbed) :
    Wired address At disturbed where
  transact bus device target transfer h := by
    obtain ⟨b', hdevices, hrefused | hserved⟩ := bus.transact_cases target transfer
    · rw [hrefused]
      have hafter : At b' device := seat.sameDevices bus b' device hdevices h
      refine ⟨genuine_failed address device target transfer .addressNack, ?_⟩
      rwa [← served_failed address device target transfer .addressNack] at hafter
    · have h' : At b' device := seat.sameDevices bus b' device hdevices h
      dsimp only
      rw [hserved]
      by_cases htarget : target = address
      · subst htarget
        obtain ⟨hanswer, hafter⟩ := seat.serve b' device transfer h'
        rw [hanswer]
        refine ⟨fun _ bytes hbytes => (Except.ok.inj hbytes).symm, ?_⟩
        have hserves : served target device
            ⟨target, transfer, .ok (Responder.serve device transfer).1⟩ =
              (Responder.serve device transfer).2 := if_pos ⟨rfl, rfl⟩
        rwa [hserves]
      · refine ⟨fun haddress => absurd haddress htarget, ?_⟩
        rw [served_elsewhere _ _ htarget]
        exact seat.elsewhere b' device target transfer htarget h'
  disturb bus device d h := by
    cases d with
    | failNext target =>
      rw [seat.failNext]
      exact seat.sameDevices bus _ device (bus.sameDevices_failNext target) h
    | setOffline target offline =>
      rw [seat.setOffline]
      exact seat.sameDevices bus _ device (bus.sameDevices_setOffline target offline) h
    | setTemperature | setHumidity | setCorrupt | publish | raiseError | stage =>
      exact seat.disturb bus device _ h

variable {address : UInt8} {b : SimulatedBus}

/-- An HTU21D that is not there, or is not addressed, leaves the transaction to others. -/
theorem htu21d_passes (h : address = 0x40 → b.htu21d = none) :
    b.htu21d.filter (fun _ => address == 0x40) = none := by
  by_cases haddress : address = 0x40
  · rw [h haddress]
    rfl
  · have hother : (address == 0x40) = false := beq_eq_false_iff_ne.mpr haddress
    cases b.htu21d <;> simp [hother]

end SimulatedBus

namespace Ccs811.Model

theorem address_store (m : Model) (register : UInt8) (payload : List UInt8) :
    (m.store register payload).address = m.address := by
  unfold store
  split <;> rfl

theorem address_receive (m : Model) (bytes : List UInt8) :
    (Responder.receive m bytes).address = m.address := by
  cases bytes with
  | nil => rfl
  | cons register payload => exact address_store _ _ _

theorem address_answer (m : Model) (count : Nat) :
    (Responder.answer m count).2.address = m.address := by
  simp only [Responder.answer]
  split <;> rfl

theorem address_serve (m : Model) (transfer : Transfer) :
    (Responder.serve m transfer).2.address = m.address := by
  cases transfer with
  | write bytes => exact m.address_receive bytes
  | read count => exact m.address_answer count
  | writeRead bytes count => exact (address_answer _ count).trans (m.address_receive bytes)

theorem address_disturbed (m : Model) (d : Disturbance) :
    (m.disturbed d).address = m.address := by
  cases d <;> rfl

/-- The device that answers at the address is the CCS811, in this state. The HTU21D is asked before
it and must not be at the same address. -/
structure AnswersAt (address : UInt8) (b : SimulatedBus) (m : Model) : Prop where
  present : b.ccs811 = some m
  address_eq : m.address = address
  htu21d : address = 0x40 → b.htu21d = none

variable {address : UInt8} {b : SimulatedBus} {m : Model}

theorem AnswersAt.serve_eq (h : AnswersAt address b m) (transfer : Transfer) :
    b.serve address transfer =
      (.ok (Responder.serve m transfer).1,
        { b with ccs811 := some (Responder.serve m transfer).2 }) := by
  have hccs : b.ccs811.filter (·.address == address) = some m := by
    simp [h.present, h.address_eq]
  simp only [SimulatedBus.serve, SimulatedBus.htu21d_passes h.htu21d, hccs]

/-- What goes to another address is served by another device, if by any. -/
theorem AnswersAt.elsewhere (h : AnswersAt address b m) {target : UInt8}
    (htarget : target ≠ address) (transfer : Transfer) :
    AnswersAt address (b.serve target transfer).2 m := by
  have hccs : b.ccs811.filter (·.address == target) = none := by
    simp [h.present, h.address_eq, htarget.symm]
  unfold SimulatedBus.serve
  split
  case h_1 model hhtu =>
    refine ⟨h.present, h.address_eq, fun haddress => ?_⟩
    simp [h.htu21d haddress] at hhtu
  case h_2 =>
    rw [hccs]
    dsimp only
    split
    · exact ⟨h.present, h.address_eq, h.htu21d⟩
    · exact h

theorem seat (address : UInt8) :
    SimulatedBus.Seat address (AnswersAt address) disturbed where
  sameDevices b b' m hb h :=
    ⟨hb.ccs811.trans h.present, h.address_eq, fun haddress =>
      hb.htu21d.trans (h.htu21d haddress)⟩
  serve b m transfer h := by
    rw [h.serve_eq]
    exact ⟨rfl, rfl, (m.address_serve transfer).trans h.address_eq, h.htu21d⟩
  elsewhere b m target transfer htarget h := h.elsewhere htarget transfer
  disturb b m d h :=
    { present := by simp [SimulatedBus.disturbDevices, h.present]
      address_eq := (m.address_disturbed d).trans h.address_eq
      htu21d := fun haddress => by simp [SimulatedBus.disturbDevices, h.htu21d haddress] }
  failNext _ _ := rfl
  setOffline _ _ _ := rfl

theorem wired (address : UInt8) : Wired address (AnswersAt address) disturbed :=
  (seat address).wired

/-- A bus with nothing else on it. -/
def lone (m : Model) : SimulatedBus :=
  { SimulatedBus.empty with ccs811 := some m }

theorem answersAt_lone (m : Model) : AnswersAt m.address m.lone m :=
  ⟨rfl, rfl, fun _ => rfl⟩

end Ccs811.Model

namespace Bme68x.Model

theorem address_setRegister (m : Model) (register value : UInt8) :
    (m.setRegister register value).address = m.address :=
  rfl

theorem address_reset (m : Model) : m.reset.address = m.address := by
  simp only [reset]

theorem address_measure (m : Model) (mode : UInt8) : (m.measure mode).address = m.address := by
  simp only [measure]
  split <;> simp only [setRegister]

theorem address_writeRegister (m : Model) (register value : UInt8) :
    (m.writeRegister register value).address = m.address := by
  unfold writeRegister
  split
  · exact m.address_reset
  · split
    · exact address_measure _ _
    · exact m.address_setRegister register value

theorem address_writePairs (m : Model) (bytes : List UInt8) :
    (m.writePairs bytes).address = m.address := by
  induction m, bytes using writePairs.induct with
  | case1 m register value rest ih =>
    rw [writePairs]
    exact ih.trans (m.address_writeRegister register value)
  | case2 m bytes h =>
    rw [writePairs]
    exact h

theorem address_receive (m : Model) (bytes : List UInt8) :
    (m.receive bytes).address = m.address := by
  unfold receive
  split
  · rfl
  · exact m.address_writePairs bytes

theorem address_serve (m : Model) (transfer : Transfer) :
    (Responder.serve m transfer).2.address = m.address := by
  cases transfer with
  | write bytes => exact m.address_receive bytes
  | read count => rfl
  | writeRead bytes count => exact m.address_receive bytes

theorem address_disturbed (m : Model) (d : Disturbance) :
    (m.disturbed d).address = m.address := by
  cases d <;> rfl

/-- The device that answers at the address is the BME68x, which is the last one to be asked. -/
structure AnswersAt (address : UInt8) (b : SimulatedBus) (m : Model) : Prop where
  present : b.bme68x = some m
  address_eq : m.address = address
  htu21d : address = 0x40 → b.htu21d = none
  ccs811 : ∀ other, b.ccs811 = some other → other.address ≠ address

variable {address : UInt8} {b : SimulatedBus} {m : Model}

theorem AnswersAt.serve_eq (h : AnswersAt address b m) (transfer : Transfer) :
    b.serve address transfer =
      (.ok (Responder.serve m transfer).1,
        { b with bme68x := some (Responder.serve m transfer).2 }) := by
  have hccs : b.ccs811.filter (·.address == address) = none := by
    cases hother : b.ccs811 with
    | none => rfl
    | some other => simp [h.ccs811 other hother]
  have hbme : b.bme68x.filter (·.address == address) = some m := by
    simp [h.present, h.address_eq]
  simp only [SimulatedBus.serve, SimulatedBus.htu21d_passes h.htu21d, hccs, hbme]

theorem AnswersAt.elsewhere (h : AnswersAt address b m) {target : UInt8}
    (htarget : target ≠ address) (transfer : Transfer) :
    AnswersAt address (b.serve target transfer).2 m := by
  have hbme : b.bme68x.filter (·.address == target) = none := by
    simp [h.present, h.address_eq, htarget.symm]
  unfold SimulatedBus.serve
  split
  case h_1 model hhtu =>
    refine ⟨h.present, h.address_eq, fun haddress => ?_, h.ccs811⟩
    simp [h.htu21d haddress] at hhtu
  case h_2 =>
    split
    case h_1 other hother =>
      refine ⟨h.present, h.address_eq, h.htu21d, ?_⟩
      rintro _ ⟨rfl⟩ haddress
      have hsame := Ccs811.Model.address_serve other transfer
      exact h.ccs811 other (Option.filter_eq_some_iff.mp hother).1 (hsame.symm.trans haddress)
    case h_2 =>
      rw [hbme]
      exact h

theorem seat (address : UInt8) :
    SimulatedBus.Seat address (AnswersAt address) disturbed where
  sameDevices b b' m hb h :=
    ⟨hb.bme68x.trans h.present, h.address_eq,
      fun haddress => hb.htu21d.trans (h.htu21d haddress),
      fun other hother => h.ccs811 other (hb.ccs811.symm.trans hother)⟩
  serve b m transfer h := by
    rw [h.serve_eq]
    exact ⟨rfl, rfl, (m.address_serve transfer).trans h.address_eq, h.htu21d, h.ccs811⟩
  elsewhere b m target transfer htarget h := h.elsewhere htarget transfer
  disturb b m d h :=
    { present := by simp [SimulatedBus.disturbDevices, h.present]
      address_eq := (m.address_disturbed d).trans h.address_eq
      htu21d := fun haddress => by simp [SimulatedBus.disturbDevices, h.htu21d haddress]
      ccs811 := fun other hother => by
        obtain ⟨before, hbefore, rfl⟩ := Option.map_eq_some_iff.mp hother
        rw [Ccs811.Model.address_disturbed]
        exact h.ccs811 before hbefore }
  failNext _ _ := rfl
  setOffline _ _ _ := rfl

theorem wired (address : UInt8) : Wired address (AnswersAt address) disturbed :=
  (seat address).wired

/-- A bus with nothing else on it. -/
def lone (m : Model) : SimulatedBus :=
  { SimulatedBus.empty with bme68x := some m }

theorem answersAt_lone (m : Model) : AnswersAt m.address m.lone m :=
  ⟨rfl, rfl, fun _ => rfl, fun _ h => nomatch h⟩

end Bme68x.Model

end AirStation
