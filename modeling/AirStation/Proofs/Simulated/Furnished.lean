import AirStation.Bme68x.Driver
import AirStation.Ccs811.Driver
import AirStation.Htu21d.Driver
import AirStation.Proofs.Simulated.Devices

/-!
A bus with all three devices on it and no failure to come. A transaction to one of them is answered
unless its address is offline, and leaves the other two alone; which addresses are offline does not
change, and every attempt is counted (`Furnished.visit_htu21d` and its like).

A driver that stays at its address therefore finds the same bus as if its device were the only one.
Either all that it sends gets an answer of the device, or nothing does. Both cases are `Answers`,
with the flag that says which.
-/

namespace AirStation

variable {ε α σ : Type} [Responder σ]

/-- Everything that is sent gets an answer of the device, or nothing does, as `reached` says. -/
structure Answers (reached : Bool) (address : UInt8) (device : σ) (exchanges : List Exchange) :
    Prop where
  acknowledged : ∀ x ∈ exchanges, x.acknowledged = reached
  genuine : AllGenuine address device exchanges

theorem foldl_served_elsewhere {address : UInt8} {exchanges : List Exchange}
    (h : ∀ x ∈ exchanges, x.address ≠ address) (device : σ) :
    exchanges.foldl (served address) device = device := by
  induction exchanges with
  | nil => rfl
  | cons x rest ih =>
    obtain ⟨hx, hrest⟩ := List.forall_mem_cons.mp h
    rw [List.foldl_cons, served_elsewhere address device hx, ih hrest]

namespace Htu21d.Model

/-- The HTU21D is on the bus. At its address it is the first to be asked, so nothing stands in its
way. -/
def AnswersAt (b : SimulatedBus) (m : Model) : Prop :=
  b.htu21d = some m

variable {b : SimulatedBus} {m : Model}

theorem AnswersAt.serve_eq (h : AnswersAt b m) (transfer : Transfer) :
    b.serve address transfer =
      (.ok (Responder.serve m transfer).1,
        { b with htu21d := some (Responder.serve m transfer).2 }) := by
  have hhtu : b.htu21d.filter (fun _ => address == 0x40) = some m := by
    rw [show b.htu21d = some m from h]
    rfl
  simp only [SimulatedBus.serve, hhtu]

theorem AnswersAt.elsewhere (h : AnswersAt b m) {target : UInt8} (htarget : target ≠ address)
    (transfer : Transfer) : AnswersAt (b.serve target transfer).2 m := by
  have hpasses := SimulatedBus.htu21d_passes (b := b) fun haddress => absurd haddress htarget
  unfold SimulatedBus.serve
  rw [hpasses]
  dsimp only
  split
  · exact h
  · split <;> exact h

theorem seat : SimulatedBus.Seat address AnswersAt disturbed where
  sameDevices b b' m hb h := hb.htu21d.trans h
  serve b m transfer h := by
    rw [h.serve_eq]
    exact ⟨rfl, rfl⟩
  elsewhere b m target transfer htarget h := h.elsewhere htarget transfer
  disturb b m d h := congrArg (Option.map fun other => disturbed other d) h
  failNext _ _ := rfl
  setOffline _ _ _ := rfl

theorem wired : Wired address AnswersAt disturbed :=
  seat.wired

end Htu21d.Model

namespace SimulatedBus

def reaches (b : SimulatedBus) (address : UInt8) : Bool :=
  !b.offline.contains address

variable {b : SimulatedBus}

/-- While no failure is pending, a transaction is served exactly if its address is not offline. -/
theorem transact_calm (hcalm : b.pendingFailures = []) (address : UInt8) (transfer : Transfer) :
    Bus.transact b address transfer =
      if b.reaches address then
        { b with transactions := b.transactions + 1 }.serve address transfer
      else (.error .addressNack, { b with transactions := b.transactions + 1 }) := by
  have hnone : b.pendingFailures.contains address = false := by simp [hcalm]
  unfold reaches
  cases hoffline : b.offline.contains address with
  | true => exact (if_neg (Bool.eq_false_iff.mp hnone)).trans (if_pos hoffline)
  | false =>
    exact (if_neg (Bool.eq_false_iff.mp hnone)).trans (if_neg (Bool.eq_false_iff.mp hoffline))

/-- Serving a transaction is the business of the devices; neither failures nor offline addresses
change. -/
theorem serve_keeps (b : SimulatedBus) (address : UInt8) (transfer : Transfer) :
    (b.serve address transfer).2.pendingFailures = b.pendingFailures ∧
      (b.serve address transfer).2.offline = b.offline ∧
      (b.serve address transfer).2.transactions = b.transactions := by
  unfold serve
  split
  · exact ⟨rfl, rfl, rfl⟩
  · split
    · exact ⟨rfl, rfl, rfl⟩
    · split <;> exact ⟨rfl, rfl, rfl⟩

theorem transact_keeps (hcalm : b.pendingFailures = []) (address : UInt8) (transfer : Transfer) :
    (Bus.transact b address transfer).2.pendingFailures = [] ∧
      (Bus.transact b address transfer).2.offline = b.offline ∧
      (Bus.transact b address transfer).2.transactions = b.transactions + 1 := by
  rw [transact_calm hcalm]
  split
  · obtain ⟨hpending, hoffline, htransactions⟩ :=
      serve_keeps { b with transactions := b.transactions + 1 } address transfer
    exact ⟨hpending.trans hcalm, hoffline, htransactions⟩
  · exact ⟨hcalm, rfl, rfl⟩

theorem run_keeps (m : BusM ε α) (hcalm : b.pendingFailures = []) :
    (m.run b).bus.pendingFailures = [] ∧ (m.run b).bus.offline = b.offline ∧
      (m.run b).bus.transactions = b.transactions + (m.run b).exchanges.length := by
  induction m generalizing b with
  | done value => exact ⟨hcalm, rfl, rfl⟩
  | exchange address transfer next ih =>
    obtain ⟨hpending, hoffline, htransactions⟩ := transact_keeps hcalm address transfer
    obtain ⟨hpending', hoffline', htransactions'⟩ :=
      ih (Bus.transact b address transfer).1 hpending
    refine ⟨hpending', hoffline'.trans hoffline, htransactions'.trans ?_⟩
    rw [htransactions]
    exact Nat.add_right_comm _ _ _
  | pause milliseconds next ih => exact ih hcalm
  | report event next ih => exact ih hcalm

section Seats

variable {address : UInt8} {At : SimulatedBus → σ → Prop} {disturbed : σ → Disturbance → σ}
  {m : BusM ε α} {device : σ}

/-- A device that has its place on the bus acknowledges while its address is not offline, and never
otherwise. -/
theorem Seat.acknowledged (seat : Seat address At disturbed)
    (hm : m.Does (·.To (· = address))) (hcalm : b.pendingFailures = []) (hat : At b device) :
    ∀ x ∈ (m.run b).exchanges, x.acknowledged = b.reaches address := by
  induction m generalizing b device with
  | done value => exact List.forall_mem_nil _
  | exchange target transfer next ih =>
    obtain rfl : target = address := (hm (.error .bus)).1
    obtain ⟨hpending, hoffline, -⟩ := transact_keeps hcalm target transfer
    have hrest := ih (Bus.transact b target transfer).1 (hm _).2 hpending
      (seat.wired.transact b device target transfer hat).2
    have hreaches : (Bus.transact b target transfer).2.reaches target = b.reaches target := by
      rw [reaches, hoffline, reaches]
    refine List.forall_mem_cons.mpr ⟨?_, fun x hx => (hrest x hx).trans hreaches⟩
    show (Bus.transact b target transfer).1.toBool = b.reaches target
    rw [transact_calm hcalm]
    cases hreached : b.reaches target with
    | true =>
      have hcounted : b.SameDevices { b with transactions := b.transactions + 1 } :=
        ⟨rfl, rfl, rfl⟩
      have hanswer := (seat.serve _ device transfer (seat.sameDevices _ _ _ hcounted hat)).1
      rw [if_pos rfl, hanswer]
      rfl
    | false => rfl
  | pause milliseconds next ih => exact ih hm.2 hcalm hat
  | report event next ih => exact ih hm.2 hcalm hat

theorem Seat.answers (seat : Seat address At disturbed) (hm : m.Does (·.To (· = address)))
    (hcalm : b.pendingFailures = []) (hat : At b device) :
    Answers (b.reaches address) address device (m.run b).exchanges :=
  ⟨seat.acknowledged hm hcalm hat, (seat.wired.run m hat).1⟩

end Seats

/-- All three devices are on the bus, in these states, each at its standard address, and no failure
is pending. -/
structure Furnished (b : SimulatedBus) (htu : Htu21d.Model) (ccs : Ccs811.Model)
    (bme : Bme68x.Model) : Prop where
  htu21d : Htu21d.Model.AnswersAt b htu
  ccs811 : Ccs811.Model.AnswersAt Ccs811.standardAddress b ccs
  bme68x : Bme68x.Model.AnswersAt Bme68x.standardAddress b bme
  calm : b.pendingFailures = []

namespace Furnished

variable {htu : Htu21d.Model} {ccs : Ccs811.Model} {bme : Bme68x.Model} {m : BusM ε α}

/-- A run leads each device to where its own exchanges lead it; the devices that are not addressed
keep their state. -/
theorem run (h : b.Furnished htu ccs bme) (m : BusM ε α) :
    (m.run b).bus.Furnished
      ((m.run b).exchanges.foldl (served Htu21d.address) htu)
      ((m.run b).exchanges.foldl (served Ccs811.standardAddress) ccs)
      ((m.run b).exchanges.foldl (served Bme68x.standardAddress) bme) where
  htu21d := (Htu21d.Model.wired.run m h.htu21d).2
  ccs811 := ((Ccs811.Model.wired _).run m h.ccs811).2
  bme68x := ((Bme68x.Model.wired _).run m h.bme68x).2
  calm := (run_keeps m h.calm).1

theorem address_run {address : UInt8} (hm : m.Does (·.To (· = address))) (b : SimulatedBus) :
    ∀ x ∈ (m.run b).exchanges, x.address = address := fun _ hx =>
  ((BusM.does_iff_always _ m).mp hm).run b _ (Action.mem_exchanges.mp hx)

theorem elsewhere_run {address other : UInt8} (hm : m.Does (·.To (· = address)))
    (hother : address ≠ other) (b : SimulatedBus) (device : σ) :
    (m.run b).exchanges.foldl (served other) device = device :=
  foldl_served_elsewhere (fun x hx => by rwa [address_run hm b x hx]) device

theorem visit_htu21d (h : b.Furnished htu ccs bme) (hm : m.Does (·.To (· = Htu21d.address))) :
    let exchanges := (m.run b).exchanges
    Answers (b.reaches Htu21d.address) Htu21d.address htu exchanges ∧
      (m.run b).bus.Furnished (exchanges.foldl (served Htu21d.address) htu) ccs bme := by
  have hafter := h.run m
  rw [elsewhere_run hm (by decide) b ccs, elsewhere_run hm (by decide) b bme] at hafter
  exact ⟨Htu21d.Model.seat.answers hm h.calm h.htu21d, hafter⟩

theorem visit_ccs811 (h : b.Furnished htu ccs bme)
    (hm : m.Does (·.To (· = Ccs811.standardAddress))) :
    let exchanges := (m.run b).exchanges
    Answers (b.reaches Ccs811.standardAddress) Ccs811.standardAddress ccs exchanges ∧
      (m.run b).bus.Furnished htu (exchanges.foldl (served Ccs811.standardAddress) ccs) bme := by
  have hafter := h.run m
  rw [elsewhere_run hm (by decide) b htu, elsewhere_run hm (by decide) b bme] at hafter
  exact ⟨(Ccs811.Model.seat _).answers hm h.calm h.ccs811, hafter⟩

theorem visit_bme68x (h : b.Furnished htu ccs bme)
    (hm : m.Does (·.To (· = Bme68x.standardAddress))) :
    let exchanges := (m.run b).exchanges
    Answers (b.reaches Bme68x.standardAddress) Bme68x.standardAddress bme exchanges ∧
      (m.run b).bus.Furnished htu ccs
        (exchanges.foldl (served Bme68x.standardAddress) bme) := by
  have hafter := h.run m
  rw [elsewhere_run hm (by decide) b htu, elsewhere_run hm (by decide) b ccs] at hafter
  exact ⟨(Bme68x.Model.seat _).answers hm h.calm h.bme68x, hafter⟩

end Furnished

end SimulatedBus

end AirStation
