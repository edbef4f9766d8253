import AirStation.Proofs.Bus.Outcome
import AirStation.Proofs.Bus.Timeline
import AirStation.Simulated.Responder

/-!
A device on a bus, followed through the traffic. It serves what is acknowledged at its address and
knows nothing of the rest, so its state after a run is a function of the exchanges of that run
(`Port.run`). What a driver does to its device is thus read off the list of its outcomes.

Nothing is said here about faults, or about which of several devices a bus asks first. A bus only
has to say when it has the device at the address (`Port`), and then an exchange that is acknowledged
carries the device's own answer.
-/

namespace AirStation

variable {σ : Type} [Responder σ]

/-- What is left of the device after an exchange somewhere on the bus: one that it serves if the
exchange was acknowledged at its address, and the same device otherwise. -/
def served (address : UInt8) (device : σ) (e : Exchange) : σ :=
  if e.address = address ∧ e.acknowledged then (Responder.serve device e.transfer).2 else device

/-- Bytes that come back from the address are those that the device sends. An exchange that failed
is genuine as it is. -/
def Genuine (address : UInt8) (device : σ) (e : Exchange) : Prop :=
  e.address = address → ∀ bytes, e.response = .ok bytes →
    bytes = (Responder.serve device e.transfer).1

/-- Each exchange is genuine for the device as the earlier ones have left it. -/
def AllGenuine (address : UInt8) (device : σ) (exchanges : List Exchange) : Prop :=
  Throughout (fun before => Genuine address (before.foldl (served address) device)) exchanges

section Exchanges

variable (address : UInt8) (device : σ)

@[simp] theorem served_wrote (bytes : List UInt8) :
    served address device (.wrote address bytes) = Responder.receive device bytes :=
  if_pos ⟨rfl, rfl⟩

@[simp] theorem served_received {count : Nat} (bytes : Vector UInt8 count) :
    served address device (.received address bytes) = (Responder.answer device count).2 :=
  if_pos ⟨rfl, rfl⟩

@[simp] theorem served_fetched (register : UInt8) {count : Nat} (bytes : Vector UInt8 count) :
    served address device (.fetched address register bytes) =
      (Responder.answer (Responder.receive device [register]) count).2 :=
  if_pos ⟨rfl, rfl⟩

@[simp] theorem served_failed (target : UInt8) (transfer : Transfer) (fault : Fault) :
    served address device (.failed target transfer fault) = device :=
  if_neg fun h => Bool.noConfusion h.2

theorem served_elsewhere {e : Exchange} (he : e.address ≠ address) :
    served address device e = device :=
  if_neg fun h => he h.1

@[simp] theorem genuine_wrote (target : UInt8) (bytes : List UInt8) :
    Genuine address device (.wrote target bytes) :=
  fun _ _ _ => Vector.eq_empty.trans Vector.eq_empty.symm

@[simp] theorem genuine_failed (target : UInt8) (transfer : Transfer) (fault : Fault) :
    Genuine address device (.failed target transfer fault) :=
  fun _ _ hbytes => nomatch hbytes

@[simp] theorem genuine_received {count : Nat} (bytes : Vector UInt8 count) :
    Genuine address device (.received address bytes) ↔
      bytes = (Responder.answer device count).1 := by
  constructor
  · intro h
    exact h rfl bytes rfl
  · rintro rfl - bytes hbytes
    exact (Except.ok.inj hbytes).symm

@[simp] theorem genuine_fetched (register : UInt8) {count : Nat} (bytes : Vector UInt8 count) :
    Genuine address device (.fetched address register bytes) ↔
      bytes = (Responder.answer (Responder.receive device [register]) count).1 := by
  constructor
  · intro h
    exact h rfl bytes rfl
  · rintro rfl - bytes hbytes
    exact (Except.ok.inj hbytes).symm

@[simp] theorem allGenuine_nil : AllGenuine address device [] :=
  throughout_nil _

@[simp] theorem allGenuine_cons (e : Exchange) (rest : List Exchange) :
    AllGenuine address device (e :: rest) ↔
      Genuine address device e ∧ AllGenuine address (served address device e) rest :=
  throughout_cons _ e rest

end Exchanges

section Quantities

variable {ε γ : Type} {address : UInt8} {quantity : σ → γ}

/-- An exchange leaves a quantity of the device as it is, whatever state the device is in. Pauses
and reports do not reach the device. -/
def Action.Keeps (address : UInt8) (quantity : σ → γ) : Action ε → Prop
  | .exchanged e => ∀ device, quantity (served address device e) = quantity device
  | _ => True

@[simp] theorem Action.keeps_paused (milliseconds : Nat) :
    (.paused milliseconds : Action ε).Keeps address quantity :=
  trivial

@[simp] theorem Action.keeps_reported (event : ε) :
    (.reported event : Action ε).Keeps address quantity :=
  trivial

@[simp] theorem Action.keeps_exchanged (e : Exchange) :
    (.exchanged e : Action ε).Keeps address quantity ↔
      ∀ device, quantity (served address device e) = quantity device :=
  Iff.rfl

theorem Action.keeps_of_serve {e : Exchange}
    (h : ∀ device : σ, quantity (Responder.serve device e.transfer).2 = quantity device) :
    (.exchanged e : Action ε).Keeps address quantity := by
  intro device
  unfold served
  split
  · exact h device
  · rfl

theorem Action.To.keeps {action : Action ε} (h : action.To (· ≠ address)) :
    action.Keeps address quantity := by
  cases action with
  | exchanged e =>
    intro device
    rw [served_elsewhere address device h]
  | paused | reported => trivial

theorem foldl_served_eq {actions : List (Action ε)}
    (h : ∀ action ∈ actions, action.Keeps address quantity) (device : σ) :
    quantity ((actions.filterMap Action.exchange?).foldl (served address) device) =
      quantity device := by
  induction actions generalizing device with
  | nil => rfl
  | cons action rest ih =>
    obtain ⟨haction, hrest⟩ := List.forall_mem_cons.mp h
    cases action with
    | exchanged e => exact (ih hrest (served address device e)).trans (haction device)
    | paused | reported => exact ih hrest device

/-- What is kept throughout stands behind every genuine answer: the device that gave it had the
quantity that it has at the start. -/
theorem AllGenuine.of_mem {actions : List (Action ε)}
    (hkeeps : ∀ action ∈ actions, action.Keeps address quantity) {device : σ}
    (h : AllGenuine address device (actions.filterMap Action.exchange?)) {e : Exchange}
    (he : .exchanged e ∈ actions) :
    ∃ device', quantity device' = quantity device ∧ Genuine address device' e := by
  obtain ⟨before, after, rfl⟩ := List.append_of_mem he
  rw [List.filterMap_append, Action.exchanges_exchanged] at h
  refine ⟨_, foldl_served_eq (fun action haction => hkeeps action ?_) device, h _ e _ rfl⟩
  exact List.mem_append_left _ haction

end Quantities

variable {β ε α : Type} [Bus β]

/-- The bus has the device at the address when `At` says so, whatever it makes of a transaction. Its
answers from there are genuine, and the device has served what was acknowledged. -/
structure Port (address : UInt8) (At : β → σ → Prop) : Prop where
  transact : ∀ bus device target transfer, At bus device →
    let answer := Bus.transact bus target transfer
    Genuine address device ⟨target, transfer, answer.1⟩ ∧
      At answer.2 (served address device ⟨target, transfer, answer.1⟩)

/-- The exchanges of a run are genuine, and they lead the device to where the run leaves it. -/
theorem Port.run {address : UInt8} {At : β → σ → Prop} (port : Port address At)
    (m : BusM ε α) {bus : β} {device : σ} (h : At bus device) :
    AllGenuine address device (m.run bus).exchanges ∧
      At (m.run bus).bus ((m.run bus).exchanges.foldl (served address) device) := by
  induction m generalizing bus device with
  | done value => exact ⟨allGenuine_nil address device, h⟩
  | exchange target transfer next ih =>
    obtain ⟨hgenuine, hafter⟩ := port.transact bus device target transfer h
    obtain ⟨hrest, hend⟩ := ih _ hafter
    exact ⟨(allGenuine_cons address device _ _).mpr ⟨hgenuine, hrest⟩, hend⟩
  | pause milliseconds next ih => exact ih h
  | report event next ih => exact ih h

end AirStation
