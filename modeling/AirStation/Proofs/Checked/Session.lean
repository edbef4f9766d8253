import AirStation.Config.Blob
import AirStation.Proofs.Checked.Station
import AirStation.Proofs.Station.Steps
import AirStation.Simulated.Bus

/-!
Sessions of the checked station. It serves requests until a check fails, and none ever does:
whatever the configuration, the bus and the requests, it goes through the same states as the station
and does the same on the bus (`no_check_fails`). One request keeps the two histories in agreement,
and so does every list of them.

Times are the one thing that is asked for. An instant is kept in 64 bits, and sums of an instant and
a duration have to be as well; a clock of 53 bits leaves more than enough room for that.
-/

namespace AirStation.Station.Checked

open AirStation.Checked CheckedM

/-- What a station can be asked for. A snapshot and a sample are made of what it remembers, so they
take no time and use no bus. -/
inductive Request where
  | call (call : Call)
  | snapshot
  | sample

namespace Request

def call? : Request → Option Call
  | .call c => some c
  | _ => none

def time? (r : Request) : Option Micros :=
  r.call?.bind (·.time?)

end Request

/-- How far a clock may have come, in microseconds: 2⁵³, after some 285 years. -/
def clockRange : Micros := 0x20000000000000

section Serve

variable (s : Station)

/-- A call with its time checked; the calls without a time have nothing to check. -/
def step : Call → CheckedM Station
  | .init now => do
    let now ← check (micros now)
    Prod.snd <$> init s now
  | .poll now => do
    let now ← check (micros now)
    poll s now
  | c => perform (s.step c)

theorem step_eq {c : Call} (htime : ∀ now ∈ c.time?, now < clockRange) :
    step s c = perform (s.step c) := by
  have hfits {now : Micros} (h : now ∈ c.time?) : micros now = .ok now :=
    micros_of_lt (Nat.lt_trans (htime now h) (by decide))
  cases c with
  | init now =>
    unfold step Station.step
    dsimp only
    rw [hfits rfl, check_ok, pure_bind, init_eq, perform_map]
  | poll now =>
    unfold step Station.step
    dsimp only
    rw [hfits rfl, check_ok, pure_bind, poll_eq]
  | baseline => rfl
  | restoreBaseline record => rfl

/-- A request to a station, with every check that answering it makes. -/
def serve : Request → CheckedM Station
  | .call c => step s c
  | .snapshot => do
    let _ ← check (snapshot s)
    return s
  | .sample => do
    let _ ← check (sample s)
    return s

end Serve

/-- After a failed check nothing is served any more, as a program that has stopped serves
nothing. -/
def attend (s : Checked Station) (r : Request) : SensorM (Checked Station) :=
  match s with
  | .error failure => return .error failure
  | .ok s => (serve s r).run

def history {β : Type} [Bus β] (config : Config) (bus : β) (requests : List Request) :
    History β Event (Checked Station) Request :=
  (History.start (ofConfig config) bus).play attend requests

section Agreement

variable {β : Type}

/-- No check has failed, and all calls came to the same: the same station, the same bus, and the
same actions in order. -/
structure Agrees (checked : History β Event (Checked Station) Request)
    (plain : History β Event Station Call) : Prop where
  state : checked.state = .ok plain.state
  bus : checked.bus = plain.bus
  actions : checked.past.flatMap (·.actions) = plain.past.flatMap (·.actions)

variable [Bus β] {checked : History β Event (Checked Station) Request}
  {plain : History β Event Station Call}

/-- A call keeps the agreement, as long as its time is within the range of the clock. -/
theorem Agrees.call (h : Agrees checked plain) {c : Call}
    (htime : ∀ now ∈ c.time?, now < clockRange) :
    Agrees (checked.call attend (.call c)) (plain.call Station.step c) := by
  have hrun : (attend checked.state (.call c)).run checked.bus =
      (Except.ok <$> plain.state.step c).run plain.bus := by
    rw [h.state, h.bus]
    show (step plain.state c).run.run _ = _
    rw [step_eq _ htime, run_perform]
  rw [BusM.run_map] at hrun
  constructor
  · simp [History.call, hrun]
  · simp [History.call, hrun]
  · simp [History.call, History.episode, hrun, h.actions]

/-- A request that only recalls does nothing on the bus, and the plain history goes on without
it. -/
theorem Agrees.recall (h : Agrees checked plain) {r : Request}
    (hserve : serve plain.state r = pure plain.state) :
    Agrees (checked.call attend r) plain := by
  have hrun : (attend checked.state r).run checked.bus = ⟨.ok plain.state, plain.bus, []⟩ := by
    rw [h.state, h.bus]
    show (serve plain.state r).run.run _ = _
    rw [hserve]
    rfl
  constructor
  · simp [History.call, hrun]
  · simp [History.call, hrun]
  · simp [History.call, History.episode, hrun, h.actions]

theorem Agrees.request (h : Agrees checked plain) {r : Request}
    (htime : ∀ now ∈ r.time?, now < clockRange) :
    Agrees (checked.call attend r) (plain.play Station.step r.call?.toList) := by
  cases r with
  | call c => exact h.call htime
  | snapshot => exact h.recall (by rw [serve, snapshot_eq]; rfl)
  | sample => exact h.recall (by rw [serve, sample_eq]; rfl)

theorem Agrees.play (h : Agrees checked plain) {requests : List Request}
    (htimes : ∀ r ∈ requests, ∀ now ∈ r.time?, now < clockRange) :
    Agrees (checked.play attend requests)
      (plain.play Station.step (requests.filterMap (·.call?))) := by
  induction requests generalizing checked plain with
  | nil => exact h
  | cons r rest ih =>
    have hfirst := h.request (htimes r List.mem_cons_self)
    have hrest := ih hfirst fun other hother => htimes other (List.mem_cons_of_mem _ hother)
    have hcalls : (r :: rest).filterMap (·.call?) =
        r.call?.toList ++ rest.filterMap (·.call?) := by
      rw [List.filterMap_cons]
      cases r.call? <;> rfl
    rw [hcalls, History.play_append]
    exact hrest

/-- Whatever the configuration is and whatever the bus does, no check ever fails. The tuning may
have its gas bounds in any order, and the heater its longest profile and durations. -/
theorem no_check_fails (config : Config) (bus : β) (requests : List Request)
    (htimes : ∀ r ∈ requests, ∀ now ∈ r.time?, now < clockRange) :
    Agrees (history config bus requests)
      (Station.history config bus (requests.filterMap (·.call?))) := by
  have hstart : Agrees (History.start (ofConfig config) bus)
      (History.start (Station.ofConfig config) bus) :=
    ⟨ofConfig_eq config, rfl, rfl⟩
  exact hstart.play htimes

end Agreement

/-- Ten steps of the longest duration, and a gas scale whose bounds are reversed. The reference
humidity is not even a number. -/
def extremeConfig : Config :=
  let heater : Bme68x.Heater := ⟨true, List.replicate 10 ⟨0xFFFF, 0xFFFF⟩, 0xFFFF, by decide⟩
  let settings : Bme68x.Settings :=
    { Bme68x.Settings.standard with mode := .parallel, heater := heater }
  { Config.standard with
    bme68x := ⟨true, 0x76, 0xFFFFFFFF, settings⟩
    tuning := ⟨⟨0x7FC00000⟩, 50000, 5000⟩ }

theorem no_check_fails_extreme :
    let bus : SimulatedBus := { SimulatedBus.empty with bme68x := some .standard }
    let requests : List Request :=
      [.sample, .call (.init 0), .call (.poll 4294967295000), .call (.poll 4295100000000),
        .snapshot, .sample, .call .baseline]
    Config.decode extremeConfig.toBlob = .ok extremeConfig ∧
      (∀ r ∈ requests, ∀ now ∈ r.time?, now < clockRange) ∧
      Agrees (history extremeConfig bus requests)
        (Station.history extremeConfig bus (requests.filterMap (·.call?))) := by
  intro bus requests
  have htimes : ∀ r ∈ requests, ∀ now ∈ r.time?, now < clockRange := by decide
  have hdecode : Config.decode extremeConfig.toBlob = .ok extremeConfig := by decide +kernel
  exact ⟨hdecode, htimes, no_check_fails extremeConfig bus requests htimes⟩

end AirStation.Station.Checked
