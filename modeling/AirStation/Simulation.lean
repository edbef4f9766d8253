import AirStation.Panel
import AirStation.Simulation.Log
import AirStation.Simulation.Options
import AirStation.Simulation.Weather
import AirStation.Station

/-!
A station on a simulated bus under simulated weather. The clock advances in ticks of 10 ms; the
weather changes once a second, and every five seconds the panel is shown. What a run says is a list
of outputs, in order.

A run has three parts: a start, in which the station is set up and an old baseline is written back,
the ticks, and an end, in which the baseline is read. All of it is a function of the options, so two
runs with the same options say the same.

Time passes from one tick to the next and nowhere else: a transaction takes none, and a pause is
recorded and not waited for. No two calls are ever under way at once, so contention for the bus and
calls that are cut off have no part here. Arithmetic does not stop a run either. A word that is too
small wraps, as the length of a run can (`endMillis`).
-/

namespace AirStation

/-- What a run has to say or to show. Most of it goes into the log, and only pictures go to standard
output. -/
inductive Output where
  | event (event : Event)
  | initFailed (error : SensorError)
  | savedIgnored (error : StorageError)
  | restoreFailed (error : SensorError)
  | started (options : Options)
  | sampled (seconds : Nat) (sample : Sample)
  | panelLine (line : String)
  | picture (canvas : Canvas)
  | baseline (record : BaselineRecord)
  | baselineFailed (error : SensorError)
  | transactions (count : Nat)

namespace Output

def flakyText : Option UInt8 → String
  | some address => s!", device 0x{Hex.byte address} flaky"
  | none => ""

def sampleText (sample : Sample) : String :=
  "[" ++ String.intercalate ", " (sample.toList.map Int.repr) ++ "]"

def info (message : String) : LogLine :=
  ⟨.info, LogLine.simulationTarget, message⟩

def warning (message : String) : LogLine :=
  ⟨.warn, LogLine.simulationTarget, message⟩

def log? : Output → Option LogLine
  | .event e => some (.ofEvent e)
  | .initFailed error => some (warning s!"Continuing without a sensor: {error.message}")
  | .savedIgnored error => some (warning s!"Ignoring saved baseline: {error.message}")
  | .restoreFailed error => some (warning s!"Baseline restore failed: {error.message}")
  | .started options =>
    some (info s!"Simulating {options.seconds} s in 10 ms ticks{flakyText options.flaky}")
  | .sampled seconds sample => some (info s!"t = {seconds} s, values {sampleText sample}")
  | .panelLine line => some (info s!"  {line}")
  | .picture _ => none
  | .baseline record => some (info s!"Baseline to persist: {Hex.list record.toBlob}")
  | .baselineFailed error => some (warning s!"Baseline read failed: {error.message}")
  | .transactions count => some (info s!"{count} I2C transactions")

/-- What goes to standard output. A picture is followed by an empty line. -/
def text : Output → List String
  | .picture canvas => canvas.halfBlocks ++ [""]
  | _ => []

end Output

/-- The station, its bus, and how far clock and weather have come. -/
structure Simulation where
  options : Options
  station : Station
  bus : SimulatedBus
  /-- Seconds of weather. -/
  weather : Float
  /-- Milliseconds on the clock. The clock is a 64-bit word that no run takes to its limit, since
  the end of a run is a multiple of eight milliseconds. -/
  now : Nat

namespace Simulation

def tickMillis : Nat := 10

def weatherMillis : Nat := 1000

def panelMillis : Nat := 5000

/-- The baseline that an earlier run has left, in the form in which it would be stored. -/
def savedBaseline : List UInt8 :=
  (BaselineRecord.ofBaseline 0x847B).toBlob

def fullBus : SimulatedBus :=
  { SimulatedBus.empty with
    htu21d := some .standard
    ccs811 := some .standard
    bme68x := some .standard }

def create (options : Options) : Simulation where
  options := options
  station := .ofConfig .standard
  bus := Weather.apply 0 fullBus
  weather := 0
  now := 0

/-- Lets the station do something on the bus, and collects what it reports. -/
def perform {α : Type} (s : Simulation) (step : Station → SensorM (α × Station)) :
    α × Simulation × List Output :=
  let run := (step s.station).run s.bus
  let (value, station) := run.value
  (value, { s with station, bus := run.bus }, run.events.map .event)

/-- Sets the station up. A sensor that fails is complained of, and the run goes on without it. -/
def setUp (s : Simulation) : Simulation × List Output :=
  match s.perform (·.init (.ofMillis s.now)) with
  | (.ok (), s, events) => (s, events)
  | (.error error, s, events) => (s, events ++ [.initFailed error])

/-- Writes the saved baseline back, if it can be read. -/
def restore (s : Simulation) : Simulation × List Output :=
  match BaselineRecord.decode savedBaseline with
  | .error error => (s, [.savedIgnored error])
  | .ok record =>
    match s.perform (·.restoreBaseline record) with
    | (.ok (), s, events) => (s, events)
    | (.error error, s, events) => (s, events ++ [.restoreFailed error])

/-- Everything before the first tick: the set-up, the old baseline, and a line that says what is
simulated. -/
def start (options : Options) : Simulation × List Output :=
  let (s, setUpOutputs) := (create options).setUp
  let (s, restoreOutputs) := s.restore
  (s, setUpOutputs ++ restoreOutputs ++ [.started options])

/-- The flaky device is silent in every second that leaves six when divided by seven. -/
def setFlaky (s : Simulation) : Simulation :=
  match s.options.flaky with
  | some address => { s with bus := s.bus.setOffline address (s.now / 1000 % 7 = 6) }
  | none => s

/-- Once a second there is new weather, and the flaky device comes or goes. -/
def changeWeather (s : Simulation) : Simulation :=
  if s.now % weatherMillis = 0 then
    let weather := s.weather + 1
    setFlaky { s with weather, bus := Weather.apply weather s.bus }
  else s

/-- One poll of the station. The instant that it is given is exact (`Micros.ofMillis`), also where
microseconds would no longer fit in a 64-bit word. -/
def poll (s : Simulation) : Simulation × List Output :=
  let (_, s, events) := s.perform fun station => do
    return ((), ← station.poll (.ofMillis s.now))
  (s, events)

/-- Every five seconds, but not at the start, the sample and the panel are shown. -/
def showPanel (s : Simulation) : List Output :=
  if 0 < s.now ∧ s.now % panelMillis = 0 then
    let panel := Panel.ofSnapshot s.station.snapshot ⟨0, 0⟩
    .sampled (s.now / 1000) s.station.sample :: panel.lines.map .panelLine ++
      [.picture (panel.draw .dark)]
  else []

/-- Weather, one poll, and the panel, all at the present time; then the clock moves on. -/
def tick (s : Simulation) : Simulation × List Output :=
  let (s, events) := s.changeWeather.poll
  ({ s with now := s.now + tickMillis }, events ++ s.showPanel)

/-- Reads the baseline for the next run. Without a CCS811 there is nothing to say. -/
def readBaseline (s : Simulation) : Simulation × List Output :=
  match s.perform (·.baseline) with
  | (.ok none, s, events) => (s, events)
  | (.ok (some record), s, events) => (s, events ++ [.baseline record])
  | (.error error, s, events) => (s, events ++ [.baselineFailed error])

/-- Everything after the last tick: the baseline, for the next run, and a count of all
transactions. -/
def finish (s : Simulation) : Simulation × List Output :=
  let (s, outputs) := s.readBaseline
  (s, outputs ++ [.transactions s.bus.transactions])

/-- The last millisecond in which a tick may begin. The product is one of 64-bit words: where it
does not fit it wraps, and the run stops long before the seconds that were asked for are over. -/
def endMillis (options : Options) : UInt64 :=
  options.seconds * 1000

/-- Ticks of a run; the first and the last millisecond both have one. -/
def tickCount (options : Options) : Nat :=
  (endMillis options).toNat / tickMillis + 1

/-- So many ticks, with what they say put behind what was said before. -/
def ticks : (count : Nat) → Simulation → Array Output → Simulation × Array Output
  | 0, s, outputs => (s, outputs)
  | count + 1, s, outputs =>
    let (s, more) := s.tick
    ticks count s (outputs ++ more.toArray)

/-- A whole run with everything it says, from the first set-up to the last word. -/
def run (options : Options) : Simulation × List Output :=
  let (s, before) := start options
  let (s, during) := ticks (tickCount options) s #[]
  let (s, after) := s.finish
  (s, before ++ during.toList ++ after)

end Simulation

end AirStation
