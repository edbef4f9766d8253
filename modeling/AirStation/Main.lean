import AirStation.Simulation

/-!
The command line of the simulation. Pictures go to standard output and log lines to standard error,
as far as the filter in the environment variable STATION_LOG lets them through.

This is the only part that has effects of its own. What it prints is a list of outputs that the
simulation has computed, and it goes through the ticks one by one only to print them as they come.
-/

namespace AirStation.CommandLine

def logFilter (setting : Option String) : LogFilter :=
  (setting.map LogFilter.parse).getD .standard

def emit (filter : LogFilter) (output : Output) : IO Unit := do
  for line in output.text do
    IO.println line
  if let some line := output.log? then
    if filter.allows line then
      IO.eprintln s!"[{line.level.text} {line.target}] {line.message}"

def run (arguments : List String) : IO UInt32 := do
  let filter := logFilter (← IO.getEnv "STATION_LOG")
  let options := Options.ofArguments arguments
  let (first, outputs) := Simulation.start options
  outputs.forM (emit filter)
  let mut simulation := first
  for _ in [0:Simulation.tickCount options] do
    let (next, outputs) := simulation.tick
    outputs.forM (emit filter)
    simulation := next
  simulation.finish.2.forM (emit filter)
  return 0

end AirStation.CommandLine

def main (arguments : List String) : IO UInt32 :=
  AirStation.CommandLine.run arguments
