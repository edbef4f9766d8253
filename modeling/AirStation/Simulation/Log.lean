import AirStation.Sensor.Event

/-!
Log lines and their filter. A line has a level, the target it comes from and a message. A filter is
a list of directives; the one with the longest matching target decides.

Targets are paths, and a directive for the front part of a path holds for everything below it. A
directive that cannot be read is left out, and a filter without any directive shows errors only.
-/

namespace AirStation

/-- One line of the log, before anything decides whether it is shown. -/
structure LogLine where
  level : Level
  target : String
  message : String
deriving DecidableEq, Repr

namespace LogLine

def sensorTarget : Sensor → String
  | .htu21d => "enviro_core::sensors::htu21d"
  | .ccs811 => "enviro_core::sensors::ccs811"
  | .bme68x => "enviro_core::sensors::bme68x"

def stationTarget : String := "enviro_core::sensors_state"

def simulationTarget : String := "enviro_simulator"

def ofEvent (e : Event) : LogLine where
  level := e.level
  target := (e.sensor?.map sensorTarget).getD stationTarget
  message := e.message

end LogLine

/-- How many levels get through, from the most severe one on. -/
abbrev Verbosity : Type := Nat

namespace Verbosity

def all : Verbosity := 5

def ofName? (name : String) : Option Verbosity :=
  ["off", "error", "warn", "info", "debug", "trace"].idxOf? name.toLower

def allows (v : Verbosity) (level : Level) : Bool :=
  level.rank < v

end Verbosity

/-- How much is shown of what comes from a target. -/
structure LogDirective where
  /-- Empty for every target. -/
  target : String
  verbosity : Verbosity
deriving DecidableEq, Repr

/-- A level alone applies to every target, a target alone shows everything from there. -/
def LogDirective.parse? (text : String) : Option LogDirective :=
  match text.splitOn "=" with
  | [name] =>
    match Verbosity.ofName? name with
    | some verbosity => some ⟨"", verbosity⟩
    | none => some ⟨name, .all⟩
  | [target, ""] => some ⟨target, .all⟩
  | [target, name] => (Verbosity.ofName? name).map (⟨target, ·⟩)
  | _ => none

structure LogFilter where
  directives : List LogDirective
deriving DecidableEq, Repr

namespace LogFilter

def standard : LogFilter :=
  ⟨[⟨"", 3⟩]⟩

/-- Directives with commas between them. Without any directive only errors are shown. -/
def parse (text : String) : LogFilter :=
  let parts := (text.splitOn ",").filter (· ≠ "")
  match parts.filterMap LogDirective.parse? with
  | [] => ⟨[⟨"", 1⟩]⟩
  | directives => ⟨directives⟩

/-- The directive with the longest matching target. The later of two equally long targets
decides. -/
def decisive? (f : LogFilter) (target : String) : Option LogDirective :=
  (f.directives.filter fun d => target.startsWith d.target).foldl (fun best d =>
    match best with
    | some b => if b.target.length ≤ d.target.length then some d else some b
    | none => some d) none

def allows (f : LogFilter) (line : LogLine) : Bool :=
  match f.decisive? line.target with
  | some d => d.verbosity.allows line.level
  | none => false

end LogFilter

end AirStation
