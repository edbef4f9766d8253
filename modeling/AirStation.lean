import AirStation.AirQuality
import AirStation.Baseline
import AirStation.Blob.Reader
import AirStation.Blob.Writer
import AirStation.Bme68x.Calibration
import AirStation.Bme68x.Configuration
import AirStation.Bme68x.Driver
import AirStation.Bme68x.Field
import AirStation.Bme68x.Heater
import AirStation.Bme68x.Model
import AirStation.Bme68x.Settings
import AirStation.Bus.Basic
import AirStation.Bus.Device
import AirStation.Bus.Program
import AirStation.Bus.Tap
import AirStation.Bus.Trace
import AirStation.Ccs811.Driver
import AirStation.Ccs811.Model
import AirStation.Ccs811.Reading
import AirStation.Config
import AirStation.Config.Blob
import AirStation.Htu21d.Driver
import AirStation.Htu21d.Model
import AirStation.Htu21d.Reading
import AirStation.Main
import AirStation.Panel
import AirStation.Panel.Canvas
import AirStation.Panel.Font
import AirStation.Panel.Line
import AirStation.Proofs.AirQuality.Score
import AirStation.Proofs.Baseline.Record
import AirStation.Proofs.Blob.Format
import AirStation.Proofs.Blob.Number
import AirStation.Proofs.Blob.Reading
import AirStation.Proofs.Blob.Writing
import AirStation.Proofs.Bme68x.Delivery
import AirStation.Proofs.Bme68x.FieldBytes
import AirStation.Proofs.Bme68x.Heating
import AirStation.Proofs.Bme68x.Image
import AirStation.Proofs.Bme68x.Learning
import AirStation.Proofs.Bme68x.Registers
import AirStation.Proofs.Bme68x.Slots
import AirStation.Proofs.Bme68x.Steps
import AirStation.Proofs.Bme68x.WaitCode
import AirStation.Proofs.Bme68x.WaitOrder
import AirStation.Proofs.Bus.History
import AirStation.Proofs.Bus.Outcome
import AirStation.Proofs.Bus.Split
import AirStation.Proofs.Bus.Timeline
import AirStation.Proofs.Ccs811.Delivery
import AirStation.Proofs.Ccs811.Device
import AirStation.Proofs.Ccs811.Pointer
import AirStation.Proofs.Ccs811.Steps
import AirStation.Proofs.Checked.Configuration
import AirStation.Proofs.Checked.Driver
import AirStation.Proofs.Checked.Field
import AirStation.Proofs.Checked.Operation
import AirStation.Proofs.Checked.Panel
import AirStation.Proofs.Checked.Sample
import AirStation.Proofs.Checked.Session
import AirStation.Proofs.Checked.Station
import AirStation.Proofs.Config.Decoding
import AirStation.Proofs.Config.Layout
import AirStation.Proofs.Config.RoundTrip
import AirStation.Proofs.Htu21d.Checksum
import AirStation.Proofs.Htu21d.Clock
import AirStation.Proofs.Htu21d.Device
import AirStation.Proofs.Htu21d.Handshake
import AirStation.Proofs.Htu21d.Pairing
import AirStation.Proofs.Htu21d.Steps
import AirStation.Proofs.Panel.Drawing
import AirStation.Proofs.Panel.Lines
import AirStation.Proofs.Panel.Text
import AirStation.Proofs.Sample.Stores
import AirStation.Proofs.Sensor.Drivers
import AirStation.Proofs.Sensor.FailedCycle
import AirStation.Proofs.Sensor.Memory
import AirStation.Proofs.Sensor.Polled
import AirStation.Proofs.Sensor.Progress
import AirStation.Proofs.Sensor.Punctual
import AirStation.Proofs.Sensor.Setup
import AirStation.Proofs.Sensor.Timing
import AirStation.Proofs.Simulated.Attached
import AirStation.Proofs.Simulated.Devices
import AirStation.Proofs.Simulated.Faults
import AirStation.Proofs.Simulated.Furnished
import AirStation.Proofs.Simulated.Outlook
import AirStation.Proofs.Simulated.Session
import AirStation.Proofs.Simulated.Vacant
import AirStation.Proofs.Simulation.Healthy
import AirStation.Proofs.Simulation.OnSchedule
import AirStation.Proofs.Simulation.Outages
import AirStation.Proofs.Simulation.Outputs
import AirStation.Proofs.Simulation.Schedule
import AirStation.Proofs.Simulation.Start
import AirStation.Proofs.Simulation.Ticks
import AirStation.Proofs.Simulation.Timetable
import AirStation.Proofs.Simulation.Unattached
import AirStation.Proofs.Single.Decimal
import AirStation.Proofs.Station.AirQuality
import AirStation.Proofs.Station.Baseline
import AirStation.Proofs.Station.Climate
import AirStation.Proofs.Station.HandOver
import AirStation.Proofs.Station.Isolation
import AirStation.Proofs.Station.Sampling
import AirStation.Proofs.Station.SetUp
import AirStation.Proofs.Station.Steps
import AirStation.Proofs.Station.Traffic
import AirStation.Sample
import AirStation.Sensor.Error
import AirStation.Sensor.Event
import AirStation.Sensor.Timer
import AirStation.Simulated.Bus
import AirStation.Simulated.Responder
import AirStation.Simulation
import AirStation.Simulation.Log
import AirStation.Simulation.Options
import AirStation.Simulation.Weather
import AirStation.Single.Basic
import AirStation.Single.Decimal
import AirStation.Snapshot
import AirStation.Station
import AirStation.Word
