import PinBridge.Baud.Divisor
import PinBridge.BitMode
import PinBridge.Chip
import PinBridge.Device
import PinBridge.Eeprom.Checksum
import PinBridge.Eeprom.Header
import PinBridge.Eeprom.Image
import PinBridge.Error
import PinBridge.Host.Bus
import PinBridge.Host.Device
import PinBridge.Host.Kernel
import PinBridge.Interface
import PinBridge.Main
import PinBridge.Note
import PinBridge.Packet
import PinBridge.Program
import PinBridge.Proofs.Baud.Accepted
import PinBridge.Proofs.Baud.Code
import PinBridge.Proofs.Baud.Eighths
import PinBridge.Proofs.Baud.Near
import PinBridge.Proofs.Baud.Nearest
import PinBridge.Proofs.Baud.Projection
import PinBridge.Proofs.Baud.Refusals
import PinBridge.Proofs.Baud.Search
import PinBridge.Proofs.Checked.Basic
import PinBridge.Proofs.Checked.Baud
import PinBridge.Proofs.Checked.Command
import PinBridge.Proofs.Checked.Eeprom
import PinBridge.Proofs.Checked.Serving
import PinBridge.Proofs.Checked.Transfer
import PinBridge.Proofs.Course
import PinBridge.Proofs.Eeprom.Checksum
import PinBridge.Proofs.Eeprom.Difference
import PinBridge.Proofs.Eeprom.Encoding
import PinBridge.Proofs.Eeprom.Image
import PinBridge.Proofs.Eeprom.Period
import PinBridge.Proofs.Eeprom.Verification
import PinBridge.Proofs.Host.PacketSize
import PinBridge.Proofs.Orderly
import PinBridge.Proofs.Packet
import PinBridge.Proofs.Play
import PinBridge.Proofs.Rule
import PinBridge.Proofs.Session.Acceptance
import PinBridge.Proofs.Session.Addressing
import PinBridge.Proofs.Session.Atomic
import PinBridge.Proofs.Session.BaudRate
import PinBridge.Proofs.Session.Change
import PinBridge.Proofs.Session.ChipId
import PinBridge.Proofs.Session.Course
import PinBridge.Proofs.Session.Footprint
import PinBridge.Proofs.Session.FullRead
import PinBridge.Proofs.Session.Lifecycle
import PinBridge.Proofs.Session.Lookup
import PinBridge.Proofs.Session.Memory
import PinBridge.Proofs.Session.Observers
import PinBridge.Proofs.Session.Opening
import PinBridge.Proofs.Session.Orderly
import PinBridge.Proofs.Session.Phases
import PinBridge.Proofs.Session.Receiving
import PinBridge.Proofs.Session.Refusal
import PinBridge.Proofs.Session.Run
import PinBridge.Proofs.Session.Serving
import PinBridge.Proofs.Session.SetUp
import PinBridge.Proofs.Session.SingleWords
import PinBridge.Proofs.Session.Staging
import PinBridge.Proofs.Session.Transfers
import PinBridge.Proofs.Session.Turn
import PinBridge.Proofs.Session.Unopened
import PinBridge.Proofs.Session.Words
import PinBridge.Proofs.Session.Writing
import PinBridge.Proofs.Simulator.Agreement
import PinBridge.Proofs.Simulator.Alongside
import PinBridge.Proofs.Simulator.Bus
import PinBridge.Proofs.Simulator.Calm
import PinBridge.Proofs.Simulator.Ending
import PinBridge.Proofs.Simulator.Fifo
import PinBridge.Proofs.Simulator.Independence
import PinBridge.Proofs.Simulator.Lookup
import PinBridge.Proofs.Simulator.Loopback
import PinBridge.Proofs.Simulator.Memory
import PinBridge.Proofs.Simulator.Pins
import PinBridge.Proofs.Simulator.Reach
import PinBridge.Proofs.Simulator.Receiving
import PinBridge.Proofs.Simulator.Selection
import PinBridge.Proofs.Simulator.Stretch
import PinBridge.Proofs.Stripping
import PinBridge.Proofs.Tour.Completion
import PinBridge.Proofs.Tour.Rows
import PinBridge.Proofs.Tour.Stations
import PinBridge.Proofs.Tour.Steps
import PinBridge.Proofs.Within
import PinBridge.Queue
import PinBridge.Script
import PinBridge.Session.Action
import PinBridge.Session.Basic
import PinBridge.Session.Command
import PinBridge.Session.Lifecycle
import PinBridge.Session.Lookup
import PinBridge.Session.Memory
import PinBridge.Session.Pins
import PinBridge.Session.Receive
import PinBridge.Session.Serial
import PinBridge.Session.Text
import PinBridge.Simulator.Board
import PinBridge.Simulator.Bus
import PinBridge.Text.Blank
import PinBridge.Text.CharRanges
import PinBridge.Text.Fields
import PinBridge.Text.Hex
import PinBridge.Text.Quoted
import PinBridge.Text.Span
import PinBridge.Text.Unprintable
import PinBridge.Text.Utf16
import PinBridge.Tour
import PinBridge.Version
