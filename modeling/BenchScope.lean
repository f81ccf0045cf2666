import BenchScope.Device.Description
import BenchScope.Device.Connect
import BenchScope.Capture.Run
import BenchScope.Link.Script
import BenchScope.Link.Traced
import BenchScope.Wire.Exchange
import BenchScope.Capture.Parameters
import BenchScope.Calibration
import BenchScope.DigitalState
import BenchScope.Number.Rational
import BenchScope.Text.Blank
import BenchScope.Text.Elapsed
import BenchScope.Text.Quoted
import BenchScope.Text.Utf8
import BenchScope.Waveform.Plan
import BenchScope.Proofs.Capture.Step
import BenchScope.Proofs.Capture.Course
import BenchScope.Proofs.Capture.Parameters
import BenchScope.Proofs.Offsets
import BenchScope.Proofs.Capture.Invariant
import BenchScope.Proofs.Capture.Consistency
import BenchScope.Proofs.Capture.Conversation
import BenchScope.Proofs.Capture.Delivery
import BenchScope.Proofs.Capture.Frames
import BenchScope.Proofs.Capture.Windows
import BenchScope.Proofs.Capture.Pairs
import BenchScope.Proofs.Device.Agreement
import BenchScope.Proofs.Capture.Readings
import BenchScope.Proofs.Capture.Abort
import BenchScope.Proofs.Device.Order
import BenchScope.Proofs.Device.Start
import BenchScope.Proofs.Device.Reuse
import BenchScope.Proofs.Capture.Faults
import BenchScope.Proofs.Waveform.HighTime
import BenchScope.Proofs.Capture.Termination
import BenchScope.Proofs.Capture.Deadline
import BenchScope.Proofs.Capture.Acceptance
import BenchScope.Proofs.Capture.TimingWord
import BenchScope.Proofs.Device.Gain
import BenchScope.Proofs.Capture.TriggerSource
import BenchScope.Proofs.Wire.Handshake
import BenchScope.Proofs.Waveform.Prescaling
import BenchScope.Proofs.Calibration
import BenchScope.Proofs.Waveform.Quantization
import BenchScope.Proofs.Device.Waves
import BenchScope.Proofs.Serial.Settings
import BenchScope.Proofs.Wire.Transactions
import BenchScope.Proofs.DigitalState
import BenchScope.Proofs.Device.Levels
import BenchScope.Proofs.Device.Probe
import BenchScope.Proofs.Wire.Roundtrip
import BenchScope.Proofs.Waveform.Encoding
import BenchScope.Proofs.Placement
import BenchScope.Proofs.Serial.Transfers
import BenchScope.Proofs.Serial.Timeouts
import BenchScope.Proofs.Capture.Separation
import BenchScope.Proofs.Table
import BenchScope.Proofs.Device.Tables
