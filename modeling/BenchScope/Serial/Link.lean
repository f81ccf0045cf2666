import BenchScope.Link.Basic
import BenchScope.Serial.Line
import BenchScope.Serial.Settings
import BenchScope.Text.Quoted

namespace BenchScope.Serial

/-! A serial line as a link. Each transfer is given the time that its bytes need at the settings of
the line. -/

structure Connection where
  line : Line
  settings : Settings

namespace Connection

/-- What a line has received before it is opened is no reply to anything, and is dropped. -/
def establish (line : Line) (settings : Settings) : Except LinkError Connection :=
  match line.clear with
  | (.ok (), line) => .ok { line, settings }
  | (.error error, _) => .error error

def read (count : Nat) (connection : Connection) : Outcome (List UInt8) × Connection :=
  let ((result, elapsed), line) :=
    connection.line.read (connection.settings.timeout count) count
  ({ result, elapsed }, { connection with line })

def write (bytes : List UInt8) (connection : Connection) : Outcome Nat × Connection :=
  let ((result, elapsed), line) :=
    connection.line.write (connection.settings.timeout bytes.length) bytes
  ({ result, elapsed }, { connection with line })

def bytesIn : List (Call (List UInt8)) → Nat
  | [] => 0
  | call :: rest =>
      match call.answer with
      | .moved bytes => bytes.length + bytesIn rest
      | .timedOut | .interrupted | .failed _ => bytesIn rest

def supply (connection : Connection) : Nat :=
  connection.line.received.length + bytesIn connection.line.incoming

instance : FiniteLink Connection where
  write := write
  read := read
  supply := supply

end Connection

def Settings.description (settings : Settings) : String :=
  s!"SerialSettings \x7b baud_rate: {settings.baudRate}, " ++
    s!"data_bits: {settings.dataBits.name}, parity: {settings.parity.name}, " ++
    s!"stop_bits: {settings.stopBits.name} \x7d"

def Connection.description (connection : Connection) : String :=
  s!"SerialLink \x7b port: Some({quoted connection.line.name}), " ++
    s!"settings: {connection.settings.description} \x7d"

end BenchScope.Serial
