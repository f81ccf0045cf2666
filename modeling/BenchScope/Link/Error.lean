namespace BenchScope

/-! What can go wrong on the way to the device. The reasons are the words of the line itself. -/

inductive LinkError
  | line (reason : String)
  | transfer (reason : String)
  | settings (text : String)
deriving DecidableEq, Repr

def LinkError.message : LinkError → String
  | .line reason => s!"Serial port error: {reason}"
  | .transfer reason => s!"IO error: {reason}"
  | .settings text => s!"Invalid serial settings '{text}', expected e.g. \"1000000/8n1\""

end BenchScope
