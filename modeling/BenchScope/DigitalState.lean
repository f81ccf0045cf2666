import BenchScope.Channel

namespace BenchScope

/-! The levels of the digital outputs travel in one byte: the upper half says which outputs are to
be set, the lower half to which level. -/

def levelBits (output : Output) (high : Bool) : UInt8 :=
  output.mask ||| (if high then 1 <<< UInt8.ofNat output.index else 0)

/-- The byte for a list of channels and levels. The first channel that is no digital output is the
error. -/
def composeState : List (Channel × Bool) → Except Channel.Error UInt8
  | [] => .ok 0
  | (channel, high) :: rest => do
      let output ← channel.asOutput
      let others ← composeState rest
      return levelBits output high ||| others

example : composeState [(.logic .sq1, true), (.logic .sq3, false)] = .ok 0x51 := rfl

end BenchScope
