import BenchScope.Text.Hidden

namespace BenchScope

/-! A text in quotation marks, as descriptions of a device show it. Hidden characters are written by
their code point. -/

def codePoint (character : Char) : List Char :=
  ['\\', 'u', '\x7b'] ++ Nat.toDigits 16 character.toNat ++ ['\x7d']

def quotedCharacter (character : Char) : List Char :=
  if character = '"' ∨ character = '\\' then ['\\', character]
  else if character = '\t' then ['\\', 't']
  else if character = '\r' then ['\\', 'r']
  else if character = '\n' then ['\\', 'n']
  else if character.toNat = 0 then ['\\', '0']
  else if isHidden character then codePoint character
  else [character]

def quoted (text : String) : String :=
  String.ofList ('"' :: text.toList.flatMap quotedCharacter ++ ['"'])

example : quoted "é\t\"\x07'" = "\"é\\t\\\"\\u\x7b7\x7d'\"" := by decide +kernel

end BenchScope
