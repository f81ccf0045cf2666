import BenchScope.Number.Shortest

namespace BenchScope

/-! The text of a double. Which digits are written is settled by `Binary.shortest`; a style settles
how they are laid out. -/

structure NumberStyle where
  /-- The powers of ten of the leading digit that are written without an exponent; all of them when
  there is no range. -/
  positional : Option (Int × Int)
  pointZero : Bool

namespace NumberStyle

def zeros (count : Nat) : String := String.ofList (List.replicate count '0')

def positionalText (style : NumberStyle) (digits : List Char) (exponent : Int) : String :=
  if 0 ≤ exponent then
    String.ofList digits ++ zeros exponent.toNat ++ (if style.pointZero then ".0" else "")
  else
    let places := (-exponent).toNat
    if places < digits.length then
      let whole := digits.length - places
      String.ofList (digits.take whole) ++ "." ++ String.ofList (digits.drop whole)
    else
      "0." ++ zeros (places - digits.length) ++ String.ofList digits

def exponentText (digits : List Char) (leading : Int) : String :=
  let mantissa := match digits with
    | [] => ""
    | [digit] => digit.toString
    | digit :: rest => digit.toString ++ "." ++ String.ofList rest
  mantissa ++ "e" ++ toString leading

def decimalText (style : NumberStyle) (decimal : Decimal) : String :=
  let digits := Nat.toDigits 10 decimal.digits
  let leading := decimal.exponent + digits.length - 1
  match style.positional with
  | none => style.positionalText digits decimal.exponent
  | some (first, last) =>
      if decimal.digits = 0 ∨ (first ≤ leading ∧ leading ≤ last) then
        style.positionalText digits decimal.exponent
      else exponentText digits leading

def text (style : NumberStyle) (value : Float) : String :=
  if value.isNaN then "NaN"
  else
    let fields := Binary.ofFloat value
    let sign := if fields.negative then "-" else ""
    sign ++ (if value.isInf then "inf" else style.decimalText fields.shortest)

def wholeText (value : Float) : String :=
  if value.isNaN then "NaN"
  else
    let fields := Binary.ofFloat value
    let sign := if fields.negative then "-" else ""
    sign ++ (if value.isInf then "inf" else toString (fields.nearestWhole .toEven))

end NumberStyle

def NumberStyle.message : NumberStyle where
  positional := none
  pointZero := false

/-- Numbers in descriptions of a device show that they are not whole numbers by kind, and have an
exponent from 10 ^ 16 on and below 10 ^ -4. -/
def NumberStyle.description : NumberStyle where
  positional := some (-4, 15)
  pointZero := true

example : NumberStyle.message.text 1e21 = "1000000000000000000000" := by decide +kernel
example : NumberStyle.message.text 0.1 = "0.1" := by decide +kernel
example : NumberStyle.description.text 100000.0 = "100000.0" := by decide +kernel
example : NumberStyle.description.text 1e16 = "1e16" := by decide +kernel
example : NumberStyle.description.text 1.5e-5 = "1.5e-5" := by decide +kernel
example : NumberStyle.wholeText 7812.5 = "7812" := by decide +kernel

end BenchScope
