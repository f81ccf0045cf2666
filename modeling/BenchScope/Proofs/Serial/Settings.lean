import BenchScope.Proofs.Text.Decimal
import BenchScope.Serial.Settings

namespace BenchScope.Serial

/-! Which texts name serial settings. The grammar says what may stand where; a spelling is what it
leaves to the writer. Reading accepts exactly the texts of the grammar, and two texts name the same
settings exactly when they are two spellings of them. -/

namespace DataBits

def digit : DataBits → Char
  | .five => '5'
  | .six => '6'
  | .seven => '7'
  | .eight => '8'

theorem ofChar?_eq_some_iff {character : Char} {dataBits : DataBits} :
    ofChar? character = some dataBits ↔ character = dataBits.digit := by
  constructor
  · intro read
    unfold ofChar? at read
    split at read <;> cases read <;> rfl
  · rintro rfl
    cases dataBits <;> rfl

end DataBits

namespace Parity

def letter (capital : Bool) : Parity → Char
  | .none => if capital then 'N' else 'n'
  | .odd => if capital then 'O' else 'o'
  | .even => if capital then 'E' else 'e'

theorem ofChar?_eq_some_iff {character : Char} {parity : Parity} :
    ofChar? character = some parity ↔ ∃ capital, character = parity.letter capital := by
  constructor
  · intro read
    unfold ofChar? at read
    split at read <;> cases read
    all_goals first | exact ⟨false, rfl⟩ | exact ⟨true, rfl⟩
  · rintro ⟨capital, rfl⟩
    cases parity <;> cases capital <;> rfl

end Parity

namespace StopBits

def digit : StopBits → Char
  | .one => '1'
  | .two => '2'

theorem ofChar?_eq_some_iff {character : Char} {stopBits : StopBits} :
    ofChar? character = some stopBits ↔ character = stopBits.digit := by
  constructor
  · intro read
    unfold ofChar? at read
    split at read <;> cases read <;> rfl
  · rintro rfl
    cases stopBits <;> rfl

private theorem isBlank_digit (stopBits : StopBits) : isBlank stopBits.digit = false := by
  cases stopBits <;> decide

end StopBits

def sign (plus : Bool) : List Char := if plus then ['+'] else []

namespace Settings

def format (settings : Settings) (capital : Bool) : List Char :=
  [settings.dataBits.digit, settings.parity.letter capital, settings.stopBits.digit]

/-- The text names the settings: white space, a baud rate in decimal digits, a slash, the format,
and white space again. The baud rate is not zero, and as part of the settings it fits 32 bits. -/
inductive Named (settings : Settings) : List Char → Prop
  | intro {before digits after : List Char} (plus capital : Bool)
      (blankBefore : ∀ character ∈ before, isBlank character = true)
      (numeral : Numeral digits settings.baudRate.toNat)
      (positive : settings.baudRate ≠ 0)
      (blankAfter : ∀ character ∈ after, isBlank character = true) :
      Named settings
        (before ++ (sign plus ++ digits ++ '/' :: settings.format capital) ++ after)

/-! Reading the parts. -/

private theorem digitsValue?_eq_some_iff {text : List Char} {value : Nat} :
    digitsValue? text = some value ↔ Numeral text value := by
  cases text with
  | nil => exact ⟨nofun, fun numeral => absurd rfl numeral.nonempty⟩
  | cons first rest =>
      change (if (first :: rest).all Char.isDigit = true then
        some (Nat.ofDigitChars 10 (first :: rest) 0) else none) = some value ↔ _
      split
      case isTrue all =>
        rw [Option.some.injEq]
        exact ⟨fun read => ⟨nofun, List.all_eq_true.mp all, read⟩, fun numeral => numeral.value⟩
      case isFalse other =>
        exact ⟨nofun, fun numeral => absurd (List.all_eq_true.mpr numeral.digit) other⟩

def rateOf? (digits : List Char) : Option UInt32 :=
  match digitsValue? digits with
  | some value => if 0 < value ∧ value < 4294967296 then some (UInt32.ofNat value) else none
  | none => none

private theorem rateOf?_eq_some_iff {digits : List Char} {rate : UInt32} :
    rateOf? digits = some rate ↔ Numeral digits rate.toNat ∧ rate ≠ 0 := by
  have positive : rate ≠ 0 ↔ 0 < rate.toNat := by
    rw [Nat.pos_iff_ne_zero, ne_eq, ne_eq, ← UInt32.toNat_inj, UInt32.toNat_zero]
  rw [positive, ← digitsValue?_eq_some_iff, rateOf?]
  cases digitsValue? digits with
  | none => simp
  | some value =>
      have bound := rate.toNat_lt
      simp only [Option.some.injEq]
      constructor
      · intro read
        split at read <;> cases read
        case isTrue.refl range =>
          rw [UInt32.toNat_ofNat_of_lt' range.2]
          exact ⟨rfl, range.1⟩
      · rintro ⟨rfl, least⟩
        rw [if_pos ⟨least, bound⟩, UInt32.ofNat_toNat]

private theorem baudRate?_plus (digits : List Char) :
    baudRate? ('+' :: digits) = rateOf? digits := rfl

private theorem baudRate?_of_ne {text : List Char} (unsigned : ∀ rest, text ≠ '+' :: rest) :
    baudRate? text = rateOf? text := by
  rw [baudRate?]
  · rfl
  · exact unsigned

theorem baudRate?_eq_some_iff {text : List Char} {rate : UInt32} :
    baudRate? text = some rate ↔
      ∃ plus digits, text = sign plus ++ digits ∧ Numeral digits rate.toNat ∧ rate ≠ 0 := by
  constructor
  · intro read
    by_cases signed : ∃ rest, text = '+' :: rest
    · rcases signed with ⟨rest, rfl⟩
      rw [baudRate?_plus] at read
      exact ⟨true, rest, rfl, rateOf?_eq_some_iff.mp read⟩
    · rw [baudRate?_of_ne fun rest same => signed ⟨rest, same⟩] at read
      exact ⟨false, text, rfl, rateOf?_eq_some_iff.mp read⟩
  · rintro ⟨plus, digits, rfl, numeral⟩
    cases plus with
    | true => exact rateOf?_eq_some_iff.mpr numeral
    | false =>
        -- A plus sign is no digit.
        have unsigned (rest : List Char) : digits ≠ '+' :: rest := by
          rintro rfl
          exact absurd (numeral.1.digit '+' (List.mem_cons_self ..)) (by decide)
        exact (baudRate?_of_ne unsigned).trans (rateOf?_eq_some_iff.mpr numeral)

theorem splitAtSlash?_eq_some_iff {text front behind : List Char} :
    splitAtSlash? text = some (front, behind) ↔ '/' ∉ front ∧ text = front ++ '/' :: behind := by
  constructor
  · intro split
    rw [splitAtSlash?] at split
    cases found : text.dropWhile (· ≠ '/') with
    | nil =>
        rw [found] at split
        cases split
    | cons slash rest =>
        rw [found] at split
        cases split
        have stopped := List.head?_dropWhile_not (fun character => decide (character ≠ '/')) text
        rw [found] at stopped
        obtain rfl : slash = '/' := by simpa using stopped
        refine ⟨fun member => ?_, ?_⟩
        · simpa using List.all_eq_true.mp List.all_takeWhile _ member
        · rw [← found, List.takeWhile_append_dropWhile]
  · rintro ⟨unslashed, rfl⟩
    have passes : ∀ character ∈ front, decide (character ≠ '/') = true := fun character member =>
      decide_eq_true fun same => unslashed (same ▸ member)
    rw [splitAtSlash?, List.dropWhile_append_of_pos passes, List.takeWhile_append_of_pos passes]
    simp

/-! Reading the whole. -/

private theorem ofChars?_eq_some_iff_split {text : List Char} {settings : Settings} :
    ofChars? text = some settings ↔
      ∃ baud capital, splitAtSlash? (trim text) = some (baud, settings.format capital) ∧
        baudRate? baud = some settings.baudRate := by
  constructor
  · intro read
    simp only [ofChars?, Option.bind_eq_bind, Option.bind_eq_some_iff] at read
    rcases read with ⟨⟨baud, format⟩, cut, rate, rated, read⟩
    dsimp only at read
    split at read
    case h_2 => cases read
    case h_1 bits parity stop =>
      simp only [Option.bind_eq_some_iff, DataBits.ofChar?_eq_some_iff,
        Parity.ofChar?_eq_some_iff, StopBits.ofChar?_eq_some_iff] at read
      rcases read with ⟨_, rfl, _, ⟨capital, rfl⟩, _, rfl, made⟩
      cases made
      exact ⟨baud, capital, cut, rated⟩
  · rintro ⟨baud, capital, cut, rated⟩
    rw [ofChars?, cut]
    simp only [Option.bind_eq_bind, Option.bind_some, rated, format]
    rw [DataBits.ofChar?_eq_some_iff.mpr rfl, Parity.ofChar?_eq_some_iff.mpr ⟨capital, rfl⟩,
      StopBits.ofChar?_eq_some_iff.mpr rfl]
    rfl

private theorem trim_named {settings : Settings} {before digits after : List Char}
    (plus capital : Bool) (blankBefore : ∀ character ∈ before, isBlank character = true)
    (numeral : Numeral digits settings.baudRate.toNat)
    (blankAfter : ∀ character ∈ after, isBlank character = true) :
    trim (before ++ (sign plus ++ digits ++ '/' :: settings.format capital) ++ after) =
      sign plus ++ digits ++ '/' :: settings.format capital := by
  refine trim_surrounded blankBefore blankAfter ?_ fun character last => ?_
  · cases plus with
    | true => exact ⟨'+', _, rfl, by decide⟩
    | false =>
        rcases List.exists_cons_of_ne_nil numeral.nonempty with ⟨first, rest, rfl⟩
        exact ⟨first, _, rfl, isBlank_eq_false_of_isDigit (numeral.digit _ (List.mem_cons_self ..))⟩
  · obtain rfl : settings.stopBits.digit = character := by simpa [format] using last
    exact settings.stopBits.isBlank_digit

theorem ofChars?_eq_some_iff {text : List Char} {settings : Settings} :
    ofChars? text = some settings ↔ settings.Named text := by
  rw [ofChars?_eq_some_iff_split]
  constructor
  · rintro ⟨baud, capital, cut, rated⟩
    rcases baudRate?_eq_some_iff.mp rated with ⟨plus, digits, rfl, numeral, positive⟩
    rcases splitAtSlash?_eq_some_iff.mp cut with ⟨-, trimmed⟩
    rcases exists_surrounding text with ⟨before, after, whole, blankBefore, blankAfter⟩
    rw [whole, trimmed]
    exact .intro plus capital blankBefore numeral positive blankAfter
  · rintro ⟨plus, capital, blankBefore, numeral, positive, blankAfter⟩
    refine ⟨_, capital, ?_, baudRate?_eq_some_iff.mpr ⟨plus, _, rfl, numeral, positive⟩⟩
    rw [trim_named plus capital blankBefore numeral blankAfter]
    refine splitAtSlash?_eq_some_iff.mpr ⟨fun member => ?_, rfl⟩
    rcases List.mem_append.mp member with signed | decimal
    · cases plus <;> simp [sign] at signed
    · exact absurd (numeral.digit '/' decimal) (by decide)

theorem parse_eq_ok_iff {text : String} {settings : Settings} :
    parse text = .ok settings ↔ settings.Named text.toList := by
  rw [← ofChars?_eq_some_iff, parse]
  cases ofChars? text.toList <;> simp

theorem parse_eq_error_iff {text : String} {error : LinkError} :
    parse text = .error error ↔
      error = .settings text ∧ ∀ settings : Settings, ¬ settings.Named text.toList := by
  simp only [← ofChars?_eq_some_iff, parse]
  cases ofChars? text.toList <;> simp [eq_comm]

end Settings

/-! Writing settings. -/

structure Spelling where
  before : List Char
  plus : Bool
  zeros : Nat
  capital : Bool
  after : List Char
  blankBefore : ∀ character ∈ before, isBlank character = true
  blankAfter : ∀ character ∈ after, isBlank character = true

def Spelling.write (spelling : Spelling) (settings : Settings) : List Char :=
  spelling.before ++
    (sign spelling.plus ++
      (List.replicate spelling.zeros '0' ++ Nat.toDigits 10 settings.baudRate.toNat) ++
      '/' :: settings.format spelling.capital) ++
    spelling.after

namespace Settings

private theorem named_iff_write {settings : Settings} {text : List Char} :
    settings.Named text ↔
      settings.baudRate ≠ 0 ∧ ∃ spelling : Spelling, text = spelling.write settings := by
  constructor
  · rintro ⟨plus, capital, blankBefore, numeral, positive, blankAfter⟩
    have nonzero : settings.baudRate.toNat ≠ 0 := fun zero => positive (UInt32.toNat_inj.mp zero)
    rcases numeral.eq_toDigits nonzero with ⟨zeros, rfl⟩
    exact ⟨positive, ⟨_, plus, zeros, capital, _, blankBefore, blankAfter⟩, rfl⟩
  · rintro ⟨positive, spelling, rfl⟩
    exact .intro spelling.plus spelling.capital spelling.blankBefore
      (numeral_toDigits spelling.zeros _) positive spelling.blankAfter

/-- The texts of the grammar are read as the settings that they name, and any other text is refused
with the whole of it in the error. Settings are read back however they are written, unless their
baud rate is zero. Two texts that are read alike are two spellings of the same settings. -/
theorem parse_grammar :
    (∀ (text : String) (settings : Settings),
      parse text = .ok settings ↔ settings.Named text.toList) ∧
    (∀ (text : String) (error : LinkError), parse text = .error error ↔
      error = .settings text ∧ ∀ settings : Settings, ¬ settings.Named text.toList) ∧
    (∀ (settings : Settings) (spelling : Spelling),
      parse (String.ofList (spelling.write settings)) = .ok settings ↔ settings.baudRate ≠ 0) ∧
    ∀ left right : String,
      (∃ settings, parse left = .ok settings ∧ parse right = .ok settings) ↔
        ∃ (settings : Settings) (first second : Spelling), settings.baudRate ≠ 0 ∧
          left.toList = first.write settings ∧ right.toList = second.write settings := by
  refine ⟨fun _ _ => parse_eq_ok_iff, fun _ _ => parse_eq_error_iff, fun settings spelling => ?_,
    fun left right => ?_⟩
  · rw [parse_eq_ok_iff, named_iff_write, String.toList_ofList]
    exact ⟨fun written => written.1, fun positive => ⟨positive, spelling, rfl⟩⟩
  · simp only [parse_eq_ok_iff, named_iff_write]
    constructor
    · rintro ⟨settings, ⟨positive, first, writtenLeft⟩, -, second, writtenRight⟩
      exact ⟨settings, first, second, positive, writtenLeft, writtenRight⟩
    · rintro ⟨settings, first, second, positive, writtenLeft, writtenRight⟩
      exact ⟨settings, ⟨positive, first, writtenLeft⟩, positive, second, writtenRight⟩

end Settings

end BenchScope.Serial
