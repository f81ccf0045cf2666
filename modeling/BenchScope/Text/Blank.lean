import BenchScope.Text.Ranges

namespace BenchScope

/-! White space in the sense of the Unicode property White_Space: twenty-five characters. -/

def blankRanges : List (Nat × Nat) :=
  [(0x09, 0x0D), (0x20, 0x20), (0x85, 0x85), (0xA0, 0xA0), (0x1680, 0x1680), (0x2000, 0x200A),
    (0x2028, 0x2029), (0x202F, 0x202F), (0x205F, 0x205F), (0x3000, 0x3000)]

example : (blankRanges.map fun range => range.2 + 1 - range.1).sum = 25 := by decide

def isBlank (character : Char) : Bool := inRanges blankRanges character

def trimStart (text : List Char) : List Char := text.dropWhile isBlank

def trimEnd (text : List Char) : List Char := (text.reverse.dropWhile isBlank).reverse

def trim (text : List Char) : List Char := trimEnd (trimStart text)

/-- What is left of the whole text does not end in white space, and the rest of it is white
space. -/
structure Trimmed (whole left : List Char) : Prop where
  blank : ∃ blanks, whole = left ++ blanks ∧ ∀ character ∈ blanks, isBlank character = true
  firm : ∀ character, left.getLast? = some character → isBlank character = false

theorem trimmed_trimEnd (text : List Char) : Trimmed text (trimEnd text) where
  blank := by
    refine ⟨(text.reverse.takeWhile isBlank).reverse, ?_, ?_⟩
    · rw [trimEnd, ← List.reverse_append, List.takeWhile_append_dropWhile, List.reverse_reverse]
    · simpa using List.all_eq_true.mp (List.all_takeWhile (p := isBlank) (l := text.reverse))
  firm character last := by
    rw [trimEnd, List.getLast?_reverse] at last
    simpa [last] using List.head?_dropWhile_not isBlank text.reverse

/-- A text that does not end in white space stays as it is in front of anything. -/
theorem trimEnd_append {text : List Char}
    (firm : ∀ character, text.getLast? = some character → isBlank character = false)
    (rest : List Char) : trimEnd (text ++ rest) = text ++ trimEnd rest := by
  rcases List.eq_nil_or_concat text with rfl | ⟨front, last, rfl⟩
  · rfl
  · have solid : isBlank last = false := firm last (by simp)
    rw [trimEnd, trimEnd, List.reverse_append, List.dropWhile_append]
    split
    case isTrue gone => simp [List.isEmpty_iff.mp gone, solid]
    case isFalse => simp

theorem prefix_trimEnd_iff {text : List Char}
    (firm : ∀ character, text.getLast? = some character → isBlank character = false)
    (whole : List Char) : text <+: trimEnd whole ↔ text <+: whole := by
  constructor
  · rcases (trimmed_trimEnd whole).blank with ⟨blanks, split, -⟩
    exact fun begins => begins.trans ⟨blanks, split.symm⟩
  · rintro ⟨rest, rfl⟩
    rw [trimEnd_append firm]
    exact List.prefix_append _ _

theorem trimEnd_of_blank {blanks : List Char}
    (blank : ∀ character ∈ blanks, isBlank character = true) : trimEnd blanks = [] := by
  have gone : blanks.reverse.dropWhile isBlank = [] := by
    rw [← List.append_nil blanks.reverse, List.dropWhile_append_of_pos fun character member =>
      blank character (List.mem_reverse.mp member)]
    rfl
  rw [trimEnd, gone]
  rfl

theorem trim_surrounded {before text after : List Char}
    (blankBefore : ∀ character ∈ before, isBlank character = true)
    (blankAfter : ∀ character ∈ after, isBlank character = true)
    (begins : ∃ character rest, text = character :: rest ∧ isBlank character = false)
    (ends : ∀ character, text.getLast? = some character → isBlank character = false) :
    trim (before ++ text ++ after) = text := by
  rcases begins with ⟨first, rest, rfl, firm⟩
  have started : trimStart (before ++ first :: rest ++ after) = first :: rest ++ after := by
    rw [trimStart, List.append_assoc, List.dropWhile_append_of_pos blankBefore, List.cons_append,
      List.dropWhile_cons_of_neg (by simp [firm])]
  rw [trim, started, trimEnd_append ends, trimEnd_of_blank blankAfter, List.append_nil]

theorem exists_surrounding (text : List Char) :
    ∃ before after, text = before ++ trim text ++ after ∧
      (∀ character ∈ before, isBlank character = true) ∧
      ∀ character ∈ after, isBlank character = true := by
  rcases (trimmed_trimEnd (trimStart text)).blank with ⟨after, split, blankAfter⟩
  refine ⟨text.takeWhile isBlank, after, ?_, ?_, blankAfter⟩
  · calc
      text = text.takeWhile isBlank ++ trimStart text := List.takeWhile_append_dropWhile.symm
      _ = text.takeWhile isBlank ++ trim text ++ after := by rw [List.append_assoc, trim, ← split]
  · exact List.all_eq_true.mp List.all_takeWhile

example : trim [' ', 'a', '\u2003', 'b', '\u0085'] = ['a', '\u2003', 'b'] := by decide

example : isBlank '\u200b' = false := by decide

end BenchScope
