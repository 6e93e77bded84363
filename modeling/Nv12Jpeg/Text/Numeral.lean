/-!
# Numbers in texts

Numbers as they are written in arguments: decimal digits, any number of zeros in front, and a sign
where one is allowed. Blanks around them, the characters of the Unicode property of white space,
may have to be trimmed off first.

* `Blank.isBlank_of_isWhitespace`: the white space of ASCII is blank;
* `Blank.trim_eq_self`: a text without a blank at either end is its own trimmed form;
* `Decimal.digits?_toDigits`: the digits of a number are read as that number;
* `Decimal.natural?_digits` and `Decimal.natural?_plus`: a plus sign in front changes nothing.
-/

namespace Nv12Jpeg

namespace Blank

/-- Whether a character is white space. -/
def isBlank (c : Char) : Bool :=
  let n := c.toNat
  (9 ≤ n && n ≤ 13) || n == 0x20 || n == 0x85 || n == 0xa0 || n == 0x1680
    || (0x2000 ≤ n && n ≤ 0x200a) || n == 0x2028 || n == 0x2029 || n == 0x202f || n == 0x205f
    || n == 0x3000

/-- A text without the blanks at its end. -/
def trimEnd (text : List Char) : List Char :=
  (text.reverse.dropWhile isBlank).reverse

/-- A text without the blanks at its two ends. -/
def trim (text : List Char) : List Char :=
  trimEnd (text.dropWhile isBlank)

theorem isBlank_of_isWhitespace {c : Char} (h : c.isWhitespace) : isBlank c := by
  simp only [Char.isWhitespace, Bool.or_eq_true, decide_eq_true_eq] at h
  rcases h with ((rfl | rfl) | rfl) | rfl <;> rfl

theorem dropWhile_eq_self {text : List Char} (h : ∀ c ∈ text.head?, isBlank c = false) :
    text.dropWhile isBlank = text := by
  cases text with
  | nil => rfl
  | cons c rest => simp [h c (by simp)]

theorem trim_eq_self {text : List Char} (first : ∀ c ∈ text.head?, isBlank c = false)
    (last : ∀ c ∈ text.getLast?, isBlank c = false) : trim text = text := by
  rw [trim, dropWhile_eq_self first, trimEnd,
    dropWhile_eq_self (by simpa [List.head?_reverse] using last), List.reverse_reverse]

end Blank

namespace Decimal

/-- The number that decimal digits write; there has to be one digit at least. -/
def digits? (text : List Char) : Option Nat :=
  if text ≠ [] ∧ text.all Char.isDigit then some (Nat.ofDigitChars 10 text 0) else none

/-- The natural number that a text writes, perhaps with a plus sign in front. -/
def natural? : (text : List Char) → Option Nat
  | '+' :: text => digits? text
  | text => digits? text

/-- The integer that a text writes, perhaps with a sign in front. -/
def integer? : (text : List Char) → Option Int
  | '-' :: text => (digits? text).map fun n => -(n : Int)
  | text => (natural? text).map Int.ofNat

@[simp] theorem digits?_nil : digits? [] = none := rfl

theorem digits?_toDigits (n : Nat) : digits? (Nat.toDigits 10 n) = some n := by
  have digits : (Nat.toDigits 10 n).all Char.isDigit := by
    simpa using fun c h => Nat.isDigit_of_mem_toDigits (by decide) (by decide) h
  simp [digits?, digits, Nat.ofDigitChars_toDigits]

@[simp] theorem natural?_plus (text : List Char) : natural? ('+' :: text) = digits? text := rfl

theorem natural?_digits {text : List Char} (h : text.head? ≠ some '+') :
    natural? text = digits? text := by
  unfold natural?
  split
  · simp at h
  · rfl

end Decimal

end Nv12Jpeg
