import Mathlib.Data.List.Induction
import Mathlib.Data.List.TakeWhile
import Mathlib.Tactic.IntervalCases
import Nv12Jpeg.CommandLine.PictureSize

/-!
# What is read as a picture size

The grammar of picture sizes, as relations between texts and numbers, and the reader beside it.

* `Decimal.Numeral` — digits and the number they write; `Decimal.digits?_eq_some` says that exactly
  these are read;
* `PictureSize.WritesSide` and `PictureSize.Writes` — a side of a picture, and both with a separator
  between them;
* `PictureSize.reads_what_is_written` — exactly what is written so is read, as the numbers that are
  written; of any other text the part that is wrong is named.
-/

namespace Nv12Jpeg

/-! ## Numerals -/

namespace Decimal

/-- Digits and the number that they write: one digit more makes ten times as much of what is in
front of it, and adds its own value. -/
inductive Numeral : List Char → Nat → Prop
  | one {d : Nat} (digit : d < 10) : Numeral [d.digitChar] d
  | more {text : List Char} {n d : Nat} (front : Numeral text n) (digit : d < 10) :
      Numeral (text ++ [d.digitChar]) (10 * n + d)

variable {text : List Char} {n : Nat}

theorem exists_digitChar_eq {c : Char} (digit : c.isDigit = true) : ∃ d < 10, c = d.digitChar := by
  rw [Char.isDigit, Bool.and_eq_true, decide_eq_true_eq, decide_eq_true_eq, ge_iff_le,
    UInt32.le_iff_toNat_le, UInt32.le_iff_toNat_le] at digit
  have low : 48 ≤ c.toNat := digit.1
  have high : c.toNat ≤ 57 := digit.2
  refine ⟨c.toNat - 48, by omega, Char.toNat_inj.1 ?_⟩
  rw [Nat.toNat_digitChar_of_lt_ten (by omega)]
  omega

/-- Digits are read up to the last one, and then this one. -/
theorem digits?_concat {d : Nat} (some_before : text ≠ []) (digit : d < 10) :
    digits? (text ++ [d.digitChar]) = (digits? text).map (10 * · + d) := by
  have last : d.digitChar.isDigit = true := Nat.isDigit_digitChar.trans (decide_eq_true digit)
  have value : ∀ init, Nat.ofDigitChars 10 [d.digitChar] init = 10 * init + d := fun init =>
    Nat.ofDigitChars_cons_digitChar_of_lt_ten digit
  by_cases all : text.all Char.isDigit = true
  · simp [digits?, some_before, all, last, Nat.ofDigitChars_append, value]
  · simp [digits?, all]

/-- Exactly numerals are read, as the numbers that they write. -/
theorem digits?_eq_some : digits? text = some n ↔ Numeral text n := by
  constructor
  · intro read
    induction text using List.reverseRecOn generalizing n with
    | nil => cases read
    | append_singleton text c ih =>
      have digit : c.isDigit = true := by
        by_contra other
        simp [digits?, other] at read
      obtain ⟨d, below, rfl⟩ := exists_digitChar_eq digit
      by_cases alone : text = []
      · subst alone
        obtain rfl : d = n := by
          simpa [digits?, digit, Nat.ofDigitChars_cons_digitChar_of_lt_ten below] using read
        exact .one below
      · rw [digits?_concat alone below] at read
        obtain ⟨_, front, rfl⟩ := Option.map_eq_some_iff.1 read
        exact .more (ih front) below
  · intro numeral
    induction numeral with
    | @one d below =>
      have digit : d.digitChar.isDigit = true := Nat.isDigit_digitChar.trans (decide_eq_true below)
      simp [digits?, digit, Nat.ofDigitChars_cons_digitChar_of_lt_ten below]
    | more _ below ih =>
      have some_before : ∀ {text}, digits? text ≠ none → text ≠ [] := by
        rintro _ read rfl
        exact read rfl
      rw [digits?_concat (some_before (by simp [ih])) below, ih]
      rfl

/-- Each character of a numeral is a digit. -/
theorem Numeral.digit_of_mem (numeral : Numeral text n) {c : Char} (mem : c ∈ text) :
    ∃ d < 10, c = d.digitChar := by
  induction numeral with
  | one below => exact ⟨_, below, List.mem_singleton.1 mem⟩
  | more _ below ih =>
    rcases List.mem_append.1 mem with mem | mem
    · exact ih mem
    · exact ⟨_, below, List.mem_singleton.1 mem⟩

/-- A natural number is read from a numeral, perhaps with a plus sign in front. -/
theorem natural?_eq_some :
    natural? text = some n ↔ Numeral text n ∨ ∃ rest, text = '+' :: rest ∧ Numeral rest n := by
  have unsigned : ∀ {rest}, ¬ Numeral ('+' :: rest) n := by
    intro rest numeral
    obtain ⟨d, below, same⟩ := numeral.digit_of_mem List.mem_cons_self
    interval_cases d <;> cases same
  by_cases sign : text.head? = some '+'
  · obtain ⟨rest, rfl⟩ := List.head?_eq_some_iff.1 sign
    rw [natural?_plus, digits?_eq_some]
    constructor
    · exact fun numeral => .inr ⟨rest, rfl, numeral⟩
    · rintro (numeral | ⟨_, ⟨⟩, numeral⟩)
      · exact absurd numeral unsigned
      · exact numeral
  · rw [natural?_digits sign, digits?_eq_some]
    constructor
    · exact .inl
    · rintro (numeral | ⟨_, rfl, _⟩)
      · exact numeral
      · exact absurd rfl sign

end Decimal

/-! ## Texts with blanks around them -/

namespace Blank

/-- What trimming takes away is blank. -/
theorem exists_trim (text : List Char) : ∃ before after, text = before ++ trim text ++ after ∧
    (∀ c ∈ before, isBlank c = true) ∧ ∀ c ∈ after, isBlank c = true := by
  have ends : ∀ rest : List Char, rest
      = trimEnd rest ++ (rest.reverse.takeWhile isBlank).reverse := by
    intro rest
    rw [trimEnd, ← List.reverse_append, List.takeWhile_append_dropWhile, List.reverse_reverse]
  refine ⟨text.takeWhile isBlank, ((text.dropWhile isBlank).reverse.takeWhile isBlank).reverse,
    ?_, fun c mem => List.mem_takeWhile_imp mem,
    fun c mem => List.mem_takeWhile_imp (List.mem_reverse.1 mem)⟩
  rw [trim, List.append_assoc, ← ends, List.takeWhile_append_dropWhile]

/-- Around a text without blanks all blanks are taken away. -/
theorem trim_append {before inner after : List Char} (leading : ∀ c ∈ before, isBlank c = true)
    (trailing : ∀ c ∈ after, isBlank c = true) (plain : ∀ c ∈ inner, isBlank c = false)
    (some_inner : inner ≠ []) : trim (before ++ inner ++ after) = inner := by
  obtain ⟨first, rest, rfl⟩ := List.exists_cons_of_ne_nil some_inner
  have front : (before ++ (first :: rest) ++ after).dropWhile isBlank
      = first :: rest ++ after := by
    rw [List.append_assoc, List.dropWhile_append_of_pos leading, List.cons_append,
      List.dropWhile_cons_of_neg (by simp [plain first List.mem_cons_self])]
  have back : ((first :: rest ++ after).reverse).dropWhile isBlank = (first :: rest).reverse := by
    rw [List.reverse_append, List.dropWhile_append_of_pos fun c mem =>
      trailing c (List.mem_reverse.1 mem)]
    refine dropWhile_eq_self fun c mem => plain c (List.mem_reverse.1 ?_)
    exact List.mem_of_mem_head? mem
  rw [trim, front, trimEnd, back, List.reverse_reverse]

end Blank

/-! ## Sizes -/

namespace CommandLine.PictureSize

/-- A text and the side that it writes: a number from 1 to 65535, perhaps with a plus sign in front,
and blanks around it. -/
inductive WritesSide : List Char → Nat → Prop
  | intro {before sign digits after : List Char} {n : Nat}
      (leading : ∀ c ∈ before, Blank.isBlank c = true)
      (trailing : ∀ c ∈ after, Blank.isBlank c = true)
      (signed : sign = [] ∨ sign = ['+'])
      (numeral : Decimal.Numeral digits n)
      (least : 1 ≤ n) (most : n ≤ 65535) :
      WritesSide (before ++ (sign ++ digits) ++ after) n

/-- A text and the size that it writes: two sides, with the first separator of the text between
them. -/
inductive Writes : List Char → Nat → Nat → Prop
  | intro {front back : List Char} {separator : Char} {width height : Nat}
      (separates : separator = 'x' ∨ separator = 'X')
      (first : 'x' ∉ front ∧ 'X' ∉ front)
      (wide : WritesSide front width) (high : WritesSide back height) :
      Writes (front ++ separator :: back) width height

variable {text part : List Char}

/-- There is no blank in a number with its sign. -/
theorem plain_of_signed {sign digits : List Char} {n : Nat} (signed : sign = [] ∨ sign = ['+'])
    (numeral : Decimal.Numeral digits n) : ∀ c ∈ sign ++ digits, Blank.isBlank c = false := by
  intro c mem
  rcases List.mem_append.1 mem with mem | mem
  · rcases signed with rfl | rfl
    · cases mem
    · obtain rfl := List.mem_singleton.1 mem
      rfl
  · obtain ⟨d, below, rfl⟩ := numeral.digit_of_mem mem
    interval_cases d <;> rfl

/-- Exactly what writes a side is read as one. -/
theorem dimension?_eq_some {side : UInt16} :
    dimension? part = some side ↔ WritesSide part side.toNat := by
  constructor
  · intro read
    unfold dimension? at read
    split at read
    · rename_i n natural
      split at read
      · rename_i within
        obtain rfl := Option.some.inj read
        obtain ⟨least, most⟩ := within
        have value : (UInt16.ofNat n).toNat = n := UInt16.toNat_ofNat_of_lt' most
        rw [value]
        obtain ⟨before, after, split, leading, trailing⟩ := Blank.exists_trim part
        have most : n ≤ 65535 := Nat.le_of_lt_succ most
        rw [split]
        rcases Decimal.natural?_eq_some.1 natural with numeral | ⟨digits, signed, numeral⟩
        · have unsigned : ([] : List Char) = [] ∨ [] = ['+'] := .inl rfl
          exact .intro leading trailing unsigned numeral least most
        · have plus : ['+'] = [] ∨ ['+'] = ['+'] := .inr rfl
          rw [signed]
          exact .intro leading trailing plus numeral least most
      · cases read
    · cases read
  · generalize value : side.toNat = n
    rintro ⟨leading, trailing, signed, numeral, least, most⟩
    rename_i before sign digits after
    have some_inner : sign ++ digits ≠ [] := by
      cases numeral <;> simp
    have natural : Decimal.natural? (sign ++ digits) = some n := by
      rcases signed with rfl | rfl
      · exact Decimal.natural?_eq_some.2 (.inl numeral)
      · exact Decimal.natural?_eq_some.2 (.inr ⟨digits, rfl, numeral⟩)
    rw [dimension?, Blank.trim_append leading trailing (plain_of_signed signed numeral) some_inner,
      natural]
    dsimp only
    rw [if_pos ⟨least, Nat.lt_succ_of_le most⟩, ← value, UInt16.ofNat_toNat]

theorem WritesSide.bounds {n : Nat} (written : WritesSide part n) : 1 ≤ n ∧ n ≤ 65535 := by
  obtain ⟨_, _, _, _, least, most⟩ := written
  exact ⟨least, most⟩

/-- A part that writes no side is named. -/
theorem dimension_eq_error {defect : Defect} :
    dimension part = .error defect ↔
      (∀ n, ¬ WritesSide part n) ∧ defect = .badDimension part := by
  unfold dimension
  cases read : dimension? part with
  | some side =>
    exact ⟨nofun, fun ⟨unread, _⟩ => absurd (dimension?_eq_some.1 read) (unread _)⟩
  | none =>
    refine ⟨fun same => ⟨fun n written => ?_, (Except.error.inj same).symm⟩, fun ⟨_, same⟩ => ?_⟩
    · have size : n < UInt16.size := Nat.lt_succ_of_le written.bounds.2
      rw [← UInt16.toNat_ofNat_of_lt' size, ← dimension?_eq_some, read] at written
      cases written
    · rw [same]

theorem dimension_eq_ok {side : UInt16} :
    dimension part = .ok side ↔ WritesSide part side.toNat := by
  rw [← dimension?_eq_some, dimension]
  cases dimension? part with
  | some n => simp
  | none => simp

/-- Where a text is divided, each part is read on its own. -/
theorem ofChars_append {front back : List Char} {separator : Char}
    (separates : separator = 'x' ∨ separator = 'X') (first : 'x' ∉ front ∧ 'X' ∉ front) :
    ofChars (front ++ separator :: back)
      = (do return ⟨← dimension front, ← dimension back⟩) := by
  have passed : ∀ c ∈ front, (!isSeparator c) = true := by
    intro c mem
    have small : c ≠ 'x' := fun same => first.1 (same ▸ mem)
    have capital : c ≠ 'X' := fun same => first.2 (same ▸ mem)
    simp [isSeparator, small, capital]
  have stops : isSeparator separator = true := by
    rcases separates with rfl | rfl <;> rfl
  simp only [ofChars, List.takeWhile_append_of_pos passed, List.dropWhile_append_of_pos passed,
    List.takeWhile_cons, List.dropWhile_cons, stops, Bool.not_true, Bool.false_eq_true, if_false,
    List.append_nil]

/-- A text is not divided, or divided at the first separator. -/
theorem exists_split (text : List Char) : ('x' ∉ text ∧ 'X' ∉ text) ∨
    ∃ front separator back, text = front ++ separator :: back
      ∧ (separator = 'x' ∨ separator = 'X') ∧ 'x' ∉ front ∧ 'X' ∉ front := by
  induction text with
  | nil => exact .inl ⟨List.not_mem_nil, List.not_mem_nil⟩
  | cons c text ih =>
    by_cases here : c = 'x' ∨ c = 'X'
    · exact .inr ⟨[], c, text, rfl, here, List.not_mem_nil, List.not_mem_nil⟩
    obtain ⟨small, capital⟩ := not_or.1 here
    rcases ih with ⟨noSmall, noCapital⟩ | ⟨front, separator, back, rfl, separates, first⟩
    · exact .inl ⟨List.not_mem_cons_of_ne_of_not_mem (Ne.symm small) noSmall,
        List.not_mem_cons_of_ne_of_not_mem (Ne.symm capital) noCapital⟩
    · exact .inr ⟨c :: front, separator, back, rfl, separates,
        List.not_mem_cons_of_ne_of_not_mem (Ne.symm small) first.1,
        List.not_mem_cons_of_ne_of_not_mem (Ne.symm capital) first.2⟩

theorem ofChars_of_undivided (undivided : 'x' ∉ text ∧ 'X' ∉ text) :
    ofChars text = .error .noSeparator := by
  have passed : text.dropWhile (fun c => !isSeparator c) = [] := by
    refine List.dropWhile_eq_nil_iff.2 fun c mem => ?_
    have small : c ≠ 'x' := fun same => undivided.1 (same ▸ mem)
    have capital : c ≠ 'X' := fun same => undivided.2 (same ▸ mem)
    simp [isSeparator, small, capital]
  rw [ofChars, passed]

/-- A text and what is wrong with it: there is no separator, or what stands in front of the first
one is no side, or it is one and what stands behind is none. -/
inductive Misses : List Char → Defect → Prop
  | separator {text : List Char} (undivided : 'x' ∉ text ∧ 'X' ∉ text) : Misses text .noSeparator
  | front {front back : List Char} {separator : Char}
      (separates : separator = 'x' ∨ separator = 'X') (first : 'x' ∉ front ∧ 'X' ∉ front)
      (missed : ∀ n, ¬ WritesSide front n) :
      Misses (front ++ separator :: back) (.badDimension front)
  | back {front back : List Char} {separator : Char} {width : Nat}
      (separates : separator = 'x' ∨ separator = 'X') (first : 'x' ∉ front ∧ 'X' ∉ front)
      (wide : WritesSide front width) (missed : ∀ n, ¬ WritesSide back n) :
      Misses (front ++ separator :: back) (.badDimension back)

/-- The side that a text writes fits in 16 bits. -/
theorem WritesSide.exists_word {n : Nat} (written : WritesSide part n) :
    ∃ side : UInt16, side.toNat = n ∧ dimension part = .ok side := by
  have size : n < UInt16.size := Nat.lt_succ_of_le written.bounds.2
  have value : (UInt16.ofNat n).toNat = n := UInt16.toNat_ofNat_of_lt' size
  exact ⟨.ofNat n, value, dimension_eq_ok.2 (value.symm ▸ written)⟩

/-- A text that writes a size is read. -/
theorem Writes.ofChars_eq {width height : Nat} (written : Writes text width height) :
    ∃ size, ofChars text = .ok size ∧ size.width.toNat = width ∧ size.height.toNat = height := by
  obtain ⟨separates, first, wide, high⟩ := written
  obtain ⟨w, wide, front⟩ := wide.exists_word
  obtain ⟨h, high, back⟩ := high.exists_word
  refine ⟨⟨w, h⟩, ?_, wide, high⟩
  rw [ofChars_append separates first, front, back]
  rfl

/-- What is wrong with a text is reported. -/
theorem Misses.ofChars_eq {defect : Defect} (missed : Misses text defect) :
    ofChars text = .error defect := by
  cases missed with
  | separator undivided => exact ofChars_of_undivided undivided
  | front separates first missed =>
    rw [ofChars_append separates first, dimension_eq_error.2 ⟨missed, rfl⟩]
    rfl
  | back separates first wide missed =>
    obtain ⟨w, _, front⟩ := wide.exists_word
    rw [ofChars_append separates first, front, dimension_eq_error.2 ⟨missed, rfl⟩]
    rfl

/-- Every text writes a size or misses one. -/
theorem writes_or_misses (text : List Char) :
    (∃ width height, Writes text width height) ∨ ∃ defect, Misses text defect := by
  rcases exists_split text with undivided | ⟨front, separator, back, rfl, separates, first⟩
  · exact .inr ⟨_, .separator undivided⟩
  by_cases wide : ∃ width, WritesSide front width
  · obtain ⟨width, wide⟩ := wide
    by_cases high : ∃ height, WritesSide back height
    · obtain ⟨height, high⟩ := high
      exact .inl ⟨width, height, .intro separates first wide high⟩
    · exact .inr ⟨_, .back separates first wide fun n written => high ⟨n, written⟩⟩
  · exact .inr ⟨_, .front separates first fun n written => wide ⟨n, written⟩⟩

/-- What is read is written. -/
theorem writes_of_ofChars {size : PictureSize} (read : ofChars text = .ok size) :
    Writes text size.width.toNat size.height.toNat := by
  rcases writes_or_misses text with ⟨width, height, written⟩ | ⟨_, missed⟩
  · obtain ⟨other, same, rfl, rfl⟩ := written.ofChars_eq
    obtain rfl := Except.ok.inj (same.symm.trans read)
    exact written
  · cases missed.ofChars_eq.symm.trans read

theorem Writes.positive {width height : Nat} (written : Writes text width height) :
    1 ≤ width ∧ 1 ≤ height := by
  obtain ⟨_, _, wide, high⟩ := written
  exact ⟨wide.bounds.1, high.bounds.1⟩

/-- The printed form of a number that is not zero writes it. -/
theorem writesSide_repr {side : UInt16} (positive : side ≠ 0) :
    WritesSide (toString side).toList side.toNat := by
  have numeral : Decimal.Numeral (Nat.toDigits 10 side.toNat) side.toNat :=
    Decimal.digits?_eq_some.1 (Decimal.digits?_toDigits _)
  have least : 1 ≤ side.toNat :=
    Nat.pos_of_ne_zero fun zero => positive (UInt16.toNat_inj.1 zero)
  have printed : (toString side).toList = [] ++ ([] ++ Nat.toDigits 10 side.toNat) ++ [] := by
    rw [List.append_nil]
    exact Nat.toList_repr
  rw [printed]
  exact .intro nofun nofun (.inl rfl) numeral least (Nat.le_of_lt_succ side.toNat_lt)

/-- The printed form of a size writes it. -/
theorem writes_text {size : PictureSize} (wide : size.width ≠ 0) (high : size.height ≠ 0) :
    Writes size.text.toList size.width.toNat size.height.toNat := by
  have printed : size.text.toList
      = (toString size.width).toList ++ 'x' :: (toString size.height).toList := by
    rw [text, String.toList_append, String.toList_append, List.append_assoc]
    rfl
  have plain : ∀ c ∈ (toString size.width).toList, c.isDigit = true := by
    intro c mem
    have mem : c ∈ Nat.toDigits 10 size.width.toNat := Nat.toList_repr ▸ mem
    exact Nat.isDigit_of_mem_toDigits (by decide) (by decide) mem
  rw [printed]
  exact .intro (.inl rfl)
    ⟨fun mem => absurd (plain _ mem) (by decide), fun mem => absurd (plain _ mem) (by decide)⟩
    (writesSide_repr wide) (writesSide_repr high)

/-- Exactly the texts that write a size are read, as that size; of any other text the part that is
wrong is named. The printed form of a size is read as that size. -/
theorem reads_what_is_written (text : List Char) :
    (∀ width height,
      (∃ size, ofChars text = .ok size ∧ size.width.toNat = width ∧ size.height.toNat = height)
        ↔ Writes text width height)
    ∧ (∀ defect, ofChars text = .error defect ↔ Misses text defect)
    ∧ ((∃ defect, ofChars text = .error defect) ↔ ∀ width height, ¬ Writes text width height)
    ∧ ∀ size : PictureSize, size.width ≠ 0 → size.height ≠ 0 →
        ofChars size.text.toList = .ok size := by
  have unread : ∀ {width height defect}, Writes text width height →
      ofChars text ≠ .error defect := by
    intro width height defect written failed
    obtain ⟨_, read, _⟩ := written.ofChars_eq
    cases failed.symm.trans read
  have error_iff : ∀ defect, ofChars text = .error defect ↔ Misses text defect := by
    refine fun defect => ⟨fun failed => ?_, Misses.ofChars_eq⟩
    rcases writes_or_misses text with ⟨_, _, written⟩ | ⟨other, missed⟩
    · exact absurd failed (unread written)
    · obtain rfl := Except.error.inj (missed.ofChars_eq.symm.trans failed)
      exact missed
  refine ⟨fun width height => ⟨?_, Writes.ofChars_eq⟩, error_iff, ⟨?_, ?_⟩, ?_⟩
  · rintro ⟨size, read, rfl, rfl⟩
    exact writes_of_ofChars read
  · rintro ⟨defect, failed⟩ width height written
    exact unread written failed
  · intro unwritten
    rcases writes_or_misses text with ⟨width, height, written⟩ | ⟨defect, missed⟩
    · exact absurd written (unwritten width height)
    · exact ⟨defect, missed.ofChars_eq⟩
  · intro size wide high
    obtain ⟨other, read, sameWidth, sameHeight⟩ := (writes_text wide high).ofChars_eq
    rw [read, Except.ok.injEq]
    cases other
    rw [UInt16.toNat_inj] at sameWidth sameHeight
    cases sameWidth
    cases sameHeight
    rfl

/-- A size with a sign, zeros and blanks is written, and a side that needs 17 bits is not. -/
theorem reads_what_is_written_with_blanks :
    Writes "+064X\t48 ".toList 64 48
    ∧ Misses "65536x1".toList (.badDimension "65536".toList)
    ∧ ofChars (PictureSize.text ⟨64, 48⟩).toList = .ok ⟨64, 48⟩ :=
  ⟨((reads_what_is_written _).1 64 48).1 ⟨⟨64, 48⟩, by decide, rfl, rfl⟩,
    ((reads_what_is_written _).2.1 _).1 (by decide),
    (reads_what_is_written []).2.2.2 ⟨64, 48⟩ (by decide) (by decide)⟩

end CommandLine.PictureSize

end Nv12Jpeg
