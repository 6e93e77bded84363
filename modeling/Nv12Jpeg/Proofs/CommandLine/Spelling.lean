import Mathlib.Data.List.Infix
import Mathlib.Data.List.TakeWhile
import Nv12Jpeg.CommandLine.Reading

/-!
# How arguments set options

What it is for arguments to set an option, told by the arguments alone, and the reader beside it.

* `Flag.Stem` and `Flag.Holds` — an argument that spells an option, without and with its value;
* `Sets` — arguments that set an option to a value;
* `Parsed` — arguments that are options and their values throughout, with the occurrences in them;
* `Parsed.sets_iff` — the values that are read are those that are set.
-/

namespace Nv12Jpeg.CommandLine

/-! ## Spellings -/

namespace Flag

/-- An argument that spells an option: the word after two dashes, or the letter after a single one.
In front of the letter there may be others of the only option that is a letter without a value. -/
inductive Stem (flag : Flag) : List Char → Prop
  | word {word : String} (spelt : flag.spelling = .word word) :
      Stem flag ('-' :: '-' :: word.toList)
  | letter {letter : Char} (more : Nat) (spelt : flag.spelling = .letter letter) :
      Stem flag ('-' :: (List.replicate more 'v' ++ [letter]))

/-- An argument that spells an option and holds its value: after an `=`, or at once for a letter. -/
inductive Holds (flag : Flag) (value : List Char) : List Char → Prop
  | joined {stem : List Char} (spells : flag.Stem stem) : Holds flag value (stem ++ '=' :: value)
  | attached {letter : Char} (more : Nat) (spelt : flag.spelling = .letter letter)
      (there : value ≠ []) (plain : value.head? ≠ some '=') :
      Holds flag value ('-' :: (List.replicate more 'v' ++ letter :: value))

variable {flag : Flag} {letter : Char} {word : String} {value argument : List Char}

theorem ofLetter?_eq_some : ofLetter? letter = some flag ↔ flag.spelling = .letter letter := by
  constructor
  · intro found
    have met := List.find?_some (p := fun flag : Flag => flag.spelling = .letter letter) found
    exact of_decide_eq_true met
  · intro spelt
    cases flag <;> cases spelt <;> rfl

theorem ofWord?_eq_some : ofWord? word = some flag ↔ flag.spelling = .word word := by
  constructor
  · intro found
    have met := List.find?_some (p := fun flag : Flag => flag.spelling = .word word) found
    exact of_decide_eq_true met
  · intro spelt
    cases flag <;> cases spelt <;> decide

/-- The only letter without a value asks for more messages. -/
theorem eq_verbose (spelt : flag.spelling = .letter letter) (alone : flag.takesValue = false) :
    flag = .verbose ∧ letter = 'v' := by
  cases flag <;> cases alone <;> cases spelt
  exact ⟨rfl, rfl⟩

/-- The only word without a value asks for help. -/
theorem eq_help (spelt : flag.spelling = .word word) (alone : flag.takesValue = false) :
    flag = .help ∧ word = "help" := by
  cases flag <;> cases alone <;> cases spelt
  exact ⟨rfl, rfl⟩

/-- There is no `=` in the words of options. -/
theorem plain_of_word (spelt : flag.spelling = .word word) : ∀ c ∈ word.toList, c ≠ '=' := by
  have absent : '=' ∉ word.toList := by
    cases flag <;> cases spelt <;> decide
  rintro c mem rfl
  exact absent mem

theorem Stem.exists_cons (stem : flag.Stem argument) :
    ∃ c rest, argument = '-' :: c :: rest ∧ argument ≠ ['-', '-'] := by
  cases stem with
  | word spelt =>
    refine ⟨'-', _, rfl, ?_⟩
    cases flag <;> cases spelt <;> decide
  | letter more spelt =>
    cases more with
    | zero =>
      refine ⟨_, _, rfl, ?_⟩
      cases flag <;> cases spelt <;> decide
    | succ more => exact ⟨_, _, rfl, by simp [List.replicate_succ]⟩

theorem Holds.exists_cons (holds : flag.Holds value argument) :
    ∃ c rest, argument = '-' :: c :: rest ∧ argument ≠ ['-', '-'] := by
  cases holds with
  | joined spells =>
    obtain ⟨c, rest, rfl, _⟩ := spells.exists_cons
    exact ⟨c, rest ++ '=' :: value, rfl, by simp⟩
  | attached more spelt there _ =>
    obtain ⟨first, others, rfl⟩ := List.exists_cons_of_ne_nil there
    cases more with
    | zero => exact ⟨_, _, rfl, by simp⟩
    | succ more => exact ⟨_, _, rfl, by simp [List.replicate_succ]⟩

end Flag

/-- Arguments that set an option to a value: one that holds it, or one that spells the option and
the value behind it. -/
inductive Sets (arguments : List String) (flag : Flag) (value : String) : Prop
  | within {argument : String} (mem : argument ∈ arguments)
      (holds : flag.Holds value.toList argument.toList)
  | apart {argument : String} (behind : [argument, value] <:+: arguments)
      (spells : flag.Stem argument.toList)

theorem Sets.cons {arguments : List String} {flag : Flag} {value : String}
    (sets : Sets arguments flag value) (argument : String) :
    Sets (argument :: arguments) flag value := by
  cases sets with
  | within mem holds => exact .within (List.mem_cons_of_mem _ mem) holds
  | apart behind spells => exact .apart (List.infix_cons behind) spells

/-! ## One argument -/

namespace Reading

variable {flag : Flag} {occurrences : List Occurrence} {ending : Ending}

/-- Letters that ask for more messages are read one by one. -/
theorem ofLetters_replicate (more : Nat) (letters : List Char) :
    ofLetters (List.replicate more 'v' ++ letters)
      = (List.replicate more (.plain .verbose) ++ (ofLetters letters).1,
          (ofLetters letters).2) := by
  induction more with
  | zero => rfl
  | succ more ih =>
    have one : ofLetters ('v' :: (List.replicate more 'v' ++ letters))
        = (.plain .verbose :: (ofLetters (List.replicate more 'v' ++ letters)).1,
          (ofLetters (List.replicate more 'v' ++ letters)).2) := rfl
    rw [List.replicate_succ, List.cons_append, one, ih, List.replicate_succ, List.cons_append]

/-- The letter of an option with a value, and what stands behind it. -/
theorem ofLetters_cons {letter : Char} (spelt : flag.spelling = .letter letter)
    (takes : flag.takesValue = true) (rest : List Char) :
    ofLetters (letter :: rest) = match rest with
      | [] => ([], .wantsValue flag)
      | '=' :: value => ([.attached flag value], .complete)
      | value => ([.attached flag value], .complete) := by
  rw [ofLetters, Flag.ofLetter?_eq_some.2 spelt]
  exact if_pos takes

/-- Letters hold a value if one of them is of an option with a value, and what stands behind it is
that value. -/
def LettersHold (letters : List Char) (flag : Flag) (rest : List Char) : Prop :=
  ∃ more letter, flag.spelling = .letter letter ∧
    letters = List.replicate more 'v' ++ letter :: rest

theorem LettersHold.cons {letters rest : List Char} (holds : LettersHold letters flag rest) :
    LettersHold ('v' :: letters) flag rest := by
  obtain ⟨more, letter, spelt, rfl⟩ := holds
  exact ⟨more + 1, letter, spelt, rfl⟩

/-- What letters spell: the induction is on the letters, of which all but the last one that counts
ask for more messages. -/
theorem ofLetters_sound {letters : List Char} (read : ofLetters letters = (occurrences, ending)) :
    (∀ o ∈ occurrences, o = .plain .verbose ∨ ∃ flag value, flag.takesValue = true ∧
      o = .attached flag value ∧ (LettersHold letters flag ('=' :: value) ∨
        value ≠ [] ∧ value.head? ≠ some '=' ∧ LettersHold letters flag value)) ∧
    ∀ flag, ending = .wantsValue flag → flag.takesValue = true ∧ LettersHold letters flag [] := by
  induction letters generalizing occurrences ending with
  | nil =>
    cases read
    exact ⟨nofun, nofun⟩
  | cons letter rest ih =>
    cases found : Flag.ofLetter? letter with
    | none =>
      rw [ofLetters, found] at read
      cases read
      exact ⟨nofun, nofun⟩
    | some flag =>
      have spelt := Flag.ofLetter?_eq_some.1 found
      cases takes : flag.takesValue with
      | true =>
        rw [ofLetters_cons spelt takes] at read
        split at read
        · cases read
          refine ⟨nofun, ?_⟩
          rintro _ ⟨⟩
          exact ⟨takes, 0, letter, spelt, rfl⟩
        · cases read
          refine ⟨fun o mem => .inr ⟨flag, _, takes, List.mem_singleton.1 mem, .inl ?_⟩, nofun⟩
          exact ⟨0, letter, spelt, rfl⟩
        · rename_i there plain
          cases read
          refine ⟨fun o mem => .inr ⟨flag, _, takes, List.mem_singleton.1 mem,
            .inr ⟨there, ?_, 0, letter, spelt, rfl⟩⟩, nofun⟩
          intro first
          obtain ⟨value, rfl⟩ := List.head?_eq_some_iff.1 first
          exact plain value rfl
      | false =>
        obtain ⟨rfl, rfl⟩ := Flag.eq_verbose spelt takes
        have step : ofLetters ('v' :: rest)
            = (.plain .verbose :: (ofLetters rest).1, (ofLetters rest).2) := rfl
        rw [step] at read
        cases read
        obtain ⟨each, open_end⟩ := ih rfl
        refine ⟨fun o mem => ?_, fun flag wants => ?_⟩
        · rcases List.mem_cons.1 mem with rfl | mem
          · exact .inl rfl
          · rcases each o mem with same | ⟨flag, value, takes, same, holds⟩
            · exact .inl same
            · refine .inr ⟨flag, value, takes, same, ?_⟩
              rcases holds with holds | ⟨there, plain, holds⟩
              · exact .inl holds.cons
              · exact .inr ⟨there, plain, holds.cons⟩
        · obtain ⟨takes, holds⟩ := open_end flag wants
          exact ⟨takes, holds.cons⟩

/-- What a word spells. -/
theorem ofWord_sound {text : List Char} (read : ofWord text = (occurrences, ending)) :
    (∀ o ∈ occurrences, (o = .plain .help ∧ text = "help".toList) ∨
      ∃ flag word value, flag.takesValue = true ∧ flag.spelling = .word word ∧
        o = .attached flag value ∧ text = word.toList ++ '=' :: value) ∧
    ∀ flag, ending = .wantsValue flag → flag.takesValue = true ∧
      ∃ word, flag.spelling = .word word ∧ text = word.toList := by
  have whole : text.takeWhile (· ≠ '=') ++ text.dropWhile (· ≠ '=') = text :=
    List.takeWhile_append_dropWhile
  rw [ofWord] at read
  cases found : Flag.ofWord? (String.ofList (text.takeWhile (· ≠ '='))) with
  | none =>
    rw [found] at read
    cases read
    exact ⟨nofun, nofun⟩
  | some flag =>
    rw [found] at read
    have spelt := Flag.ofWord?_eq_some.1 found
    cases behind : text.dropWhile (· ≠ '=') with
    | nil =>
      rw [behind, List.append_nil] at whole
      rw [behind] at read
      rw [whole] at spelt
      dsimp only at read
      cases takes : flag.takesValue with
      | true =>
        rw [if_pos takes] at read
        cases read
        refine ⟨nofun, ?_⟩
        rintro _ ⟨⟩
        exact ⟨takes, _, spelt, String.toList_ofList.symm⟩
      | false =>
        rw [if_neg (by rw [takes]; exact Bool.false_ne_true)] at read
        cases read
        refine ⟨fun o mem => .inl ?_, nofun⟩
        obtain ⟨rfl, word_eq⟩ := Flag.eq_help spelt takes
        refine ⟨List.mem_singleton.1 mem, ?_⟩
        rw [← word_eq, String.toList_ofList]
    | cons separator value =>
      rw [behind] at read
      dsimp only at read
      cases takes : flag.takesValue with
      | true =>
        rw [if_pos takes] at read
        cases read
        refine ⟨fun o mem => .inr ⟨flag, _, value, takes, spelt, List.mem_singleton.1 mem, ?_⟩,
          nofun⟩
        obtain rfl : separator = '=' := by
          have first := List.head?_dropWhile_not (· ≠ '=') text
          rw [behind] at first
          simpa using first
        rw [String.toList_ofList, ← behind, whole]
      | false =>
        rw [if_neg (by rw [takes]; exact Bool.false_ne_true)] at read
        cases read
        exact ⟨nofun, nofun⟩

/-- What an argument spells: options without a value, and one that has its value there. A value that
is not there belongs to the option that the argument spells last. -/
theorem ofArgument_sound {argument : String} (read : ofArgument argument = (occurrences, ending)) :
    (∀ o ∈ occurrences, o = .plain .verbose ∨ (o = .plain .help ∧ argument = "--help") ∨
      ∃ flag value, flag.takesValue = true ∧ o = .attached flag value ∧
        flag.Holds value argument.toList) ∧
    ∀ flag, ending = .wantsValue flag → flag.takesValue = true ∧ flag.Stem argument.toList := by
  rw [ofArgument] at read
  split at read
  · rename_i word spelt
    obtain ⟨each, open_end⟩ := ofWord_sound read
    rw [spelt]
    refine ⟨fun o mem => .inr ?_, fun flag wants => ?_⟩
    · rcases each o mem with ⟨same, rfl⟩ | ⟨flag, word, value, takes, word_eq, same, rfl⟩
      · exact .inl ⟨same, String.toList_inj.1 spelt⟩
      · exact .inr ⟨flag, value, takes, same, .joined (.word word_eq)⟩
    · obtain ⟨takes, word, word_eq, rfl⟩ := open_end flag wants
      exact ⟨takes, .word word_eq⟩
  · rename_i letter letters _ spelt
    obtain ⟨each, open_end⟩ := ofLetters_sound read
    rw [spelt]
    refine ⟨fun o mem => ?_, fun flag wants => ?_⟩
    · rcases each o mem with same | ⟨flag, value, takes, same, holds⟩
      · exact .inl same
      · refine .inr (.inr ⟨flag, value, takes, same, ?_⟩)
        rcases holds with ⟨more, letter, letter_eq, split⟩ |
          ⟨there, plain, more, letter, letter_eq, split⟩
        · have joined : flag.Holds value ('-' :: (List.replicate more 'v' ++ [letter])
              ++ '=' :: value) := .joined (.letter more letter_eq)
          rw [split]
          simpa using joined
        · rw [split]
          exact .attached more letter_eq there plain
    · obtain ⟨takes, more, letter, letter_eq, split⟩ := open_end flag wants
      rw [split]
      exact ⟨takes, .letter more letter_eq⟩
  · cases read
    exact ⟨nofun, nofun⟩

/-- Letters in an argument are read as such: a dash is not one of them. -/
theorem ofArgument_letters {argument : String} {letter : Char} {more : Nat} {rest : List Char}
    (spelt : flag.spelling = .letter letter)
    (argument_eq : argument.toList = '-' :: (List.replicate more 'v' ++ letter :: rest)) :
    ofArgument argument = (List.replicate more (.plain .verbose) ++ (ofLetters (letter :: rest)).1,
      (ofLetters (letter :: rest)).2) := by
  have dash : letter ≠ '-' := by
    rintro rfl
    cases flag <;> cases spelt
  rw [← ofLetters_replicate, ofArgument, argument_eq]
  cases more with
  | zero =>
    rw [List.replicate_zero, List.nil_append]
    split
    · rename_i same
      cases same
      exact absurd rfl dash
    · rename_i same
      cases same
      rfl
    · rename_i other
      exact absurd rfl (other _ _)
  | succ more => rfl

/-- What holds the value of an option is read as that option and that value. -/
theorem ofArgument_of_holds {argument : String} {value : List Char} (takes : flag.takesValue = true)
    (holds : flag.Holds value argument.toList) :
    ∃ occurrences, ofArgument argument = (occurrences, .complete) ∧
      .attached flag value ∈ occurrences := by
  generalize argument_eq : argument.toList = text at holds
  cases holds with
  | joined spells =>
    cases spells with
    | word spelt =>
      rename_i word
      have passed : ∀ c ∈ word.toList, decide (c ≠ '=') = true := fun c mem =>
        decide_eq_true (Flag.plain_of_word spelt c mem)
      refine ⟨[.attached flag value], ?_, List.mem_singleton_self _⟩
      have argument_eq : argument.toList = '-' :: '-' :: (word.toList ++ '=' :: value) :=
        argument_eq
      rw [ofArgument, argument_eq]
      show ofWord (word.toList ++ '=' :: value) = _
      rw [ofWord, List.takeWhile_append_of_pos passed, List.dropWhile_append_of_pos passed,
        List.takeWhile_cons_of_neg (by simp), List.dropWhile_cons_of_neg (by simp), List.append_nil,
        String.ofList_toList, Flag.ofWord?_eq_some.2 spelt]
      exact if_pos takes
    | letter more spelt =>
      rw [List.cons_append, List.append_assoc, List.singleton_append] at argument_eq
      refine ⟨List.replicate more (.plain .verbose) ++ [.attached flag value],
        (ofArgument_letters spelt argument_eq).trans ?_, ?_⟩
      · rw [ofLetters_cons spelt takes]
        rfl
      · exact List.mem_append_right _ (List.mem_singleton_self _)
  | attached more spelt there plain =>
    refine ⟨List.replicate more (.plain .verbose) ++ [.attached flag value],
      (ofArgument_letters spelt argument_eq).trans ?_, ?_⟩
    · rw [ofLetters_cons spelt takes]
      split
      · exact absurd rfl there
      · exact absurd rfl plain
      · rfl
    · exact List.mem_append_right _ (List.mem_singleton_self _)

/-- What spells an option with a value, and nothing behind it, leaves the value open. -/
theorem ofArgument_of_stem {argument : String} (takes : flag.takesValue = true)
    (spells : flag.Stem argument.toList) :
    ∃ occurrences, ofArgument argument = (occurrences, .wantsValue flag) := by
  generalize argument_eq : argument.toList = text at spells
  cases spells with
  | word spelt =>
    rename_i word
    have passed : ∀ c ∈ word.toList, decide (c ≠ '=') = true := fun c mem =>
      decide_eq_true (Flag.plain_of_word spelt c mem)
    refine ⟨[], ?_⟩
    rw [ofArgument, argument_eq]
    show ofWord word.toList = _
    rw [ofWord, List.takeWhile_eq_self_iff.2 passed, List.dropWhile_eq_nil_iff.2 passed,
      String.ofList_toList, Flag.ofWord?_eq_some.2 spelt]
    exact if_pos takes
  | letter more spelt =>
    refine ⟨List.replicate more (.plain .verbose) ++ [],
      (ofArgument_letters spelt argument_eq).trans ?_⟩
    rw [ofLetters_cons spelt takes]

/-- What spells an option is no value of the one in front of it. -/
theorem canBeValue_eq_false {argument : String} {c : Char} {rest : List Char}
    (dashed : argument.toList = '-' :: c :: rest) : canBeValue argument = false := by
  rw [canBeValue, dashed]
  rfl

/-- What can be the value of the option in front of it spells no option. -/
theorem not_stem_of_canBeValue {argument : String} (fits : canBeValue argument = true) :
    ¬ flag.Stem argument.toList := by
  intro spells
  obtain ⟨c, rest, dashed, _⟩ := spells.exists_cons
  rw [canBeValue_eq_false dashed] at fits
  cases fits

theorem not_holds_of_canBeValue {argument : String} {value : List Char}
    (fits : canBeValue argument = true) : ¬ flag.Holds value argument.toList := by
  intro holds
  obtain ⟨c, rest, dashed, _⟩ := holds.exists_cons
  rw [canBeValue_eq_false dashed] at fits
  cases fits

variable {argument value : String} {rest : List String}

/-- The values that are read in an argument are those that it holds. -/
theorem holds_iff (takes : flag.takesValue = true)
    (read : ofArgument argument = (occurrences, ending)) :
    flag.Holds value.toList argument.toList ↔
      ∃ o ∈ occurrences, o.flag = flag ∧ o.value = some value := by
  constructor
  · intro holds
    obtain ⟨_, same, mem⟩ := ofArgument_of_holds takes holds
    cases read.symm.trans same
    exact ⟨_, mem, rfl, congrArg some String.ofList_toList⟩
  · rintro ⟨o, mem, same, some_value⟩
    rcases (ofArgument_sound read).1 o mem with rfl | ⟨rfl, _⟩ | ⟨_, _, _, rfl, holds⟩
    · cases some_value
    · cases some_value
    · obtain rfl : _ = flag := same
      rw [← Option.some.inj some_value, String.toList_ofList]
      exact holds

/-- An argument that leaves no value open sets what it holds. -/
theorem sets_cons_iff (takes : flag.takesValue = true)
    (read : ofArgument argument = (occurrences, .complete)) :
    Sets (argument :: rest) flag value ↔
      (∃ o ∈ occurrences, o.flag = flag ∧ o.value = some value) ∨ Sets rest flag value := by
  rw [← holds_iff takes read]
  constructor
  · rintro (⟨mem, holds⟩ | ⟨behind, spells⟩)
    · rcases List.mem_cons.1 mem with rfl | mem
      · exact .inl holds
      · exact .inr (.within mem holds)
    · rcases List.infix_cons_iff.1 behind with front | behind
      · obtain ⟨rfl, _⟩ := List.cons_prefix_cons.1 front
        obtain ⟨_, same⟩ := ofArgument_of_stem takes spells
        cases read.symm.trans same
      · exact .inr (.apart behind spells)
  · rintro (holds | sets)
    · exact .within List.mem_cons_self holds
    · exact sets.cons argument

/-- An argument that leaves a value open sets it to the argument behind it. -/
theorem sets_cons_cons_iff {other : Flag} {next : String} (takes : flag.takesValue = true)
    (read : ofArgument argument = (occurrences, .wantsValue other))
    (fits : canBeValue next = true) :
    Sets (argument :: next :: rest) flag value ↔
      (∃ o ∈ occurrences, o.flag = flag ∧ o.value = some value) ∨
        (other = flag ∧ next = value) ∨ Sets rest flag value := by
  rw [← holds_iff takes read]
  constructor
  · rintro (⟨mem, holds⟩ | ⟨behind, spells⟩)
    · rcases List.mem_cons.1 mem with rfl | mem
      · exact .inl holds
      rcases List.mem_cons.1 mem with rfl | mem
      · exact absurd holds (not_holds_of_canBeValue fits)
      · exact .inr (.inr (.within mem holds))
    · rcases List.infix_cons_iff.1 behind with front | behind
      · obtain ⟨rfl, second⟩ := List.cons_prefix_cons.1 front
        obtain ⟨rfl, _⟩ := List.cons_prefix_cons.1 second
        obtain ⟨_, same⟩ := ofArgument_of_stem takes spells
        cases read.symm.trans same
        exact .inr (.inl ⟨rfl, rfl⟩)
      rcases List.infix_cons_iff.1 behind with front | behind
      · obtain ⟨rfl, _⟩ := List.cons_prefix_cons.1 front
        exact absurd spells (not_stem_of_canBeValue fits)
      · exact .inr (.inr (.apart behind spells))
  · rintro (holds | ⟨rfl, rfl⟩ | sets)
    · exact .within List.mem_cons_self holds
    · exact .apart ⟨[], rest, rfl⟩ ((ofArgument_sound read).2 other rfl).2
    · exact (sets.cons next).cons argument

end Reading

/-! ## All arguments -/

/-- Arguments that are options and their values throughout, with the occurrences in them. -/
inductive Parsed : List String → List Occurrence → Prop
  | done : Parsed [] []
  /-- Two dashes may stand at the end. -/
  | dashes : Parsed ["--"] []
  | whole {argument : String} {occurrences others : List Occurrence} {rest : List String}
      (read : Reading.ofArgument argument = (occurrences, .complete))
      (parsed : Parsed rest others) :
      Parsed (argument :: rest) (occurrences ++ others)
  | apart {argument value : String} {flag : Flag} {occurrences others : List Occurrence}
      {rest : List String} (read : Reading.ofArgument argument = (occurrences, .wantsValue flag))
      (fits : Reading.canBeValue value = true) (parsed : Parsed rest others) :
      Parsed (argument :: value :: rest) (occurrences ++ .separate flag (some value) :: others)

/-- Arguments without a defect are parsed, if no option lacks its value. -/
theorem parsed_ofArguments {arguments : List String}
    (sound : (Reading.ofArguments arguments).defect = none)
    (valued : ∀ o ∈ (Reading.ofArguments arguments).occurrences, o.apart = true → o.value ≠ none) :
    Parsed arguments (Reading.ofArguments arguments).occurrences := by
  have lacking : ∀ {flag} {occurrences others : List Occurrence},
      (∀ o ∈ occurrences ++ .separate flag none :: others, o.apart = true → o.value ≠ none) →
      False := fun valued =>
    valued _ (List.mem_append_right _ List.mem_cons_self) rfl rfl
  fun_induction Reading.ofArguments arguments with
  | case1 => exact .done
  | case2 rest =>
    cases rest with
    | nil => exact .dashes
    | cons argument rest => cases sound
  | case3 => cases sound
  | case4 argument rest _ occurrences read ih =>
    exact .whole read (ih sound fun o mem => valued o (List.mem_append_right _ mem))
  | case5 => exact (lacking valued).elim
  | case6 argument _ occurrences flag next rest read fits ih =>
    have parsed := ih sound fun o mem => valued o (by
      rw [Reading.after, List.append_assoc]
      exact List.mem_append_right _ (List.mem_cons_of_mem _ mem))
    rw [Reading.after, List.append_assoc]
    exact .apart read fits parsed
  | case7 =>
    rw [Reading.after, List.append_assoc] at valued
    exact (lacking valued).elim

namespace Parsed

variable {arguments : List String} {occurrences : List Occurrence} {flag : Flag} {value : String}

/-- The values that are read are those that are set. The induction is on how the arguments are
parsed. -/
theorem sets_iff (parsed : Parsed arguments occurrences) (takes : flag.takesValue = true) :
    (∃ o ∈ occurrences, o.flag = flag ∧ o.value = some value) ↔ Sets arguments flag value := by
  induction parsed with
  | done =>
    refine ⟨fun ⟨_, mem, _⟩ => (nomatch mem), fun sets => ?_⟩
    cases sets with
    | within mem _ => cases mem
    | apart behind _ => cases List.infix_nil.1 behind
  | dashes =>
    refine ⟨fun ⟨_, mem, _⟩ => (nomatch mem), fun sets => ?_⟩
    cases sets with
    | within mem holds =>
      obtain ⟨_, _, _, longer⟩ := holds.exists_cons
      rw [List.mem_singleton.1 mem] at longer
      exact absurd rfl longer
    | apart behind _ => exact absurd behind.length_le (Nat.not_succ_le_self 1)
  | whole read _ ih =>
    rw [Reading.sets_cons_iff takes read, ← ih]
    simp only [List.mem_append, or_and_right, exists_or]
  | apart read fits _ ih =>
    rw [Reading.sets_cons_cons_iff takes read fits, ← ih]
    simp only [List.mem_append, List.mem_cons, or_and_right, exists_or, exists_eq_left,
      Occurrence.separate, Option.some.injEq]

end Parsed

/-- An argument in which an occurrence is read. Its value may be another argument, or missing. -/
inductive Reading.ReadIn (o : Occurrence) (argument : String) : Prop
  | closed {occurrences : List Occurrence} {ending : Ending}
      (read : ofArgument argument = (occurrences, ending)) (mem : o ∈ occurrences)
  | left {occurrences : List Occurrence} {flag : Flag} (value : Option String)
      (read : ofArgument argument = (occurrences, .wantsValue flag))
      (same : o = .separate flag value)

/-- Each occurrence is read in one of the arguments. -/
theorem Reading.mem_occurrences {arguments : List String} {o : Occurrence}
    (mem : o ∈ (Reading.ofArguments arguments).occurrences) :
    ∃ argument ∈ arguments, ReadIn o argument := by
  have behind {argument : String} {rest : List String}
      (found : ∃ argument ∈ rest, ReadIn o argument) :
      ∃ other ∈ argument :: rest, ReadIn o other := by
    obtain ⟨other, there, read⟩ := found
    exact ⟨other, List.mem_cons_of_mem _ there, read⟩
  fun_induction ofArguments arguments with
  | case1 => cases mem
  | case2 => cases mem
  | case3 argument rest _ occurrences defect read =>
    exact ⟨argument, List.mem_cons_self, .closed read mem⟩
  | case4 argument rest _ occurrences read ih =>
    rcases List.mem_append.1 mem with mem | mem
    · exact ⟨argument, List.mem_cons_self, .closed read mem⟩
    · exact behind (ih mem)
  | case5 argument _ occurrences flag read =>
    rcases List.mem_append.1 mem with mem | mem
    · exact ⟨argument, List.mem_cons_self, .closed read mem⟩
    · exact ⟨argument, List.mem_cons_self, .left none read (List.mem_singleton.1 mem)⟩
  | case6 argument _ occurrences flag next rest read fits ih =>
    rw [after, List.append_assoc] at mem
    rcases List.mem_append.1 mem with mem | mem
    · exact ⟨argument, List.mem_cons_self, .closed read mem⟩
    rcases List.mem_cons.1 mem with same | mem
    · exact ⟨argument, List.mem_cons_self, .left (some next) read same⟩
    · exact behind (behind (ih mem))
  | case7 argument _ occurrences flag next rest read fits ih =>
    rw [after, List.append_assoc] at mem
    rcases List.mem_append.1 mem with mem | mem
    · exact ⟨argument, List.mem_cons_self, .closed read mem⟩
    rcases List.mem_cons.1 mem with same | mem
    · exact ⟨argument, List.mem_cons_self, .left none read same⟩
    · exact behind (ih mem)

/-- An occurrence is of an option with a value, or it asks for more messages, or for help by the
word alone. -/
theorem Reading.occurrence_cases {arguments : List String} {o : Occurrence}
    (mem : o ∈ (Reading.ofArguments arguments).occurrences) :
    o = .plain .verbose ∨ (o = .plain .help ∧ "--help" ∈ arguments) ∨ o.flag.takesValue = true := by
  obtain ⟨argument, there, read⟩ := mem_occurrences mem
  cases read with
  | closed read mem =>
    rcases (ofArgument_sound read).1 o mem with same | ⟨same, rfl⟩ | ⟨flag, _, takes, rfl, _⟩
    · exact .inl same
    · exact .inr (.inl ⟨same, there⟩)
    · exact .inr (.inr takes)
  | left value read same =>
    subst same
    exact .inr (.inr ((ofArgument_sound read).2 _ rfl).1)

end Nv12Jpeg.CommandLine
