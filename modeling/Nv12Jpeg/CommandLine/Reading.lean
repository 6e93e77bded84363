import Nv12Jpeg.CommandLine.Flag

/-!
# The options among the arguments

Arguments are read from left to right. An argument spells an option by a word after two dashes, or
one or more by letters after a single dash. The value of an option stands in the same argument,
after an `=` or, for a letter, at once; or it is the argument that follows.

* `Reading.ofArgument` takes one argument apart;
* `Reading.ofArguments` takes all of them apart, up to the first that spells no option;
* `Reading.settled` are the occurrences that count if there is such an argument.
-/

namespace Nv12Jpeg.CommandLine

/-- An option as it occurs among the arguments. -/
structure Occurrence where
  flag : Flag
  value : Option String
  /-- Whether the value is looked for in an argument of its own. -/
  apart : Bool
  deriving DecidableEq, Repr

namespace Occurrence

/-- An option that needs no value. -/
def plain (flag : Flag) : Occurrence := ⟨flag, none, false⟩

/-- An option with its value in the same argument. -/
def attached (flag : Flag) (value : List Char) : Occurrence :=
  ⟨flag, some (String.ofList value), false⟩

/-- An option with its value in the next argument, if that can be one. -/
def separate (flag : Flag) (value : Option String) : Occurrence := ⟨flag, value, true⟩

end Occurrence

/-- The options that arguments spell, and what is wrong with the first argument that spells none. -/
structure Reading where
  occurrences : List Occurrence
  defect : Option UsageError
  deriving DecidableEq, Repr

namespace Reading

/-- What comes after the options of one argument. -/
inductive Ending where
  | complete
  /-- The value of the last option is missing. -/
  | wantsValue (flag : Flag)
  /-- The rest of the argument spells no option. -/
  | broken (defect : UsageError)
  deriving DecidableEq, Repr

/-- The options that letters spell. What follows an option with a value is that value. -/
def ofLetters : (letters : List Char) → List Occurrence × Ending
  | [] => ([], .complete)
  | letter :: rest =>
    match Flag.ofLetter? letter with
    | none => ([], .broken (.unknownArgument (String.ofList ['-', letter])))
    | some flag =>
      if flag.takesValue then
        match rest with
        | [] => ([], .wantsValue flag)
        | '=' :: value => ([.attached flag value], .complete)
        | value => ([.attached flag value], .complete)
      else
        let (occurrences, ending) := ofLetters rest
        (.plain flag :: occurrences, ending)

/-- The option that a word spells, perhaps with a value after an `=`. -/
def ofWord (text : List Char) : List Occurrence × Ending :=
  let word := String.ofList (text.takeWhile (· ≠ '='))
  match Flag.ofWord? word, text.dropWhile (· ≠ '=') with
  | none, _ => ([], .broken (.unknownArgument ("--" ++ word)))
  | some flag, [] =>
    if flag.takesValue then ([], .wantsValue flag) else ([.plain flag], .complete)
  | some flag, _ :: value =>
    if flag.takesValue then ([.attached flag value], .complete)
    else ([], .broken (.unneededValue flag (String.ofList value)))

/-- The options that one argument spells. -/
def ofArgument (argument : String) : List Occurrence × Ending :=
  match argument.toList with
  | '-' :: '-' :: word => ofWord word
  | '-' :: letter :: letters => ofLetters (letter :: letters)
  | _ => ([], .broken (.unknownArgument argument))

/-- Whether an argument can be the value of the option before it: it does not start with a dash,
unless it is a single dash. -/
def canBeValue (argument : String) : Bool :=
  match argument.toList with
  | '-' :: _ :: _ => false
  | _ => true

/-- Puts occurrences before those of a reading. -/
def after (reading : Reading) (occurrences : List Occurrence) : Reading :=
  { reading with occurrences := occurrences ++ reading.occurrences }

/-- The options that arguments spell. Two dashes end them, and nothing may come after that. -/
def ofArguments : (arguments : List String) → Reading
  | [] => ⟨[], none⟩
  | argument :: rest =>
    if argument = "--" then ⟨[], rest.head?.map .unknownArgument⟩
    else
      match ofArgument argument, rest with
      | (occurrences, .broken defect), _ => ⟨occurrences, some defect⟩
      | (occurrences, .complete), rest => (ofArguments rest).after occurrences
      | (occurrences, .wantsValue flag), [] => ⟨occurrences ++ [.separate flag none], none⟩
      | (occurrences, .wantsValue flag), next :: rest =>
        if canBeValue next then
          (ofArguments rest).after (occurrences ++ [.separate flag (some next)])
        else (ofArguments (next :: rest)).after (occurrences ++ [.separate flag none])

/-- The occurrences whose values are looked at. Before an argument that spells no option, an option
with its value apart is still open, and is passed over. -/
def settled (reading : Reading) : List Occurrence :=
  match reading.defect, reading.occurrences.getLast? with
  | some _, some last => if last.apart then reading.occurrences.dropLast else reading.occurrences
  | _, _ => reading.occurrences

end Reading

end Nv12Jpeg.CommandLine
