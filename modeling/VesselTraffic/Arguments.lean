import VesselTraffic.Command

/-!
# Command-line arguments

    decode FILE [--json | --summary] [--strict] [--source ID] [--config FILE]

Options stand anywhere. The value of an option follows it, or an equals sign.
-/
namespace VesselTraffic

/-- What the options say, and the words that are no options. -/
structure Arguments where
  words : List String := []
  options : Command.Options := {}
  settingsPath : Option String := none
  deriving DecidableEq, Repr

namespace Arguments

/-- The value after an equals sign behind the name of an option. -/
def valueBehind? (name argument : String) : Option String :=
  let start := (name ++ "=").toList
  let cs := argument.toList
  if cs.take start.length = start then some (String.ofList (cs.drop start.length)) else none

/-- Chooses a format of output, once. -/
def choose? (a : Arguments) (format : Command.Format) : Option Arguments :=
  if a.options.format = .plain then some { a with options.format := format } else none

def ofList? (a : Arguments) : List String → Option Arguments
  | [] => some a
  | "--json" :: rest => (a.choose? .json).bind fun a => ofList? a rest
  | "--summary" :: rest => (a.choose? .summary).bind fun a => ofList? a rest
  | "--strict" :: rest => ofList? { a with options.strict := true } rest
  | "--source" :: value :: rest => ofList? { a with options.source := some value } rest
  | "--config" :: value :: rest => ofList? { a with settingsPath := some value } rest
  | argument :: rest =>
    match valueBehind? "--source" argument, valueBehind? "--config" argument with
    | some value, _ => ofList? { a with options.source := some value } rest
    | none, some value => ofList? { a with settingsPath := some value } rest
    | none, none =>
      if argument.toList.head? = some '-' && argument ≠ "-" then none
      else ofList? { a with words := a.words ++ [argument] } rest

/-- The feed to decode, `-` standing for the standard input. -/
def feed? (a : Arguments) : Option String :=
  match a.words with
  | ["decode", feed] => some feed
  | _ => none

end Arguments

end VesselTraffic
