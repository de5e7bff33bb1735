import AssetRegistry.Text.Basic

/-! # Arguments

A command line has levels: the program itself, and the command that it names.  `scan`
reads the arguments of one level from left to right and stops at the first that settles
what happens. -/

namespace AssetRegistry.CommandLine

open Text

/-- Why no command is run: the caller asked for a description, or the arguments are
    wrong. -/
inductive Stop where
  | description
  | misuse
  deriving DecidableEq, Repr

/-- An option with a value.  `isValue` says which values it takes. -/
structure OptionForm where
  name : String
  isValue : String → Bool := fun _ => true

/-- What may be given at a level: options, and commands of a further level.  Every level
    describes itself; `isVersioned` says whether it tells its version too. -/
structure Level where
  options : List OptionForm
  isVersioned : Bool := false
  hasCommands : Bool := false

/-- The options that were given at a level, with their values. -/
abbrev Given : Type :=
  List (String × String)

/-- The value that an option was given. -/
def given? (name : String) (given : Given) : Option String :=
  (given.find? (·.1 == name)).map (·.2)

/-- Whether an argument looks like an option.  A hyphen alone does not. -/
def isOptionLike (argument : String) : Bool :=
  match argument.toList with
  | '-' :: _ :: _ => true
  | _ => false

/-- An argument by its form. -/
inductive Argument where
  | plain
  | endOfOptions
  | short (letter : Char)
  | long (name : String) (value? : Option String)
  deriving DecidableEq, Repr

/-- The form of an argument.  Of several short options only the first counts. -/
def Argument.ofText (argument : String) : Argument :=
  match argument.toList with
  | ['-', '-'] => .endOfOptions
  | '-' :: '-' :: rest =>
    let (name, value) := splitFirst '=' rest
    .long (String.ofList name) (if rest.contains '=' then some (String.ofList value) else none)
  | '-' :: letter :: _ => .short letter
  | _ => .plain

/-- What a flag comes to that asks for a description, and misuse for every other one. -/
def Level.describe (level : Level) (isHelp isVersion : Bool) : Stop :=
  if isHelp || (isVersion && level.isVersioned) then .description else .misuse

/-- The options with one more, which is not among them. -/
def Level.give (level : Level) (given : Given) (name value : String) : Except Stop Given :=
  match level.options.find? (·.name == name) with
  | none => .error .misuse
  | some form =>
    if form.isValue value && (given? name given).isNone then .ok (given ++ [(name, value)])
    else .error .misuse

/-- Reads the arguments of a level.  The answer is the options that were given, and the
    command of the next level with its arguments. -/
def Level.scan (level : Level) (given : Given) :
    List String → Except Stop (Given × Option (String × List String))
  | [] => .ok (given, none)
  | argument :: rest =>
    match Argument.ofText argument with
    | .plain => if level.hasCommands then .ok (given, some (argument, rest)) else .error .misuse
    | .endOfOptions => if rest.isEmpty then .ok (given, none) else .error .misuse
    | .short letter => .error (level.describe (letter = 'h') (letter = 'V'))
    | .long name (some value) =>
      match level.give given name value with
      | .ok given => level.scan given rest
      | .error stop => .error stop
    | .long name none =>
      if level.options.any (·.name == name) then
        match rest with
        | [] => .error .misuse
        | value :: rest =>
          if isOptionLike value then .error .misuse
          else
            match level.give given name value with
            | .ok given => level.scan given rest
            | .error stop => .error stop
      else .error (level.describe (name == "help") (name == "version"))

/-! ### Numbers -/

/-- The digits of a number after its sign, if it has one.  The first part of the answer
    is whether the sign is a minus. -/
def unsign : List Char → Bool × List Char
  | '-' :: digits => (true, digits)
  | '+' :: digits => (false, digits)
  | digits => (false, digits)

/-- The number that a text spells, at most the greatest one.  A minus sign may stand only
    before zero, and only where signs are admitted. -/
def number? (greatest : Nat) (admitsMinus : Bool) (text : String) : Option Nat :=
  let (negative, digits) := unsign text.toList
  let value := digitsValue digits
  if digits.isEmpty || !digits.all Char.isDigit || greatest < value then none
  else if negative && (!admitsMinus || value ≠ 0) then none
  else some value

/-- Counts of connections: 32 bits. -/
def connections? (text : String) : Option Nat :=
  number? 0xffffffff true text

/-- Counts of seconds: 64 bits. -/
def seconds? (text : String) : Option Nat :=
  number? 0xffffffffffffffff false text

end AssetRegistry.CommandLine
