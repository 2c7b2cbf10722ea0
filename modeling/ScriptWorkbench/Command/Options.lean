/-!
# Command line arguments

An argument that begins with a dash is an option, and any other one is an
operand. Options have a long spelling behind two dashes, and may have a short
one; short ones can be put together behind one dash. The value of an option
stands behind it in the same argument or is the whole next argument, whatever
that looks like. After `--` everything is an operand.

These rules only lead to the settings of a command. What a command does with its
settings is a function of its own, and what is proved of commands is proved of that.
-/

namespace ScriptWorkbench

structure OptionForm where
  /-- The long spelling, without its dashes. -/
  long : String
  short : Option Char := none
  takesValue : Bool := false
  deriving DecidableEq

inductive OptionError where
  | unknown (argument : String)
  | missingValue (spelling : String)
  | unexpectedValue (spelling : String)
  deriving DecidableEq

/-- The options that are given, in order, each with its value, and the
operands. -/
structure Arguments where
  given : List (String × String) := []
  operands : List String := []
  deriving DecidableEq

namespace Arguments

def has (arguments : Arguments) (option : String) : Bool :=
  arguments.given.any fun occurrence => occurrence.1 == option

/-- Every value of an option that may be repeated. -/
def values (arguments : Arguments) (option : String) : List String :=
  (arguments.given.filter fun occurrence => occurrence.1 == option).map Prod.snd

/-- The value of an option, of which the last occurrence counts. -/
def value? (arguments : Arguments) (option : String) : Option String :=
  (arguments.values option).getLast?

def addGiven (given : List (String × String)) (arguments : Arguments) : Arguments :=
  { arguments with given := given ++ arguments.given }

def addOperand (operand : String) (arguments : Arguments) : Arguments :=
  { arguments with operands := operand :: arguments.operands }

end Arguments

/-- What one argument gives: options that are complete, and perhaps one that
waits for its value, with its spelling. -/
structure OptionReading where
  complete : List (String × String) := []
  waiting : Option (String × String) := none
  deriving DecidableEq

namespace OptionReading

/-- Reads options in their short spellings. -/
def ofCluster (forms : List OptionForm) : List Char → Except OptionError OptionReading
  | [] => .ok {}
  | letter :: rest =>
    let spelling := String.ofList ['-', letter]
    match forms.find? fun form => form.short == some letter with
    | none => .error (.unknown spelling)
    | some form =>
      if form.takesValue then
        match rest with
        | [] => .ok { waiting := some (form.long, spelling) }
        | _ => .ok { complete := [(form.long, String.ofList rest)] }
      else
        (ofCluster forms rest).map fun reading =>
          { reading with complete := (form.long, "") :: reading.complete }

/-- Reads an option in its long spelling, with the value behind an equals sign
if there is one. -/
def ofLong (form : OptionForm) (value : Option String) : Except OptionError OptionReading :=
  let spelling := "--" ++ form.long
  match form.takesValue, value with
  | true, none => .ok { waiting := some (form.long, spelling) }
  | true, some value => .ok { complete := [(form.long, value)] }
  | false, none => .ok { complete := [(form.long, "")] }
  | false, some _ => .error (.unexpectedValue spelling)

/-- Splits an argument at its first equals sign. -/
def splitValue (argument : List Char) : List Char × Option String :=
  match argument.span fun character => character != '=' with
  | (spelling, '=' :: value) => (spelling, some (String.ofList value))
  | (spelling, _) => (spelling, none)

/-- Reads an argument that begins with a dash. -/
def ofArgument (forms : List OptionForm) (argument : List Char) :
    Except OptionError OptionReading :=
  let (spelling, value) := splitValue argument
  match forms.find? fun form => '-' :: '-' :: form.long.toList == spelling with
  | some form => ofLong form value
  | none =>
    match argument with
    | '-' :: '-' :: _ => .error (.unknown (String.ofList argument))
    | _ => ofCluster forms argument.tail

end OptionReading

/-- A dash alone is no option. -/
def isOption (argument : String) : Bool :=
  match argument.toList with
  | '-' :: _ :: _ => true
  | _ => false

/-- Reads arguments in order. Unless options may follow operands, the first
operand ends the options. -/
def Arguments.parse (forms : List OptionForm) (mixed : Bool) :
    List String → Except OptionError Arguments
  | [] => .ok {}
  | argument :: rest =>
    if argument = "--" then .ok { operands := rest }
    else if isOption argument then
      match OptionReading.ofArgument forms argument.toList with
      | .error error => .error error
      | .ok { complete, waiting := none } =>
        (parse forms mixed rest).map (Arguments.addGiven complete)
      | .ok { complete, waiting := some (option, spelling) } =>
        match rest with
        | [] => .error (.missingValue spelling)
        | value :: following =>
          (parse forms mixed following).map
            (Arguments.addGiven (complete ++ [(option, value)]))
    else if mixed then (parse forms mixed rest).map (Arguments.addOperand argument)
    else .ok { operands := argument :: rest }

example :
    Arguments.parse [{ long := "format", short := some 'f', takesValue := true },
        { long := "verbose", short := some 'v' }] true ["-vfhex", "in", "--format", "-v"] =
      .ok {
        given := [("verbose", ""), ("format", "hex"), ("format", "-v")]
        operands := ["in"] } := by rfl

end ScriptWorkbench
