import Ownership.Text.Blank
import Ownership.Text.DecimalDigit
import Ownership.Text.Split

/-!
# Arguments

A row of arguments holds options and operands.  An option begins with a hyphen; one that takes a
value has it behind an equals sign or as the next argument, whatever that looks like.  Behind two
hyphens there are only operands.
-/

namespace Ownership
namespace CommandLine

inductive UsageError
  | unknownOption (name : String)
  | missingValue (option : String)
  | unwantedValue (option : String)
  | missingOption (option : String)
  | missingOperand
  | extraOperand (operand : String)
  | notInteger (option value : String)
  | missingCommand
  | unknownCommand (name : String)
deriving DecidableEq, Repr

def UsageError.message : UsageError → String
  | .unknownOption name => "no such option: " ++ name
  | .missingValue option => "option " ++ option ++ " needs a value"
  | .unwantedValue option => "option " ++ option ++ " does not take a value"
  | .missingOption option => "option " ++ option ++ " is missing"
  | .missingOperand => "a file has to be named"
  | .extraOperand operand => "unexpected argument: " ++ operand
  | .notInteger option value => "option " ++ option ++ " is not an integer: " ++ value
  | .missingCommand => "a command has to be named"
  | .unknownCommand name => "no such command: " ++ name

/-!
# Telling arguments apart
-/

structure Arguments where
  /-- Options with values. -/
  values : List (String × String) := []
  /-- Options without values. -/
  flags : List String := []
  operands : List String := []
deriving DecidableEq, Repr

namespace Arguments

def addValue (option value : String) (arguments : Arguments) : Arguments :=
  { arguments with values := (option, value) :: arguments.values }

def addFlag (option : String) (arguments : Arguments) : Arguments :=
  { arguments with flags := option :: arguments.flags }

def addOperand (operand : String) (arguments : Arguments) : Arguments :=
  { arguments with operands := operand :: arguments.operands }

def value? (arguments : Arguments) (option : String) : Option String :=
  ((arguments.values.filter fun entry => entry.1 = option).getLast?).map Prod.snd

def has (arguments : Arguments) (option : String) : Bool := arguments.flags.contains option

end Arguments

structure Options where
  valued : List String := []
  flags : List String := []
deriving DecidableEq, Repr

def isOption (argument : String) : Bool :=
  match argument.toList with
  | '-' :: _ :: _ => true
  | _ => false

def attached (argument : String) : String × Option String :=
  match Text.cutAt? '=' argument.toList with
  | some (name, value) => (String.ofList name, some (String.ofList value))
  | none => (argument, none)

/-- Tells arguments apart.  Unless options and operands may mix, the first operand ends the
options. -/
def tellApart (options : Options) (mix : Bool) : List String → Except UsageError Arguments
  | [] => .ok {}
  | argument :: rest =>
      if argument = "--" then .ok { operands := rest }
      else if isOption argument then
        let (name, value) := attached argument
        if name ∈ options.flags then
          match value with
          | some _ => .error (.unwantedValue name)
          | none => (tellApart options mix rest).map (Arguments.addFlag name)
        else if name ∈ options.valued then
          match value with
          | some value => (tellApart options mix rest).map (Arguments.addValue name value)
          | none =>
              match rest with
              | [] => .error (.missingValue name)
              | value :: rest => (tellApart options mix rest).map (Arguments.addValue name value)
        else .error (.unknownOption name)
      else if mix then (tellApart options mix rest).map (Arguments.addOperand argument)
      else .ok { operands := argument :: rest }

/-!
# Values
-/

namespace Arguments

def need (arguments : Arguments) (option : String) : Except UsageError String :=
  match arguments.value? option with
  | some value => .ok value
  | none => .error (.missingOption option)

/-- Decimal digits of any script; single underscores may stand between them. -/
def digits? (s : List Char) : Option (List Char) :=
  let groups := Text.splitOn '_' s
  let isDigits (group : List Char) : Bool := !group.isEmpty && group.all Text.isDecimalDigit
  if groups.all isDigits then some groups.flatten else none

/-- The integer that a text writes: a sign may go before the digits, and blanks around do not
count. -/
def integer? (text : String) : Option Int :=
  match Text.trim text.toList with
  | '-' :: digits => (digits? digits).map fun digits => -(Text.decimalValue digits : Int)
  | '+' :: digits => (digits? digits).map fun digits => (Text.decimalValue digits : Int)
  | digits => (digits? digits).map fun digits => (Text.decimalValue digits : Int)

def integerD (arguments : Arguments) (option : String) (fallback : Int) : Except UsageError Int :=
  match arguments.value? option with
  | none => .ok fallback
  | some value =>
      match integer? value with
      | some n => .ok n
      | none => .error (.notInteger option value)

def operand (arguments : Arguments) : Except UsageError String :=
  match arguments.operands with
  | [] => .error .missingOperand
  | [operand] => .ok operand
  | _ :: extra :: _ => .error (.extraOperand extra)

def noOperands (arguments : Arguments) : Except UsageError Unit :=
  match arguments.operands with
  | [] => .ok ()
  | extra :: _ => .error (.extraOperand extra)

end Arguments
end CommandLine
end Ownership
