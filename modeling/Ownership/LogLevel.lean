/-!
# Log levels

Levels are set by name, whatever the case of its letters.  A name that is no level means the
level of plain information.
-/

namespace Ownership
namespace LogLevel

/-- The capital of a letter as far as names of levels are concerned: apart from the plain letters
two others have a plain capital. -/
def capital (c : Char) : Char :=
  if c = 'ı' then 'I' else if c = 'ſ' then 'S' else c.toUpper

def levels : List (String × Nat) :=
  [("CRITICAL", 50), ("FATAL", 50), ("ERROR", 40), ("WARNING", 30), ("WARN", 30), ("INFO", 20),
    ("DEBUG", 10), ("NOTSET", 0)]

/-- A setting that is known and is not a level: the layout of log lines. -/
def layoutName : String := "BASIC_FORMAT"

def layout : String := "%(levelname)s:%(name)s:%(message)s"

def refusal : String := "Unknown level: '" ++ layout ++ "'"

/-- The number of a level; the layout of log lines in its place is refused. -/
def ofName? (name : String) : Option Nat :=
  let name := String.ofList (name.toList.map capital)
  if name = layoutName then none
  else
    match levels.find? fun level => level.1 = name with
    | some level => some level.2
    | none => some 20

end LogLevel
end Ownership
