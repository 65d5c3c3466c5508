import Ownership.BlockFormat.Reader
import Ownership.BlockFormat.Writer
import Ownership.LineFormat.Reader
import Ownership.LineFormat.Writer

/-!
# The formats of owner configurations

Configurations are written in one of two formats.  The line format is lenient: it skips what it
does not understand and notes it.  The block format is strict: any defect fails the whole text.
-/

namespace Ownership

inductive Format
  | lines
  | blocks
deriving DecidableEq, Repr

namespace Format

def name : Format → String
  | .lines => "find-owners"
  | .blocks => "proto"

/-- The configuration that a text writes, and the defects that were passed over. -/
def read (format : Format) (key : ConfigKey) (text : String) :
    Except BlockFormat.BlockError (OwnerConfig × List Skipped) :=
  match format with
  | .lines => .ok (LineFormat.read key text)
  | .blocks => (BlockFormat.read key text).map fun config => (config, [])

def write (format : Format) (config : OwnerConfig) : Except Inexpressible String :=
  match format with
  | .lines => LineFormat.write config
  | .blocks => BlockFormat.write config

end Format
end Ownership
