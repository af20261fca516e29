import Vigil.Command
import Vigil.Telemetry.Client
import Vigil.Yaml

/-!
# The standard host

The program as it runs by itself: it reads its own arguments, documents are YAML, tables are printed
on a screen of 80 cells, and what servers reply is known.
-/

namespace Vigil.Command

/-- The number of cells of a line on the screen. -/
def screenWidth : Nat := 80

/-- The nesting of lists and objects that is read in a credential. -/
def nesting : Nat := 1000

/-- The host of the program by itself. -/
def Host.standard (files : Files) (homes : Homes) (clock : Instant) (ask : Address → Reply) :
    Host where
  files := files
  homes := homes
  clock := clock
  arguments := Request.ofArguments?
  codec := Yaml.codec
  client := .ofReplies ask
  depth := nesting
  screen := .ofWidth screenWidth

end Vigil.Command
