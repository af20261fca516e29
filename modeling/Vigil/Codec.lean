import Vigil.Value.Basic

/-!
# Codecs

Configurations and snapshots stand in files as documents. How the bytes of a file are read as a
value, and how a value is written as text, is told by a codec. The library takes it from its caller,
and what is proved of configurations and snapshots holds for every codec; `Yaml.codec` is the one
that the program runs with.
-/

namespace Vigil

/-- A form in which documents stand in files. -/
structure Codec where
  /-- The value of the document that bytes hold. A document that is not well-formed is told as such
  (`Fault.document`); there may be other faults. -/
  read : List UInt8 → Except Fault Value
  /-- The text of a value. -/
  write : Value → Except Fault String

end Vigil
