import Vigil.Codec
import Vigil.Yaml.Document
import Vigil.Yaml.Writer

/-!
# YAML

The codec of YAML documents. It has these limits:

* What is wrong with a text that is not well-formed is not told.
* A half of a character that is written by its number is refused, because no text holds it; so is a
  collection that contains itself, because no value is one.
* Collections may be nested to any depth.
-/

namespace Vigil.Yaml

/-- The codec of YAML documents. -/
def codec : Codec where
  read := readBytes
  write := render

end Vigil.Yaml
