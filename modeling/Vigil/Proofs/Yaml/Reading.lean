import Vigil.Yaml

/-!
# Reading YAML

A text of YAML is read in stages: its characters are allowed, they are divided into tokens, and the
tokens describe a node with a value (`Yaml.readBytes_of_node`). A text without tokens has the null
document (`Yaml.codec_read_nil`).
-/

namespace Vigil.Yaml

/-- The value of a document, from the text, the tokens and the node that its bytes write. -/
theorem readBytes_of_node {content : List UInt8} {text : String} {tokens : List Token}
    {node : Option Node} (htext : Text.Utf8.decode content = .ok text)
    (hallowed : (oneLineEnd text.toList).all isAllowed)
    (htokens : tokensOf (oneLineEnd text.toList) = .ok tokens)
    (hnode : Node.ofTokens tokens = .ok node) :
    readBytes content = node.elim (.ok .null) Node.value := by
  rw [readBytes, htext]
  dsimp only [read]
  rw [hallowed, htokens]
  change (Node.ofTokens tokens >>= _) = _
  rw [hnode]
  cases node <;> rfl

/-- An empty file holds the document that is null. -/
theorem codec_read_nil : codec.read [] = .ok .null := by
  have htext : Text.Utf8.decode [] = .ok "" := by rfl
  have htokens : tokensOf (oneLineEnd "".toList) = .ok [] := by rfl
  have hnode : Node.ofTokens [] = .ok none := by rfl
  exact readBytes_of_node htext (by rfl) htokens hnode

end Vigil.Yaml
