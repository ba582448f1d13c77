import RpcTelemetry.Text.Pattern.Tree

/-!
# Patterns

Which texts are patterns: those that can be read, are not nested too deep, and need no tables of all
scripts.
-/

namespace RpcTelemetry.Text

/-- How deep a pattern may be nested. -/
def Pattern.depthLimit : Nat := 250

/-- Whether a text is a pattern. -/
def isPattern (text : List Char) : Bool :=
  (Pattern.Tree.ofText? text).any fun tree => tree.depth ≤ Pattern.depthLimit && tree.isKnown

end RpcTelemetry.Text
