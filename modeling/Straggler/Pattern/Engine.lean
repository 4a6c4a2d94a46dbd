import Straggler.Pattern.Reader

/-!
# Engines

What a pattern is compiled by has a limit on the size of what it makes, and measures the size in
its own way. So which patterns are too large is left open here: an engine says it of each text.
-/

namespace Straggler.Pattern

set_option autoImplicit false

class Engine where
  oversized : List Char → Bool

@[reducible] def Engine.boundless : Engine where
  oversized := fun _ => false

/-- Reads a pattern, if the engine has room for it. -/
def Regex.read [Engine] (text : List Char) : Except SyntaxError Regex := do
  let r ← parse text
  if Engine.oversized text then .error .tooLarge
  else return r

theorem Regex.read_eq_parse [Engine] {text : List Char} (room : Engine.oversized text = false) :
    read text = parse text := by
  rw [read, room]
  exact bind_pure (parse text)

end Straggler.Pattern
