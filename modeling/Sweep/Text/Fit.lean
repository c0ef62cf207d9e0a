/-!
# Fitting two texts on a line

A label and a message share a line of limited width.  The message is more important: the label is
cut first, and the message is cut only when nothing of the label is left.  Widths count characters.
-/

namespace Sweep.Text

/-- The first characters of a string. -/
def cut (s : String) (n : Nat) : String := String.ofList (s.toList.take n)

/-- Cut a label, then a message, so that both fit. -/
def fit (label message : String) (available : Int) : String × String :=
  let room := available.toNat
  if label.length + message.length ≤ room then (label, message)
  else if room ≤ message.length then ("", cut message room)
  else (cut label (room - message.length), message)

end Sweep.Text
