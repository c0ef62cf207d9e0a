import Sweep.Crash
import Sweep.Document.Basic

/-!
# Decoders

The files of beds and settings are texts in some format.  What turns such a text into a document is a
library of its own: it may find the text malformed, and it may fail in ways that nobody here knows.
-/

namespace Sweep

/-- Why a text is not decoded. -/
inductive DecodingError where
  /-- The text breaks the rules of its format, as the decoder explains. -/
  | malformed (cause : String)
  /-- The decoder fails. -/
  | foreign (e : Foreign)
  deriving DecidableEq, Repr

/-- What turns a text into a document. -/
abbrev Decoder := String → Except DecodingError Document

end Sweep
