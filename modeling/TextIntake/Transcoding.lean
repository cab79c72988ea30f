import TextIntake.Encoding.Codec
import TextIntake.Encoding.Detection

set_option autoImplicit false

/-!
# Transcoding

A document is handed to an external command in the encoding that the command
expects.  Its marker is not carried over; a marker of the new encoding is written
only where encoding writes one.
-/

namespace TextIntake

/-- The text of a document, without its marker. -/
def documentText (e : Encoding) (bs : Bytes) : Text := e.decodeText (payload e bs)

/-- A document of the encoding `source`, written in the encoding `target`. -/
def transcode (source target : Encoding) (bs : Bytes) : Bytes :=
  target.encode (documentText source bs)

end TextIntake
