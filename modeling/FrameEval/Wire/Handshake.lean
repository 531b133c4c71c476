import FrameEval.Wire.ClientError
import FrameEval.Wire.Utf8

/-!
# The handshake

Before the first packet both sides send the same fourteen bytes.
-/

namespace FrameEval.Wire.Handshake

/-- What either side sends. -/
def greeting : Bytes := encodeText "JDWP-Handshake"

/-- Check what the other side sent. -/
def check (received : Bytes) : Except ClientError Unit :=
  if received = greeting then .ok () else .error .invalidHandshake

end FrameEval.Wire.Handshake
