import RespStore.Frame.Read

set_option autoImplicit false

namespace RespStore

/-- The bytes held back for the next chunk, and the bounds on frames. -/
structure Decoder where
  limits : Limits
  held : Bytes

namespace Decoder

def fresh (limits : Limits) : Decoder := ⟨limits, []⟩

/-- Takes a chunk and gives the frames it completes. A malformed frame fails the whole chunk and
empties the decoder: where the next frame would start is not known. -/
def feed (decoder : Decoder) (chunk : Bytes) : Except Malformed (List Frame) × Decoder :=
  match Frame.readAll decoder.limits (decoder.held ++ chunk) with
  | .ok (frames, rest) => (.ok frames, { decoder with held := rest })
  | .error cause => (.error cause, { decoder with held := [] })

end Decoder

end RespStore
