import SnapshotFeed.Demo

/-! The demo on the command line. `FLAGD_SYNC_URL` and `FLAGD_SYNC_TOKEN` configure it. Standard
input is the body of the one answer that the server gives. -/

namespace SnapshotFeed.Demo

/-- Reads pieces until there are none, last first. -/
partial def readPieces (input : IO.FS.Stream) (read : List (List UInt8)) :
    IO (List (List UInt8)) := do
  let piece ← input.read 65536
  if piece.isEmpty then return read
  readPieces input (piece.toList :: read)

end SnapshotFeed.Demo

def main : IO UInt32 := do
  let url ← IO.getEnv "FLAGD_SYNC_URL"
  let token ← IO.getEnv "FLAGD_SYNC_TOKEN"
  let pieces ← SnapshotFeed.Demo.readPieces (← IO.getStdin) []
  let (printed, exit) :=
    SnapshotFeed.Demo.run (SnapshotFeed.Demo.config url token) [⟨200, pieces.reverse, .closes⟩]
  IO.print printed
  return exit.toUInt32
