-- The program on a real disk. It looks at the places that the run is about,
-- runs, and then prints and writes what the run left.
import SixStage.Session

namespace SixStage.Disk

/-- What stands at a path of the disk. A directory is what has itself in it. -/
def look (path : String) : IO (Option FileNode) := do
  try
    let _ ← IO.FS.Handle.mk (path ++ "/.") .read
    return some .directory
  catch _ =>
    try
      return some (.file (← IO.FS.readBinFile path))
    catch _ => return none

/-- Adds to a tree what stands on the disk along a path. -/
def survey (files : FileTree) (path : String) : IO FileTree := do
  let names := Path.names path
  let mut files := files
  for k in [1 : names.length + 1] do
    if let .ok place := files.walk (FileTree.start path) (names.take k) then
      if (files.at? place).isNone then
        if let some node ← look (FileTree.pathOf place) then
          files := files.set place node
  return files

/-- Makes or writes what stands at a path. -/
def carryOut (path : String) : FileNode → IO Unit
  | .directory => IO.FS.createDirAll path
  | .file bytes => IO.FS.writeBinFile path bytes

/-- The exit code of a run, once all that it left is printed and written. Where the
traces go may depend on the file with the settings, so the disk is surveyed twice. -/
def run (args : List String) : IO UInt32 := do
  let inputs ← (Session.paths args .empty).foldlM survey .empty
  let files ← (Session.paths args inputs).foldlM survey inputs
  let start ← IO.monoNanosNow
  let outcome ← IO.lazyPure fun _ => Session.run args files
  let stop ← IO.monoNanosNow
  IO.print (outcome.output (Text.fixedRatio 4 (stop - start) 1000000000))
  if outcome.exitCode = 2 then IO.eprintln "usage: sp [OPTIONS] <PROGRAM>"
  for (path, node) in files.changes outcome.files do
    carryOut path node
  return UInt32.ofNat outcome.exitCode

end SixStage.Disk

def main (args : List String) : IO UInt32 := SixStage.Disk.run args
