import MediaSite.Picture.Encode
import MediaSite.Site.CommandLine

/-!
# The program

Reads the files below the current directory, runs the command line on them,
and writes back what is new or different.
-/

namespace MediaSite

/-- Read what stands below a directory into a tree, `depth` levels deep. -/
def loadBelow : (depth : Nat) → String → Location → FileTree → IO FileTree
  | 0, _, _, tree => return tree
  | depth + 1, directory, location, tree => do
    let here ← IO.FS.realPath directory
    (← here.readDir).foldlM (fun tree item => do
      let place := location ++ [item.fileName.toList]
      if ← item.path.isDir then
        loadBelow depth item.path.toString place
          { tree with entries := (place, .directory) :: tree.entries }
      else
        try
          let octets ← IO.FS.readBinFile item.path
          return { tree with entries := (place, .file (Content.ofOctets octets)) :: tree.entries }
        catch _ => return tree) tree

/-- Write an entry of a tree below the current directory. -/
def store (location : Location) (entry : Entry) : IO Unit := do
  let path := String.ofList (Text.join ['/'] location)
  match entry with
  | .directory => IO.FS.createDirAll path
  | .file content => IO.FS.writeBinFile path content.encode
  | .link _ => return

/-- Write the entries of a tree that are not in an earlier one, directories first. -/
def storeChanges (before after : FileTree) : IO Unit :=
  (after.below []).forM fun item => do
    if before.get? item.1 ≠ some item.2 then store item.1 item.2

end MediaSite

open MediaSite

/-- Run the command line, and end with its code. -/
def main (words : List String) : IO UInt32 := do
  let before ← loadBelow 64 "." [] FileTree.empty
  let result := Command.runWords (words.map String.toList) before
  storeChanges before result.files
  let output ← IO.getStdout
  output.putStr (String.ofList result.output)
  output.flush
  if result.code = 2 then IO.eprint (String.ofList Command.helpText)
  return result.code.toUInt32
