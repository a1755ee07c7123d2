import FatVolume.Text.Quoted

/-!
# Notices

A volume reports a few events that are no failures. Each kind of notice carries
its facts; `render` is the one place that words them. A notice has two grades:
a warning tells of a medium or a request that is not as it should be.
-/

namespace FatVolume

/-- What is reported while an operation goes on. -/
inductive Notice where
  /-- The first table copy calls a cluster free and the second does not; the second is believed. -/
  | copyDisagrees (cluster : Nat) (value : UInt16)
  | mounted (channel start tableCopies tableSectors rootEntries clusters clusterBytes : Nat)
  | directoryCreated (path : List Char) (cluster : Nat)
  | defaultRoot (spec : List Char)
  | unsupportedRoot (spec : List Char)
  | rootFound (uuid : List Char) (channel : Nat)
  | rootMissing (uuid : List Char)
  deriving DecidableEq

namespace Notice

/-- A word in hexadecimal, with at least four digits. -/
def hexadecimal (value : UInt16) : String :=
  let digits := Nat.toDigits 16 value.toNat
  "0x" ++ String.ofList (List.replicate (4 - digits.length) '0' ++ digits)

def isWarning : Notice → Bool
  | copyDisagrees _ _ => true
  | unsupportedRoot _ => true
  | rootMissing _ => true
  | _ => false

/-- The text of a notice, without its grade. -/
def text : Notice → String
  | copyDisagrees cluster value =>
    "cluster " ++ toString cluster ++ " free in FAT 0 but " ++ hexadecimal value ++
      " in FAT 1, using mirror"
  | mounted channel start tableCopies tableSectors rootEntries clusters clusterBytes =>
    "mounted port " ++ toString channel ++ " lba " ++ toString start ++ ": " ++
      toString tableCopies ++ " FATs x " ++ toString tableSectors ++ " sectors, " ++
      toString rootEntries ++ " root entries, " ++ toString clusters ++ " clusters of " ++
      toString clusterBytes ++ " bytes"
  | directoryCreated path cluster =>
    "mkdir /" ++ String.ofList path ++ " -> cluster " ++ toString cluster
  | defaultRoot spec =>
    "root spec " ++ String.ofList (Text.Quoted.encode spec) ++
      ", using first FAT partition on port 0"
  | unsupportedRoot spec =>
    "unsupported root spec " ++ String.ofList (Text.Quoted.encode spec)
  | rootFound uuid channel =>
    "partuuid " ++ String.ofList uuid ++ " found on port " ++ toString channel
  | rootMissing uuid => "root partuuid " ++ String.ofList uuid ++ " not found"

/-- The line that a log shows for a notice. -/
def render (notice : Notice) : String :=
  (if notice.isWarning then "WARN " else "INFO ") ++ "fat16: " ++ notice.text

end Notice

end FatVolume
