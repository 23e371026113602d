import Uncloud.Go.Filepath

/-! `filepath.IsAbs` as built for each platform. On Windows a path is absolute only after a volume
name (a drive letter, or a UNC or device prefix) and a separator, and `\` and `/` are both
separators. The Windows functions follow `volumeNameLen` and `IsAbs` of Go's Windows `filepath` on
the bytes of the path, which is how Go indexes a string. -/
namespace Uncloud
namespace Go

/-- The `GOOS` families whose `filepath.IsAbs` differ. -/
inductive OS
  | unix
  | windows
  deriving DecidableEq, Repr

namespace Windows

/-- `IsPathSeparator`. -/
def isSlash (c : UInt8) : Bool := c == '\\'.toUInt8 || c == '/'.toUInt8

def toUpper (c : UInt8) : UInt8 :=
  if 'a'.toUInt8 ≤ c ∧ c ≤ 'z'.toUInt8 then c - ('a'.toUInt8 - 'A'.toUInt8) else c

/-- `pathHasPrefixFold(s, prefix)`: `s` begins with `prefix`, letters compared without case and the
two separators alike, and ends there or goes on with a separator. -/
def pathHasPrefixFold : List UInt8 → List UInt8 → Bool
  | [], [] => true
  | c :: _, [] => isSlash c
  | [], _ :: _ => false
  | c :: s, p :: ps =>
    (if isSlash p then isSlash c else toUpper p == toUpper c) && pathHasPrefixFold s ps

def uncLenFrom (len : Nat) : List UInt8 → Nat → Nat → Nat
  | [], _, _ => len
  | c :: cs, i, count =>
    if isSlash c then (if count + 1 = 2 then i else uncLenFrom len cs (i + 1) (count + 1))
    else uncLenFrom len cs (i + 1) count

def uncLen (path : List UInt8) (prefixLen : Nat) : Nat :=
  uncLenFrom path.length (path.drop prefixLen) prefixLen 0

/-- `cutPath(path)`, the part `volumeNameLen` reads: what follows the first separator. -/
def cutPath : List UInt8 → Option (List UInt8)
  | [] => none
  | c :: cs => if isSlash c then some cs else cutPath cs

/-- `volumeNameLen`: the length of the path's volume name, `0` when it has none. -/
def volumeNameLen (path : List UInt8) : Nat :=
  if path[1]? = some ':'.toUInt8 then 2
  else if !(path.head?.any isSlash) then 0
  else if pathHasPrefixFold path "\\\\.\\UNC".toUTF8.data.toList then uncLen path 8
  else if pathHasPrefixFold path "\\\\.".toUTF8.data.toList ||
      pathHasPrefixFold path "\\\\?".toUTF8.data.toList ||
      pathHasPrefixFold path "\\??".toUTF8.data.toList then
    if path.length = 3 then 3
    else match cutPath (path.drop 4) with
      | none => path.length
      | some rest => path.length - rest.length - 1
  else if path[1]?.any isSlash then uncLen path 2
  else 0

/-- `filepath.IsAbs` on Windows. -/
def isAbs (path : String) : Bool :=
  let p := path.toUTF8.data.toList
  let l := volumeNameLen p
  if l = 0 then false
  else if p.head?.any isSlash && p[1]?.any isSlash then true
  else (p.drop l).head?.any isSlash

example : isAbs "C:\\secrets\\db" ∧ isAbs "//host/share/db" ∧ isAbs "\\\\?\\C:\\db" ∧
    !isAbs "C:db" ∧ !isAbs "/run/secrets/db" := by decide

theorem isAbs_run_secrets_append (name : String) : isAbs ("/run/secrets/" ++ name) = false := by
  have hp : ("/run/secrets/" ++ name).toUTF8.data.toList =
      [47, 114, 117, 110, 47, 115, 101, 99, 114, 101, 116, 115, 47] ++ name.toUTF8.data.toList := by
    simp only [String.toUTF8, String.data_append, List.flatMap_append]
    rfl
  simp only [isAbs, hp]
  rfl

end Windows

/-- `filepath.IsAbs` as built for `os`. -/
def OS.isAbs : OS → String → Bool
  | .unix => Go.isAbs
  | .windows => Windows.isAbs

theorem OS.isAbs_run_secrets_append (os : OS) (name : String) :
    os.isAbs ("/run/secrets/" ++ name) = true ↔ os = .unix := by
  cases os
  · exact iff_of_true (@isAbs_append_of_isAbs "/run/secrets/" name rfl) rfl
  · simp [OS.isAbs, Windows.isAbs_run_secrets_append]

end Go
end Uncloud
