import Sysal.Model.Storage
import Sysal.Parser.ParseUtils

/-!
# The mount table

`mountinfo.cpp`: `/proc/self/mountinfo` line by line.  The kernel writes the bytes that would end a field
as octal escapes; a line is split at blanks before they are undone.

* `unescapeMount_cons`: only a backslash starts an escape.
-/

namespace Sysal.MountInfo

open Sysal

/-- An octal digit. -/
def isOctal (c : UInt8) : Bool := 48 ≤ c && c ≤ 55

/-- `unescape_mount`: three octal digits behind a backslash are a byte. -/
def unescapeMount : Bytes → Bytes
  | [] => []
  | 92 :: a :: b :: c :: rest =>
      if isOctal a && isOctal b && isOctal c then
        UInt8.ofNat ((a.toNat - 48) * 64 + (b.toNat - 48) * 8 + (c.toNat - 48)) ::
          unescapeMount rest
      else 92 :: unescapeMount (a :: b :: c :: rest)
  | c :: rest => c :: unescapeMount rest

example : unescapeMount (utf8 "a\\040b\\134040\\04") = utf8 "a b\\040\\04" := by decide +kernel

theorem unescapeMount_cons {c : UInt8} (hc : c ≠ 92) (rest : Bytes) :
    unescapeMount (c :: rest) = c :: unescapeMount rest := by
  conv_lhs => unfold unescapeMount
  split <;> simp_all

/-- The words of one line: six fields, optional ones up to a dash, and three more. -/
def parseMountWords (ws : List Bytes) : Except Bytes StorageMount :=
  match ws with
  | id :: parent :: number :: root :: path :: options :: rest =>
      match rest.dropWhile (· ≠ utf8 "-"), parseUint32 id, parseUint32 parent,
          parseDeviceNumber number with
      | _ :: filesystem :: source :: _ :: _, some mountId, some parentId, some deviceNumber =>
          .ok
            { mountId := mountId
              parentMountId := parentId
              deviceNumber := deviceNumber
              root := unescapeMount root
              path := unescapeMount path
              filesystem := filesystem
              source := unescapeMount source
              options := split options 44
              readOnly := (split options 44).any (· = utf8 "ro") }
      | _, _, _, _ => .error (utf8 "parse_storage: malformed mountinfo record")
  | _ => .error (utf8 "parse_storage: malformed mountinfo header")

/-- One line; an empty one is passed over. -/
def scanMountLine (s : List StorageMount × List Bytes) (line : Bytes) :
    List StorageMount × List Bytes :=
  if line.isEmpty then s
  else match parseMountWords (words line) with
    | .ok mount => (s.1 ++ [mount], s.2)
    | .error warning => (s.1, s.2 ++ [warning])

/-- `parse_mountinfo`: the mounts and the warnings. -/
def parseMountinfo (payload : Bytes) : List StorageMount × List Bytes :=
  (split payload 10).foldl scanMountLine ([], [])

example : (parseMountinfo (utf8
    "36 35 98:0 / /mnt\\040a rw,ro - ext4 /dev/sda errors=continue\n")).1.map
      (fun m => (m.path, m.readOnly)) = [(utf8 "/mnt a", true)] := by decide +kernel

end Sysal.MountInfo
