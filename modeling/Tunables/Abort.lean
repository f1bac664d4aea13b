import Tunables.Errno

namespace Tunables

inductive Abort
  | embeddedNul
  | unencodable (bad : Utf8.Unencodable)
  | homeUnknown
  | outsideRoot (entry root : Path)
  | refused (errno : Errno) (path : Option Path)
  /-- The file being applied grows as fast as it is read. -/
  | endless
  deriving DecidableEq, Repr

def Abort.message : Abort → Text
  | embeddedNul => "embedded null byte".text
  | unencodable bad => bad.message
  | homeUnknown => "Could not determine home directory.".text
  | outsideRoot entry root =>
    entry.quoted ++ " is not in the subpath of ".text ++ root.quoted ++
      " OR one path is relative and the other is absolute.".text
  | refused errno (some path) => errno.report path
  | refused errno none => "[Errno ".text ++ Text.ofInt errno ++ "] ".text ++ errno.text
  | endless => "the file grows as fast as it is read".text

end Tunables
