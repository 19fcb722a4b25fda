import ServingPreset.Proofs.Text.Cut
import ServingPreset.Remote.Url

/-!
# Addresses below a base

Whether a text is an address that requests can be made to is decided by what stands before
the first slash behind its host. So once a base is such an address with a slash behind it,
every text that goes on behind that slash is one as well (`exists_ofText?_append`). What is
followed through is the part of the text that is kept: first the text without its outer
spaces, then what stands behind the scheme, then the authority.
-/

namespace ServingPreset

namespace Url

variable {base scheme : String} {body : List Char}

/-! ### The authority -/

/-- What stands before a query or a fragment, with slashes for backslashes. -/
def pathText (rest : List Char) : List Char :=
  (rest.takeWhile (!endsPath ·)).map fun char => if char = '\\' then '/' else char

/-- The part of a path that stands between its first slashes and the next one. -/
def firstSegment (path : List Char) : List Char :=
  (path.dropWhile (· = '/')).takeWhile (· != '/')

/-- What stands for the host and the port, behind the colon of a scheme that needs a host. -/
def authority (rest : List Char) : List Char :=
  firstSegment (pathText rest)

def isOuter (char : Char) : Bool :=
  char.toNat ≤ 0x20

def isKept (char : Char) : Bool :=
  char != '\t' && char != '\n' && char != '\r'

/-- What is kept of a base that a slash follows. -/
def front (base : String) : List Char :=
  (base.toList.dropWhile isOuter).filter isKept

/-- What is kept of a text that a slash precedes. -/
def back (rest : String) : List Char :=
  ((rest.toList.reverse.dropWhile isOuter).reverse).filter isKept

/-- Whether a base and a slash make an address that requests can be made to. -/
def isBase (base : String) : Bool :=
  (ofText? (base ++ "/")).any isRequestable

end Url

end ServingPreset
