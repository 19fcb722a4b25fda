import ServingPreset.Number.DecimalText
import ServingPreset.Remote.Host
import ServingPreset.Remote.PercentEscape
import ServingPreset.Text.Ascii
import ServingPreset.Text.Cut

/-!
# URLs

How an absolute URL is understood and shown again. The scheme is put in lower case, the
host is shown in one form, the port of the scheme is left out, dots in the path are
resolved, and characters that may not stand in a path, query or fragment are escaped. Some
schemes need a host, others do without.
-/

namespace ServingPreset

/-- An absolute URL. -/
structure Url where
  scheme : String
  /-- Whether the URL names a host. -/
  hasHost : Bool
  /-- The URL as it is shown. -/
  shown : String
deriving DecidableEq, Repr, Inhabited

namespace Url

/-- Whether a character may stand in a scheme behind its first letter. -/
def isSchemeChar (char : Char) : Bool :=
  char.isAlphanum || char = '+' || char = '-' || char = '.'

/-- The schemes that need a host, with the port that each implies. -/
def hostSchemes : List (String × Nat) :=
  [("http", 80), ("https", 443), ("ws", 80), ("wss", 443), ("ftp", 21)]

/-- Whether URLs of a scheme need a host. -/
def needsHost (scheme : String) : Bool :=
  (hostSchemes.map (·.1)).contains scheme

/-- The characters that are escaped in a path. -/
def pathEscapes : List Char := [' ', '"', '#', '<', '>', '?', '\x60', '\x7b', '\x7d']

/-- The characters that are escaped in a query. -/
def queryEscapes (scheme : String) : List Char :=
  [' ', '"', '#', '<', '>'] ++ if needsHost scheme then ['\''] else []

/-- The characters that are escaped in a fragment. -/
def fragmentEscapes : List Char := [' ', '"', '<', '>', '\x60']

/-- Whether a path segment stands for the directory itself. -/
def isDot (segment : List Char) : Bool :=
  let lower := segment.map Text.lowerAscii
  lower = ['.'] || lower = ['%', '2', 'e']

/-- Whether a path segment stands for the directory above. -/
def isDoubleDot (segment : List Char) : Bool :=
  ["..", ".%2e", "%2e.", "%2e%2e"].any fun form => form.toList = segment.map Text.lowerAscii

/-- Whether a path segment names a drive: a letter and a colon or a bar. -/
def isDrive : List Char → Bool
  | [letter, mark] => letter.isAlpha && (mark = ':' || mark = '|')
  | _ => false

/-- Leave the innermost segment, held first, unless it names a drive. -/
def ascend : List (List Char) → List (List Char)
  | [] => []
  | segment :: above => if isDrive segment then segment :: above else above

/-- Resolve dots among path segments; the segments kept so far are held in reverse. -/
def resolveDots (kept : List (List Char)) : List (List Char) → List (List Char)
  | [] => kept.reverse
  | [last] =>
      if isDot last then ([] :: kept).reverse
      else if isDoubleDot last then ([] :: ascend kept).reverse
      else (last :: kept).reverse
  | segment :: rest =>
      if isDot segment then resolveDots kept rest
      else if isDoubleDot segment then resolveDots (ascend kept) rest
      else resolveDots (segment :: kept) rest

/-- The characters up to the first colon outside brackets. -/
def beforePort (insideBrackets : Bool) : List Char → List Char
  | [] => []
  | char :: rest =>
      if char = ':' && !insideBrackets then []
      else char :: beforePort (char = '[' || (insideBrackets && char != ']')) rest

/-- The port behind a host as it is shown; the one that the scheme implies is left out. -/
def shownPort? (scheme : String) : List Char → Option (List Char)
  | [] => some []
  | [':'] => some []
  | ':' :: digits =>
      (DecimalText.natural? digits).bind fun port =>
        if 65535 < port then none
        else if hostSchemes.contains (scheme, port) then some []
        else some (':' :: (DecimalText.render port).toList)
  | _ => none

/--
The host and the port of an authority as they are shown, without the name of a user. Where
a host is not needed it may be left out, but then nothing stands around it.
-/
def shownAuthority? (scheme : String) (authority : List Char) : Option (List Char) :=
  let location := Text.afterLast '@' authority
  let name := beforePort false location
  if name.isEmpty && !authority.isEmpty then none
  else do
    let host ← if needsHost scheme then Host.ofNeeded? name else Host.ofOptional? name
    let port ← shownPort? scheme (location.drop name.length)
    return host ++ port

/-- A path as it is shown, dots resolved. -/
def shownPath (path : List Char) : List Char :=
  (resolveDots [] ((Text.segments '/' path).drop 1)).flatMap fun segment =>
    '/' :: PercentEscape.encode pathEscapes segment

/-- The query and the fragment behind a path as they are shown. -/
def shownSuffix (scheme : String) (suffix : List Char) : List Char :=
  let query := match Text.afterFirst? '?' (Text.beforeFirst '#' suffix) with
    | some query => '?' :: PercentEscape.encode (queryEscapes scheme) query
    | none => []
  let fragment := match Text.afterFirst? '#' suffix with
    | some fragment => '#' :: PercentEscape.encode fragmentEscapes fragment
    | none => []
  query ++ fragment

/-- Whether a character ends the path of a URL. -/
def endsPath (char : Char) : Bool :=
  char = '?' || char = '#'

/-- The URL of a scheme that needs a host, from what stands behind the colon. -/
def withHost? (scheme : String) (rest : List Char) : Option Url :=
  let path := (rest.takeWhile (!endsPath ·)).map fun char => if char = '\\' then '/' else char
  let suffix := shownSuffix scheme (rest.dropWhile (!endsPath ·))
  let location := path.dropWhile (· = '/')
  let authority := location.takeWhile (· != '/')
  (shownAuthority? scheme authority).map fun host =>
    let shown := shownPath (location.drop authority.length)
    ⟨scheme, true, String.ofList (scheme.toList ++ "://".toList ++ host ++
      (if shown.isEmpty then ['/'] else shown) ++ suffix)⟩

/-- The URL of any other scheme, from what stands behind the colon. -/
def general? (scheme : String) (rest : List Char) : Option Url :=
  let path := rest.takeWhile (!endsPath ·)
  let suffix := shownSuffix scheme (rest.dropWhile (!endsPath ·))
  match path with
  | '/' :: '/' :: location =>
      let authority := location.takeWhile (· != '/')
      (shownAuthority? scheme authority).map fun host =>
        ⟨scheme, !host.isEmpty, String.ofList (scheme.toList ++ "://".toList ++ host ++
          shownPath (location.drop authority.length) ++ suffix)⟩
  | _ =>
      let shown := if path.head? = some '/' then shownPath path else PercentEscape.encode [] path
      some ⟨scheme, false, String.ofList (scheme.toList ++ ':' :: shown ++ suffix)⟩

/-- The characters of a text that count: without outer spaces, tabs and line ends. -/
def essence (text : String) : List Char :=
  let isOuter (char : Char) : Bool := char.toNat ≤ 0x20
  let trimmed := ((text.toList.dropWhile isOuter).reverse.dropWhile isOuter).reverse
  trimmed.filter fun char => char != '\t' && char != '\n' && char != '\r'

/-- Understand a text as an absolute URL. -/
def ofText? (text : String) : Option Url :=
  let chars := essence text
  let scheme := chars.takeWhile isSchemeChar
  match scheme, chars.drop scheme.length with
  | first :: _, ':' :: rest =>
      if first.isAlpha then
        let name := String.ofList (scheme.map Text.lowerAscii)
        if needsHost name then withHost? name rest else general? name rest
      else none
  | _, _ => none

/-- Where a request for the URL goes: the URL as it is shown, without its fragment. -/
def target (url : Url) : String :=
  String.ofList (Text.beforeFirst '#' url.shown.toList)

/-- Whether requests can be made to addresses of the scheme. -/
def isRequestable (url : Url) : Bool :=
  url.scheme = "http" || url.scheme = "https"

end Url

end ServingPreset
