/-!
# Visible characters

What is left of a text without control characters, white space aside, and without the
escape sequences that steer a terminal.
-/

namespace ServingPreset

namespace Text

/-- Where a scan for escape sequences stands. -/
inductive EscapeState where
  | outside
  | opened
  /-- Inside a sequence that ends with the first character from the digits on. -/
  | short
  /-- Inside a sequence of parameters that ends with the first character from `@` on. -/
  | parameters
  /-- Inside a string that another sequence ends, or a bell if it may. -/
  | string (endsWithBell : Bool)
deriving DecidableEq, Repr, Inhabited

namespace EscapeState

/-- The state behind the character that follows an escape character. -/
def behindEscape (char : Char) : EscapeState :=
  if char = '[' then .parameters
  else if char = ']' then .string true
  else if ['P', 'X', '^', '_'].contains char then .string false
  else if ' ' ≤ char ∧ char ≤ '/' then .short
  else if '0' ≤ char ∧ char ≤ '~' then .outside
  else .opened

/-- The state behind a character. -/
def advance (state : EscapeState) (char : Char) : EscapeState :=
  if char = '\x1b' then .opened
  else if char = '\x18' ∨ char = '\x1a' then .outside
  else
    match state with
    | .outside => .outside
    | .opened => behindEscape char
    | .short => if '0' ≤ char ∧ char ≤ '~' then .outside else .short
    | .parameters => if '@' ≤ char ∧ char ≤ '~' then .outside else .parameters
    | .string endsWithBell =>
        if endsWithBell && char = '\x07' then .outside else .string endsWithBell

/-- Whether the scan is inside a string. -/
def isString : EscapeState → Bool
  | .string _ => true
  | _ => false

end EscapeState

/-- Whether a control character lays out text; it ends any sequence but a string. -/
def isLayout (char : Char) : Bool :=
  char = '\t' || char = '\n' || char = '\x0c' || char = '\r'

/-- The visible characters from a state on. -/
def visibleFrom (state : EscapeState) : List Char → List Char
  | [] => []
  | char :: rest =>
      if isLayout char && !state.isString then char :: visibleFrom .outside rest
      else
        let later := visibleFrom (state.advance char) rest
        if state = .outside && ' ' ≤ char && char ≠ '\x7f' then char :: later else later

/-- The visible characters of a text. -/
def visible (chars : List Char) : List Char :=
  visibleFrom .outside chars

end Text

end ServingPreset
