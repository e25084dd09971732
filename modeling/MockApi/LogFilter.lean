import MockApi.Config

/-!
# Log filters

What is logged is said by a filter: directives between commas, each a level, a target, or a target with a
level behind a sign of equality. A target may be followed by a span in square brackets, which may name
fields between braces.
-/

namespace MockApi

namespace LogFilter

open Text

def levelNames : List String := ["error", "warn", "info", "debug", "trace", "off"]

/-- Whether a text is a level: a name in any case, a digit up to five, or nothing. -/
def isLevel (s : List Char) : Bool :=
  s.isEmpty || levelNames.contains (lowerAscii (String.ofList s)) || (readNat? 6 s).isSome

def startsTarget (c : Char) : Bool := c == '-' || c == ':' || c == '_' || isAlphanumeric c

def endsDirective : List Char → Bool
  | [] => true
  | '=' :: level => isLevel level
  | _ => false

def pastSpan? (s : List Char) : Option (List Char) :=
  match s.dropWhile fun c => c ≠ ']' ∧ c ≠ '\x7b' with
  | ']' :: rest => some rest
  | '\x7b' :: rest =>
    let fields := rest.takeWhile (· ≠ '\x7d')
    match rest.drop fields.length with
    | '\x7d' :: ']' :: rest => if fields.isEmpty then none else some rest
    | _ => none
  | _ => none

def isDirective (s : List Char) : Bool :=
  match trimChars s with
  | [] => false
  | '[' :: rest => (pastSpan? rest).any endsDirective
  | c :: rest =>
    startsTarget c && match rest.dropWhile fun c => c ≠ '=' ∧ c ≠ '[' with
      | '[' :: rest => (pastSpan? rest).any endsDirective
      | rest => endsDirective rest

/-- Whether the text is a filter. Empty directives do not count. -/
def isValid (filter : String) : Bool :=
  ((splitOn ',' filter.toList).filter (!·.isEmpty)).all isDirective

end LogFilter

namespace Config

def filterVariable : String := "RUST_LOG"

/-- Fails if logging is on and there is no filter for it. -/
def Telemetry.prepare (t : Telemetry) (filter : Option String) : Except Error Unit :=
  if !t.enabled || filter.any LogFilter.isValid || LogFilter.isValid t.logLevel then .ok ()
  else refuse "telemetry.log_level" "Invalid log level: not a filter"

end Config

end MockApi
