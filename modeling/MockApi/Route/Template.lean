import MockApi.Json
import MockApi.Text.Address

/-!
# Path templates

A template is a path some of whose segments are parameters, written `:name` or with braces around the
name. Slashes separate segments, and empty segments do not count. A template fits a path that has equally
many segments and agrees in the literal ones; what stands in place of a parameter is its value, with
percent escapes resolved.
-/

namespace MockApi

namespace Route

def pathParts (path : List Char) : List (List Char) :=
  (Text.splitOn '/' path).filter (!·.isEmpty)

def joinPath (parts : List String) : String := "/" ++ Text.joinWith "/" parts

def normalizePath (path : String) : String :=
  joinPath ((pathParts path.toList).map String.ofList)

inductive Segment
  | literal (text : String)
  | param (name : String)
deriving DecidableEq

namespace Segment

def braced? : List Char → Option (List Char)
  | '\x7b' :: rest => Text.dropFinish ['\x7d'] rest
  | _ => none

def parse (raw : List Char) : Segment :=
  match raw with
  | ':' :: name => .param (String.ofList name)
  | raw => match braced? raw with
    | some name => .param (String.ofList name)
    | none => .literal (String.ofList raw)

/-- The one way to write a segment: a parameter stands in braces. -/
def text : Segment → String
  | literal s => s
  | param name => "\x7b" ++ name ++ "\x7d"

def isLiteral : Segment → Bool
  | literal _ => true
  | param _ => false

def param? : Segment → Option String
  | literal _ => none
  | param name => some name

end Segment

/-! ### Percent escapes -/

/-- The bytes of a text with its escapes resolved; a percent sign without two digits stands for
itself. -/
def unescapeBytes : List Char → List UInt8
  | [] => []
  | '%' :: a :: b :: rest =>
    match Address.hexDigit? a, Address.hexDigit? b with
    | some high, some low => UInt8.ofNat (high * 16 + low) :: unescapeBytes rest
    | _, _ => 37 :: unescapeBytes (a :: b :: rest)
  | c :: rest => c.toString.toUTF8.toList ++ unescapeBytes rest

def unescape (s : List Char) : String :=
  (String.fromUTF8? (ByteArray.mk (unescapeBytes s).toArray)).getD (String.ofList s)

end Route

abbrev Template := List Route.Segment

namespace Template

open Route

def parse (path : String) : Template := (pathParts path.toList).map Segment.parse

def text (t : Template) : String := joinPath (t.map Segment.text)

def params (t : Template) : List String := t.filterMap Segment.param?

def specificity (t : Template) : Nat := t.countP Segment.isLiteral

/-- The values of the parameters where the template fits segments of a path; of two parameters of one
name the later counts. -/
def matchParts (t : Template) (parts : List (List Char)) : Option (List (String × String)) :=
  match t, parts with
  | [], [] => some []
  | .literal s :: t, part :: parts =>
    if s.toList = part then matchParts t parts else none
  | .param name :: t, part :: parts => (matchParts t parts).map ((name, unescape part) :: ·)
  | _, _ => none

def matchPath (t : Template) (path : String) : Option (Table String) :=
  (t.matchParts (pathParts path.toList)).map Table.ofList

end Template

end MockApi
