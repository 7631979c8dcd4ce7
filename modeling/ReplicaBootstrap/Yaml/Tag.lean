import ReplicaBootstrap.Yaml.Timestamp

/-! # Tags

The kinds of value that a node of a document can be marked as, and the kind that the text of an
unmarked plain scalar shows.
-/

namespace ReplicaBootstrap.Yaml

inductive Tag where
  | null
  | bool
  | int
  | float
  | binary
  | timestamp
  | omap
  | pairs
  | set
  | text
  | sequence
  | mapping
  /-- a key whose value gives further entries -/
  | merge
  /-- a key whose value stands for the whole mapping -/
  | value
  | unknown
  deriving DecidableEq, Repr

namespace Tag

def family : String := "tag:yaml.org,2002:"

def known : List (String × Tag) := [
    ("null", null), ("bool", bool), ("int", int), ("float", float), ("binary", binary),
    ("timestamp", timestamp), ("omap", omap), ("pairs", pairs), ("set", set), ("str", text),
    ("seq", sequence), ("map", mapping), ("merge", merge), ("value", value)]

def ofName (name : String) : Tag :=
  ((known.find? fun (short, _) => family ++ short == name).map (·.2)).getD unknown

/-! ## The tag that a text shows -/

def isSign (c : Char) : Bool := c = '+' || c = '-'

def dropSign : List Char → List Char
  | c :: rest => if isSign c then rest else c :: rest
  | [] => []

def isDigitOrUnderscore (c : Char) : Bool := c.isDigit || c = '_'

def isDigits : List Char → Bool
  | c :: rest => c.isDigit && rest.all isDigitOrUnderscore
  | [] => false

def isLeadingDigits (cs : List Char) : Bool := isDigits cs && cs.head? != some '0'

/-- One or more parts behind colons, each of one or two digits below sixty. -/
def isSixtieths : List Char → Bool
  | [':', a] => a.isDigit
  | [':', a, b] => '0' ≤ a && a ≤ '5' && b.isDigit
  | ':' :: a :: ':' :: rest => a.isDigit && isSixtieths (':' :: rest)
  | ':' :: a :: b :: ':' :: rest => '0' ≤ a && a ≤ '5' && b.isDigit && isSixtieths (':' :: rest)
  | _ => false

def splitAt (good : Char → Bool) (cs : List Char) : List Char × List Char :=
  (cs.takeWhile (!good ·), cs.dropWhile (!good ·))

def showsInt (cs : List Char) : Bool :=
  match dropSign cs with
  | '0' :: 'b' :: digits => !digits.isEmpty && digits.all fun c => c = '0' || c = '1' || c = '_'
  | '0' :: 'x' :: digits =>
    !digits.isEmpty && digits.all fun c =>
      c.isDigit || ('a' ≤ c && c ≤ 'f') || ('A' ≤ c && c ≤ 'F') || c = '_'
  | ['0'] => true
  | '0' :: digits => digits.all fun c => ('0' ≤ c && c ≤ '7') || c = '_'
  | body =>
    let (whole, sixtieths) := splitAt (· = ':') body
    isLeadingDigits whole && (sixtieths.isEmpty || isSixtieths sixtieths)

def isExponent : List Char → Bool
  | [] => true
  | e :: sign :: digits =>
    (e = 'e' || e = 'E') && isSign sign && !digits.isEmpty && digits.all Char.isDigit
  | _ => false

def isFraction (cs : List Char) : Bool :=
  isExponent (cs.dropWhile isDigitOrUnderscore)

def showsFloat (cs : List Char) : Bool :=
  let body := dropSign cs
  let (whole, point) := splitAt (· = '.') body
  let (first, sixtieths) := splitAt (· = ':') whole
  match point with
  | [] => false
  | _ :: fraction =>
    (isDigits whole && isFraction fraction) ||
      (cs.head? = some '.' && isDigits (fraction.takeWhile isDigitOrUnderscore) &&
        isFraction fraction) ||
      (isDigits first && isSixtieths sixtieths && fraction.all isDigitOrUnderscore) ||
      ["inf", "Inf", "INF"].contains (String.ofList fraction) && whole.isEmpty ||
      [".nan", ".NaN", ".NAN"].contains (String.ofList cs)

def showsBool (cs : List Char) : Bool :=
  ["yes", "Yes", "YES", "no", "No", "NO", "true", "True", "TRUE", "false", "False", "FALSE",
    "on", "On", "ON", "off", "Off", "OFF"].contains (String.ofList cs)

def showsNull (cs : List Char) : Bool :=
  ["", "~", "null", "Null", "NULL"].contains (String.ofList cs)

def showsTimestamp (cs : List Char) : Bool :=
  (TimestampFields.read? cs).any (·.showsItself)

def withoutFinalBreak (cs : List Char) : List Char :=
  if 1 < cs.length && cs.getLast? = some '\n' then cs.dropLast else cs

/-- The tag that a text shows, whatever its quotes. The signs of anchors, aliases and tags show a tag
that no value has. -/
def shownBy (s : String) : Tag :=
  let cs := withoutFinalBreak s.toList
  if showsBool cs then bool
  else if showsFloat cs then float
  else if showsInt cs then int
  else if cs = ['<', '<'] then merge
  else if showsNull cs then null
  else if showsTimestamp cs then timestamp
  else if cs = ['='] then value
  else if cs = ['!'] || cs = ['&'] || cs = ['*'] then unknown
  else text

end Tag

end ReplicaBootstrap.Yaml
