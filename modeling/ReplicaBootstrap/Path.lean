import ReplicaBootstrap.Text.Blank

/-! # Paths

Joining and taking apart paths with slashes, and their normal form.
-/

namespace ReplicaBootstrap.Path

/-- `name` inside the directory `dir`; a name from the root stands alone. -/
def joinChars (dir name : List Char) : List Char :=
  if name.head? == some '/' then name
  else if dir.isEmpty || dir.getLast? == some '/' then dir ++ name
  else dir ++ '/' :: name

def join (dir name : String) : String :=
  String.ofList (joinChars dir.toList name.toList)

/-- The part before the last slash, without slashes at its end unless it has nothing else. -/
def directoryChars (cs : List Char) : List Char :=
  let head := (cs.reverse.dropWhile (· ≠ '/')).reverse
  if head.all (· = '/') then head else (head.reverse.dropWhile (· = '/')).reverse

def directory (path : String) : String :=
  String.ofList (directoryChars path.toList)

/-- The names that lead from the root along some components: a `.` stays where it is and a `..` goes
back. The names passed so far come in reverse. -/
def walk : (passed : List (List Char)) → List (List Char) → List (List Char)
  | passed, [] => passed.reverse
  | passed, c :: rest =>
    if c.isEmpty || c = ['.'] then walk passed rest
    else if c = ['.', '.'] then walk passed.tail rest
    else walk (c :: passed) rest

/-- Two slashes at the root are kept apart from one; more stand for one. -/
def rootChars (cs : List Char) : List Char :=
  if cs.takeWhile (· = '/') = ['/', '/'] then ['/', '/'] else ['/']

def absoluteChars (workingDirectory path : List Char) : List Char :=
  let whole := joinChars workingDirectory path
  rootChars whole ++ ['/'].intercalate (walk [] (Text.splitChars '/' whole))

def absolute (workingDirectory path : String) : String :=
  String.ofList (absoluteChars workingDirectory.toList path.toList)

end ReplicaBootstrap.Path
