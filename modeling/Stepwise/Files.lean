import Stepwise.Error
import Stepwise.Text.Utf8

/-!
# Files that are read

Reading a file gives its bytes or the system's reason not to. What depends on a file takes this
result, so that it is a function of what was read.
-/

namespace Stepwise

/-- What reading a file gives: its bytes, or why it cannot be read. -/
abbrev FileRead := Except SystemFault Bytes

namespace FileRead

/-- The text of a file, which has to be UTF-8. -/
def text (file : FileRead) : Except SystemFault String :=
  file.bind fun bytes => match Utf8.decode? bytes with
    | some text => .ok text
    | none => .error .notUtf8

/-- Whether there is nothing at the path that was read. -/
def isAbsent : FileRead → Bool
  | .error .notFound | .error .notDirectory | .error .invalidName | .error .nameTooLong => true
  | _ => false

end FileRead

end Stepwise
