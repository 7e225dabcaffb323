/-!
What a file system answers when it does not do what it was asked to do.
-/

namespace TechniqueScan

/-- Why files could not be read or written. -/
inductive SystemError where
  | notFound
  | notDirectory
  | isDirectory
  | alreadyThere
  /-- The bytes are there, but they are no text. -/
  | invalidText
  | other (text : String)
  deriving DecidableEq, Repr

def SystemError.message : SystemError → String
  | notFound => "No such file or directory (os error 2)"
  | notDirectory => "Not a directory (os error 20)"
  | isDirectory => "Is a directory (os error 21)"
  | alreadyThere => "File exists (os error 17)"
  | invalidText => "stream did not contain valid UTF-8"
  | other text => text

end TechniqueScan
