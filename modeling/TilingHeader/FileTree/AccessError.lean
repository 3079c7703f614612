namespace TilingHeader.FileTree

/-! Why a file or a directory could not be used. -/

inductive AccessError where
  | noEntry
  | alreadyExists
  | notDirectory
  | isDirectory
  | nameTooLong
  | tooManyLinks
  /-- The bytes are not the encoding of a text. -/
  | notText
  deriving DecidableEq, Repr

def AccessError.message : AccessError → String
  | .noEntry => "No such file or directory (os error 2)"
  | .alreadyExists => "File exists (os error 17)"
  | .notDirectory => "Not a directory (os error 20)"
  | .isDirectory => "Is a directory (os error 21)"
  | .nameTooLong => "File name too long (os error 36)"
  | .tooManyLinks => "Too many levels of symbolic links (os error 40)"
  | .notText => "stream did not contain valid UTF-8"

end TilingHeader.FileTree
