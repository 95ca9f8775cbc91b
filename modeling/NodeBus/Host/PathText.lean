/-!
# The text of a path

Slashes separate the parts of a path, however many stand together. A path that starts with a slash begins at
the root, any other in the working directory. One dot stays where it is, two dots go back to the directory
above. Whether a slash follows the last part matters: it says that the part is a directory.
-/
namespace NodeBus

inductive PathPart where
  | same
  | parent
  | name (name : String)
  deriving DecidableEq, Repr

structure PathText where
  fromRoot : Bool
  parts : List PathPart
  slashed : Bool
  deriving DecidableEq, Repr

namespace PathText

def split : List Char → List (List Char)
  | [] => [[]]
  | character :: rest =>
    if character = '/' then [] :: split rest
    else
      match split rest with
      | [] => [[character]]
      | first :: others => (character :: first) :: others

/-- The part between two slashes, unless there is nothing between them. -/
def part? (characters : List Char) : Option PathPart :=
  if characters = [] then none
  else if characters = ['.'] then some .same
  else if characters = ['.', '.'] then some .parent
  else some (.name (String.ofList characters))

def ofText (text : String) : PathText where
  fromRoot := text.toList.head? == some '/'
  parts := (split text.toList).filterMap part?
  slashed := text.toList.getLast? == some '/'

end PathText

end NodeBus
