-- Paths as text. Slashes part the names; one in front means the root.

namespace SixStage.Path

def isAbsolute (p : String) : Bool := p.startsWith "/"

/-- The path of a name in a directory. -/
def join (dir name : String) : String :=
  if dir.isEmpty then name else if dir.endsWith "/" then dir ++ name else s!"{dir}/{name}"

def names (p : String) : List String := (p.splitOn "/").filter fun n => !n.isEmpty

/-- The names along a path without those that stay where they are. A relative
path keeps one in front. -/
def directNames (p : String) : List String :=
  match names p with
  | [] => []
  | n :: l =>
    let direct := l.filter fun m => m ≠ "."
    if n = "." ∧ isAbsolute p then direct else n :: direct

end SixStage.Path
