/-!
How the lines of a text are joined in a YAML document. One end of a line becomes a space, more of
them lose the first.
-/
namespace MissionTracking.Yaml

/-- What stands between two parts of a text: white space on one line, or a number of ends of
lines. -/
structure Gap where
  spaces : List Char
  breaks : Nat
  /-- The first end of a line was escaped, so it stands for nothing. -/
  isEscaped : Bool

namespace Gap

def none : Gap := ⟨[], 0, false⟩

def hasBreak (g : Gap) : Bool := g.isEscaped || g.breaks != 0

def withSpace (g : Gap) (c : Char) : Gap :=
  if g.hasBreak then g else { g with spaces := g.spaces ++ [c] }

def withBreak (g : Gap) : Gap := { g with spaces := [], breaks := g.breaks + 1 }

def folded (g : Gap) : List Char :=
  if g.isEscaped then List.replicate g.breaks '\n'
  else
    match g.breaks with
    | 0 => g.spaces
    | 1 => [' ']
    | breaks + 1 => List.replicate breaks '\n'

end Gap
end MissionTracking.Yaml
