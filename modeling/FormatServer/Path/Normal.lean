import FormatServer.Path.Basic

/-!
Paths written shortest: no dots, and no step up after a name. Nothing is looked up, so a step up
takes back the name before it whatever that name stands for.
-/

namespace FormatServer

namespace Component

def segment : Component → Segment
  | root => []
  | here => Segment.here
  | up => Segment.up
  | name value => value

/-- Puts a component on the ones kept, which are listed from the last. -/
def push (kept : List Component) : Component → List Component
  | here => kept
  | up =>
    match kept with
    | root :: _ => kept
    | name _ :: more => more
    | _ => up :: kept
  | other => other :: kept

end Component

namespace Path

/-- The path with these components. -/
def ofComponents : List Component → Path
  | [] => ⟨Segment.here⟩
  | .root :: rest => ⟨slash :: joined (rest.map Component.segment)⟩
  | other => ⟨joined (other.map Component.segment)⟩

def normal (path : Path) : Path :=
  ofComponents (path.components.foldl Component.push []).reverse

end Path

end FormatServer
