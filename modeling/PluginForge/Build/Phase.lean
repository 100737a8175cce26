/-
The phases of the engine. All phases that were entered are kept, the present one first.
-/
namespace PluginForge

inductive Phase where
  | idle
  | ingesting
  | compiling
  | retrying
  | success
  | failed
deriving DecidableEq, Repr, Inhabited

namespace Phase

def name : Phase → String
  | .idle => "Idle"
  | .ingesting => "Ingesting"
  | .compiling => "Compiling"
  | .retrying => "Retrying"
  | .success => "Success"
  | .failed => "Failed"

/-- The phases after one more was entered; the present one is not entered again. -/
def enter (phases : List Phase) (p : Phase) : List Phase :=
  if phases.head? = some p then phases else p :: phases

end Phase
end PluginForge
