import HomeTiles.Path

/-!
# The product: its title and where it keeps its preferences
-/

namespace HomeTiles

/-- The title of the product, which is also the owner of its settings file. -/
def productTitle : String := "Launchpad"

def stateFileName : String := "launchpad_state.json"

/-- The preferences file of a product that is installed in a directory. -/
def statePath (base : Path) : Path := base.child stateFileName

end HomeTiles
