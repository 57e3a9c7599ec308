import Scaffold.Path

/-!
# Platform projects

A platform's project is a bundle directory with a project file inside. Its product is named by
the bundle, up to the first dot.
-/

namespace Scaffold

structure ProjectManifest where
  product : String
  /-- The project file. -/
  file : Path
deriving DecidableEq, Inhabited

namespace ProjectManifest

def bundleEnding : List Char := ".xcodeproj".toList

def fileName : List Char := "project.pbxproj".toList

def isBundle (name : String) : Bool :=
  Text.endsWith bundleEnding name.toList

/-- The manifest that a bundle in a directory stands for. -/
def ofBundle (dir : Path) (bundle : String) : ProjectManifest :=
  let product := bundle.toList.takeWhile (· ≠ '.')
  { product := String.ofList product
    file := (dir.join ⟨product ++ bundleEnding⟩).join ⟨fileName⟩ }

end ProjectManifest

end Scaffold
