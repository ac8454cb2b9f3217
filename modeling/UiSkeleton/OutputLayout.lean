/-
Where the files of an example go below the root of the output:

  ROOT/NAME.EXT              the skeleton
  ROOT/reference/NAME.rs     the source
  ROOT/reports/NAME.EXT      the report
  ROOT/screenshots/NAME/     pictures, which are taken elsewhere
  ROOT/assets/FONT           the font of the skeleton
-/
import UiSkeleton.Path

namespace UiSkeleton

/-- The extension of the sources of examples, with its point. -/
def sourceExtension : String := ".rs"

/-- The root of the output. -/
structure OutputLayout where
  root : Path
  deriving DecidableEq, Repr

namespace OutputLayout

/-- The path of a file directly below the root. -/
def skeleton (layout : OutputLayout) (fileName : String) : Path :=
  layout.root.join (.ofText fileName)

/-- The path of a copy of an example's source. -/
def reference (layout : OutputLayout) (name : String) : Path :=
  (layout.root.join (.ofText "reference")).join (.ofText (name ++ sourceExtension))

/-- The path of a report. -/
def report (layout : OutputLayout) (fileName : String) : Path :=
  (layout.root.join (.ofText "reports")).join (.ofText fileName)

/-- The directory of an example's pictures. -/
def screenshots (layout : OutputLayout) (name : String) : Path :=
  (layout.root.join (.ofText "screenshots")).join (.ofText name)

/-- The name of a copied file whose path has none. -/
def namelessAsset : String := "asset"

/-- The path of a copied file, which keeps its name. -/
def asset (layout : OutputLayout) (source : Path) : Path :=
  (layout.root.join (.ofText "assets")).join
    ⟨source.fileName?.getD namelessAsset.toList⟩

end OutputLayout
end UiSkeleton
