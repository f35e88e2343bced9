import RustOutline.Outline.Assembly
import RustOutline.Outline.Diagnostic

/-! Extraction of one file: diagnostics and the root scope. It never fails; what the parser could
not read is reported and left out. -/
namespace RustOutline

structure Response where
  success : Bool
  parseTimeMs : Int
  diagnostics : List Diagnostic
  file : Scope
deriving Inhabited

def extract (source : Utf8.Bytes) (root : Node) (includePrivate : Bool) (parseTimeMs : Int) :
    Response :=
  let diagnostics := root.diagnose source
  { success := diagnostics.isEmpty, parseTimeMs, diagnostics,
    file := fileScope source includePrivate root }

end RustOutline
