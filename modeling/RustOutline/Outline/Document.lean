import RustOutline.Failure
import RustOutline.Json.Printer
import RustOutline.Outline.Schema

/-! Results as JSON documents: a whole document or a failure, never a part. -/
namespace RustOutline

/-- How values become text; the result of a failure is its reason. -/
abbrev Encoder := Json.Indent → Value → Except String String

def Encoder.standard (nesting : Json.Nesting) : Encoder := Json.print nesting

def Encoder.failing (reason : String) : Encoder := fun _ _ => .error reason

def Encoder.document (encode : Encoder) (indent : Json.Indent) (v : Value) :
    Except Failure String :=
  (encode indent v).mapError Failure.serialization

def dumpJson (nesting : Json.Nesting) (indent : Json.Indent) (v : Value) : Except Failure String :=
  (Encoder.standard nesting).document indent v

def Response.document (encode : Encoder) (indent : Json.Indent) (r : Response) :
    Except Failure String :=
  encode.document indent r.toValue

def ModuleSummary.document (encode : Encoder) (indent : Json.Indent) (ms : List ModuleSummary) :
    Except Failure String :=
  encode.document indent (.arr (ms.map ModuleSummary.toValue))

end RustOutline
