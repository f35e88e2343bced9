import RustOutline.Log.Event
import RustOutline.Outline.Response
import RustOutline.Value

/-! What extraction writes to the log: a warning per diagnostic, then a summary. -/
namespace RustOutline
open Log

def journalName : String := "rustsyms.extract"

def Diagnostic.event (filePath : Option String) (d : Diagnostic) : Event :=
  .ofLogger journalName .warning "rust_syntax_error" [
    ("file_path", .text? filePath), ("message", .str d.message),
    ("line", .ofOption (fun s => .int s.startLine) d.span),
    ("column", .ofOption (fun s => .int s.startColumn) d.span)]

def Response.summaryEvent (filePath : Option String) (edition : String) (includePrivate : Bool)
    (r : Response) : Event :=
  .ofLogger journalName .debug "rust_file_extracted" [
    ("file_path", .text? filePath), ("edition", .str edition),
    ("include_private", .bool includePrivate), ("items", .int r.file.items.length),
    ("module_references", .int r.file.references.length),
    ("diagnostics", .int r.diagnostics.length), ("parse_time_ms", .int r.parseTimeMs)]

def Response.journal (filePath : Option String) (edition : String) (includePrivate : Bool)
    (r : Response) : List Event :=
  r.diagnostics.map (Diagnostic.event filePath) ++
    [r.summaryEvent filePath edition includePrivate]

end RustOutline
