import RustOutline.Decimal.Whole
import RustOutline.Settings.Environment
import RustOutline.Text.Blank
import RustOutline.Tracing.Fault

/-! How much a span keeps. Of the OpenTelemetry SDK this is assumed: a limit is a variable with a
number that is not negative, an empty one is no limit, and anything else is refused; a limit for all
attributes, or for all texts, is the default of the special ones; beyond its limit a span drops the
oldest attribute first, and texts are cut at their ends. -/
namespace RustOutline.Tracing

/-- Limits of a span; `none` is no limit. -/
structure Limits where
  events : Option Nat := some 128
  attributes : Option Nat := some 128
  eventAttributes : Option Nat := some 128
  /-- The length of texts in attributes of the span, and elsewhere. -/
  spanText : Option Nat := none
  text : Option Nat := none
deriving DecidableEq, Repr, Inhabited

namespace Limits

/-- The limit in a variable: a number, or nothing for none at all. -/
def ofVariable (env : Environment) (name : String) (default : Option Nat) :
    Except SetupFault (Option Nat) :=
  match env.get? name with
  | none => .ok default
  | some value =>
    let text := Text.lower (Text.strip value)
    if text == "" then .ok none
    else match Decimal.ofText? text.toList with
      | some (.ofNat n) => .ok (some n)
      | some n => .error (.limit name (toString n))
      | none => .error (.limit name text)

/-- The limits that an environment sets. Those of links are checked, though no span has any. -/
def ofEnvironment (env : Environment) : Except SetupFault Limits := do
  let events ← ofVariable env "OTEL_SPAN_EVENT_COUNT_LIMIT" (some 128)
  let _ ← ofVariable env "OTEL_SPAN_LINK_COUNT_LIMIT" (some 128)
  let common ← ofVariable env "OTEL_ATTRIBUTE_COUNT_LIMIT" none
  let default := common.getD 128
  let attributes ← ofVariable env "OTEL_SPAN_ATTRIBUTE_COUNT_LIMIT" (some default)
  let eventAttributes ← ofVariable env "OTEL_EVENT_ATTRIBUTE_COUNT_LIMIT" (some default)
  let _ ← ofVariable env "OTEL_LINK_ATTRIBUTE_COUNT_LIMIT" (some default)
  let text ← ofVariable env "OTEL_ATTRIBUTE_VALUE_LENGTH_LIMIT" none
  let spanText ← ofVariable env "OTEL_SPAN_ATTRIBUTE_VALUE_LENGTH_LIMIT" text
  return { events, attributes, eventAttributes, spanText, text }

end Limits

def cutText (most : Option Nat) (s : String) : String :=
  match most with
  | none => s
  | some n => String.ofList (s.toList.take n)

mutual
/-- A value as an attribute keeps it: texts are cut, and inner fields without a name are left
out. -/
def cut (most : Option Nat) : Value → Value
  | .str s => .str (cutText most s)
  | .arr items => .arr (cutItems most items)
  | .obj fields => .obj (cutFields most fields)
  | v => v

def cutItems (most : Option Nat) : List Value → List Value
  | [] => []
  | v :: vs => cut most v :: cutItems most vs

def cutFields (most : Option Nat) : List (Key × Value) → List (Key × Value)
  | [] => []
  | (k, v) :: rest =>
    if k = .text "" then cutFields most rest else (k, cut most v) :: cutFields most rest
end

/-- Sets an attribute, which becomes the newest. If there is no room for it, the oldest one goes. -/
def keep (most : Option Nat) (name : Key) (v : Value) (attributes : Fields) : Fields :=
  match most with
  | some 0 => attributes
  | most =>
    let others := Fields.without name attributes
    let room := if most == some others.length then others.drop 1 else others
    room ++ [(name, v)]

def setAttributes (count length : Option Nat) (attributes new : Fields) : Fields :=
  new.foldl (fun fs (k, v) =>
    keep count k (if k = .text "" then .null else cut length v) fs) attributes

end RustOutline.Tracing
