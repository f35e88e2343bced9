import RustOutline.Value

/-! Laying one set of fields over another: objects are merged field by field, anything else is
replaced. -/
namespace RustOutline

mutual
/-- The fields of `base`, changed by the fields laid over them. New fields come last. -/
def Fields.overlay (base : List (Key × Value)) : List (Key × Value) → List (Key × Value)
  | [] => base
  | (k, v) :: rest => Fields.overlay (Fields.put k (Value.over (Fields.get? k base) v) base) rest

def Value.over (old : Option Value) : Value → Value
  | .obj fs => match old with
    | some (.obj base) => .obj (Fields.overlay base fs)
    | _ => .obj fs
  | v => v
end

def Fields.overlayAll (layers : List Fields) : Fields := layers.foldl Fields.overlay []

end RustOutline
