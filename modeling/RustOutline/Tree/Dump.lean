import RustOutline.Tree
import RustOutline.Value

/-! Trees as a parser dumps them. A node is an array of its kind, its field or null, its flags, the
byte range, row and column of both ends, and its children. Flag 1 marks a named node, 2 a missing
one, 4 error recovery at or below it. -/
namespace RustOutline.Node

def hasFlag (flags : Int) (bit : Nat) : Bool := flags.toNat / bit % 2 == 1

def fieldOf? : Value → Option (Option String)
  | .null => some none
  | .str s => some (some s)
  | _ => none

mutual
def ofValue? : Value → Option Node
  | .arr [.str kind, field, .int flags, .int start, .int stop, .int row, .int column, .int endRow,
      .int endColumn, .arr children] =>
    match fieldOf? field, ofValues? children with
    | some field, some children => some {
        kind, field
        named := hasFlag flags 1
        missing := hasFlag flags 2
        hasError := hasFlag flags 4
        start := start.toNat
        stop := stop.toNat
        startPoint := ⟨row.toNat, column.toNat⟩
        endPoint := ⟨endRow.toNat, endColumn.toNat⟩
        children }
    | _, _ => none
  | _ => none

def ofValues? : List Value → Option (List Node)
  | [] => some []
  | v :: vs => match ofValue? v, ofValues? vs with
    | some n, some ns => some (n :: ns)
    | _, _ => none
end

end RustOutline.Node
