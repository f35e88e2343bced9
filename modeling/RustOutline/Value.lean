import RustOutline.Decimal.Binary

namespace RustOutline

/-- The name of a field. Only settings files have names that are no texts; a double is given by its
bits. -/
inductive Key where
  | text (s : String)
  | null
  | bool (b : Bool)
  | int (n : Int)
  | real (bits : UInt64)
deriving DecidableEq, Repr, Inhabited

instance : Coe String Key := ⟨Key.text⟩

def Key.text? : Key → Option String
  | .text s => some s
  | _ => none

/-- What a name names. Numbers of one size are one name, whatever their kind; true counts as one and
false as zero. -/
def Key.ident : Key → Key
  | .bool b => .int (if b then 1 else 0)
  | .real bits => match Decimal.Double.ofBits bits with
    | .finite d => d.whole?.elim (.real bits) .int
    | .infinite _ => .real bits
    | .nan => .real 0x7FF8000000000000
  | k => k

/-- A value whose shape is known only when it is read. Fields of an object keep their order. A
`foreign` value has no JSON form; its text says why. -/
inductive Value where
  | null
  | bool (b : Bool)
  | int (n : Int)
  | real (x : Float)
  | str (s : String)
  | arr (items : List Value)
  | obj (fields : List (Key × Value))
  | foreign (reason : String)
deriving Inhabited

abbrev Fields := List (Key × Value)

namespace Fields

def get? (name : Key) : Fields → Option Value
  | [] => none
  | (k, v) :: rest => if k.ident = name.ident then some v else get? name rest

/-- Replaces the field with this name where it stands, or adds it at the end. The spelling that was
there first stays. -/
def put (name : Key) (value : Value) : Fields → Fields
  | [] => [(name, value)]
  | (k, v) :: rest =>
    if k.ident = name.ident then (k, value) :: rest else (k, v) :: put name value rest

def putNew (name : Key) (value : Value) (fs : Fields) : Fields :=
  if (get? name fs).isSome then fs else put name value fs

def without (name : Key) (fs : Fields) : Fields := fs.filter fun (k, _) => k.ident != name.ident

def named (fs : Fields) : List (String × Value) :=
  fs.filterMap fun (k, v) => k.text?.map fun name => (name, v)

def names (fs : Fields) : List Key := fs.map fun f => f.1.ident

/-- No two fields share a name, as in every object. -/
def Distinct (fs : Fields) : Prop := fs.names.Nodup

instance (fs : Fields) : Decidable fs.Distinct := inferInstanceAs (Decidable fs.names.Nodup)

end Fields

def Value.IsMapping (v : Value) : Prop := ∀ fs, v = .obj fs → Fields.Distinct fs

/-- Fields of which no two share a name, in themselves and in each object that they hold. -/
structure Fields.IsMapping (fs : Fields) : Prop where
  distinct : fs.Distinct
  values : ∀ f ∈ fs, f.2.IsMapping

namespace Value

def field? (name : Key) : Value → Option Value
  | .obj fs => Fields.get? name fs
  | _ => none

def isObject : Value → Bool
  | .obj _ => true
  | _ => false

/-- No two fields of an object share a name, in the value itself and in all that names lead to. -/
inductive Unambiguous : Value → Prop
  | object {fs : Fields} (distinct : fs.Distinct) (values : ∀ f ∈ fs, Unambiguous f.2) :
      Unambiguous (.obj fs)
  | leaf {v : Value} (plain : v.isObject = false) : Unambiguous v

def isNull : Value → Bool
  | .null => true
  | _ => false

/-- Zero, what is empty and what is absent count as false. -/
def isTruthy : Value → Bool
  | .null => false
  | .bool b => b
  | .int n => n != 0
  | .real x => x != 0.0
  | .str s => s != ""
  | .arr items => !items.isEmpty
  | .obj fields => !fields.isEmpty
  | .foreign _ => true

def ofOption {α : Type} (f : α → Value) : Option α → Value
  | none => .null
  | some a => f a

def text? : Option String → Value := ofOption .str

end Value

def Fields.Unambiguous (fs : Fields) : Prop := Value.Unambiguous (.obj fs)

end RustOutline
