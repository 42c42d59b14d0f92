import Destructure.Value.Basic

set_option autoImplicit false

/-! # Equality of values

Values of different kinds are never equal. Sequences are equal item by item, mappings when they have
equally many entries and every entry of one is found in the other, whatever the order. Objects are
equal when they are the same object, or when the domain of the first one says so. What that says is up
to the domain: nothing makes it symmetric or transitive. -/

namespace Destructure

/-- Whether the domain of the first object holds it equal to the second one, which may have been made in
another place. -/
def SealedObject.alike (a b : SealedObject) : Bool := a.sameAs b.toAppearance

namespace Value

mutual

/-- Equality of values. -/
def equals : Value → Value → Bool
  | .null, .null => true
  | .bool a, .bool b => a == b
  | .number a, .number b => a.equals b
  | .text a, .text b => a == b
  | .sequence a, .sequence b => equalItems a b
  | .mapping a, .mapping b => a.length == b.length && equalEntries a b
  | .callable a _, .callable b _ => a == b
  | .option a x, .option b y => a == b || equalContents x y
  | .marker a _, .marker b _ => a == b
  | .sealed a x, .sealed b y => a == b || x.alike y
  | _, _ => false

def equalItems : List Value → List Value → Bool
  | [], [] => true
  | a :: as, b :: bs => a.equals b && equalItems as bs
  | _, _ => false

/-- Whether every entry of the first list is found in the second. -/
def equalEntries : List (String × Value) → List (String × Value) → Bool
  | [], _ => true
  | (key, a) :: rest, other =>
    (match Entries.find? key other with
      | some b => a.equals b
      | none => false) && equalEntries rest other

def equalContents : Option Value → Option Value → Bool
  | none, none => true
  | some a, some b => a.equals b
  | _, _ => false

end

end Value

end Destructure
