import DnsSteering.Number.Binary64
import DnsSteering.Text.Loose

namespace DnsSteering

-- The fields of an object keep their order, and no key stands twice.
inductive Json where
  | null
  | bool (b : Bool)
  | int (n : Int)
  | float (x : Binary64)
  | str (t : LooseText)
  | arr (items : List Json)
  | obj (fields : List (LooseText × Json))
  deriving Repr

namespace Json

-- Structural equality, finer than `same` below.
mutual
def beq : Json → Json → Bool
  | .null, .null => true
  | .bool a, .bool b => a == b
  | .int a, .int b => a == b
  | .float a, .float b => a == b
  | .str a, .str b => a == b
  | .arr a, .arr b => beqItems a b
  | .obj a, .obj b => beqFields a b
  | _, _ => false
def beqItems : List Json → List Json → Bool
  | [], [] => true
  | a :: as, b :: bs => beq a b && beqItems as bs
  | _, _ => false
def beqFields : List (LooseText × Json) → List (LooseText × Json) → Bool
  | [], [] => true
  | (k, a) :: as, (l, b) :: bs => k == l && beq a b && beqFields as bs
  | _, _ => false
end

mutual
theorem beq_eq : ∀ (a b : Json), beq a b = true → a = b
  | .null, b => by cases b <;> simp [beq]
  | .bool _, b => by cases b <;> simp [beq]
  | .int _, b => by cases b <;> simp [beq]
  | .float _, b => by cases b <;> simp [beq]
  | .str _, b => by cases b <;> simp [beq]
  | .arr xs, b => by
    cases b <;> simp [beq]
    exact beqItems_eq xs _
  | .obj xs, b => by
    cases b <;> simp [beq]
    exact beqFields_eq xs _
theorem beqItems_eq : ∀ (as bs : List Json), beqItems as bs = true → as = bs
  | [], bs => by cases bs <;> simp [beqItems]
  | a :: as, bs => by
    cases bs with
    | nil => simp [beqItems]
    | cons b bs =>
      simp only [beqItems, Bool.and_eq_true]
      rintro ⟨h, t⟩
      rw [beq_eq a b h, beqItems_eq as bs t]
theorem beqFields_eq : ∀ (as bs : List (LooseText × Json)), beqFields as bs = true → as = bs
  | [], bs => by cases bs <;> simp [beqFields]
  | (k, a) :: as, bs => by
    cases bs with
    | nil => simp [beqFields]
    | cons b bs =>
      obtain ⟨l, b⟩ := b
      simp only [beqFields, Bool.and_eq_true]
      rintro ⟨⟨hk, h⟩, t⟩
      rw [beq_eq a b h, beqFields_eq as bs t, show k = l by simpa using hk]
end

mutual
theorem beq_refl : ∀ a : Json, beq a a = true
  | .null => rfl
  | .bool _ => by simp [beq]
  | .int _ => by simp [beq]
  | .float _ => by simp [beq]
  | .str _ => by simp [beq]
  | .arr xs => by simpa [beq] using beqItems_refl xs
  | .obj xs => by simpa [beq] using beqFields_refl xs
theorem beqItems_refl : ∀ as : List Json, beqItems as as = true
  | [] => rfl
  | a :: as => by simp [beqItems, beq_refl a, beqItems_refl as]
theorem beqFields_refl : ∀ as : List (LooseText × Json), beqFields as as = true
  | [] => rfl
  | (k, a) :: as => by simp [beqFields, beq_refl a, beqFields_refl as]
end

instance : DecidableEq Json := fun a b =>
  decidable_of_iff (beq a b = true) ⟨beq_eq a b, fun h => h ▸ beq_refl a⟩

-- Nothing, zero, `false` and what is empty count as absent.
def truthy : Json → Bool
  | .null => false
  | .bool b => b
  | .int n => n ≠ 0
  | .float x => !(Number.double x).same (.whole 0)
  | .str t => t ≠ .plain ""
  | .arr items => !items.isEmpty
  | .obj fields => !fields.isEmpty

def number? : Json → Option Number
  | .bool b => some (.whole (if b then 1 else 0))
  | .int n => some (.whole n)
  | .float x => some (.double x)
  | _ => none

-- The kind of a value, as messages name it.
def kindName : Json → String
  | .null => "NoneType"
  | .bool _ => "bool"
  | .int _ => "int"
  | .float _ => "float"
  | .str _ => "str"
  | .arr _ => "list"
  | .obj _ => "dict"

def field? (key : LooseText) (fields : List (LooseText × Json)) : Option Json := fields.lookup key

-- A key that is there keeps its place, a new one goes to the end.
def setField (key : LooseText) (value : Json) : List (LooseText × Json) → List (LooseText × Json)
  | [] => [(key, value)]
  | (k, v) :: fields =>
    if k = key then (k, value) :: fields else (k, v) :: setField key value fields

def sameNumber (a b : Json) : Bool :=
  match a.number?, b.number? with
  | some x, some y => x.same y
  | _, _ => false

-- Values are the same by number, not by spelling: `true` is one, `1` is `1.0`, and objects are the same
-- whatever the order of their fields. A number that is none is the same as itself here.
mutual
def same : Json → Json → Bool
  | .null, .null => true
  | .str a, .str b => a == b
  | .arr a, .arr b => sameItems a b
  | .obj a, .obj b => a.length == b.length && sameFields a b
  | a, b => sameNumber a b
def sameItems : List Json → List Json → Bool
  | [], [] => true
  | a :: as, b :: bs => same a b && sameItems as bs
  | _, _ => false
def sameFields : List (LooseText × Json) → List (LooseText × Json) → Bool
  | [], _ => true
  | (k, a) :: as, bs =>
    (match field? k bs with
      | some b => same a b
      | none => false) && sameFields as bs
end

def isNoNumber (v : Json) : Bool := v = .float .nan

-- Compared as they are, and not looked up or inside of other values.
def equals (a b : Json) : Bool := !a.isNoNumber && same a b

-- Values that can be put in order among their like: nothing in them is a number that is none.
mutual
def isOrderly : Json → Bool
  | .float x => x ≠ .nan
  | .arr items => areOrderly items
  | .obj fields => haveOrderly fields
  | _ => true
def areOrderly : List Json → Bool
  | [] => true
  | item :: items => isOrderly item && areOrderly items
def haveOrderly : List (LooseText × Json) → Bool
  | [] => true
  | (_, value) :: fields => isOrderly value && haveOrderly fields
end

-- Only plain values identify something: a list or an object can be no key.
def canIdentify : Json → Bool
  | .arr _ => false
  | .obj _ => false
  | _ => true

-- What may be counted off one by one: the items of a list, the letters of a text, the keys of an
-- object.
def items? : Json → Option (List Json)
  | .arr items => some items
  | .str t => some (t.letters.map fun l => .str (.ofLetters [l]))
  | .obj fields => some (fields.map fun f => .str f.1)
  | _ => none

-- The order of values, where they have one: texts by code point, numbers by value, lists by the
-- first items that differ.
mutual
def less? : Json → Json → Option Bool
  | .str a, .str b => some (decide (a < b))
  | .arr a, .arr b => lessItems? a b
  | a, b =>
    match a.number?, b.number? with
    | some x, some y => some (x.less y)
    | _, _ => none
def lessItems? : List Json → List Json → Option Bool
  | [], [] => some false
  | [], _ :: _ => some true
  | _ :: _, [] => some false
  | a :: as, b :: bs => if same a b then lessItems? as bs else less? a b
end

end Json
end DnsSteering
