/-!
# TOML values

The data that configurations are written in.

- `Toml`: texts, integers, truth values, arrays and tables; of other numbers and of dates and times
  only the written form is kept.
- `Toml.Members`: the members of a table in the order of the document.
- `Toml.same`: equality of values, which can be decided.
-/

namespace Testbench

/-- A TOML value. The members of a table keep their order. -/
inductive Toml where
  | string (value : String)
  | integer (value : Int)
  | boolean (value : Bool)
  /-- A number that is not known to be an integer, as it is written. -/
  | number (written : String)
  /-- A date, a time of day, or both, as it is written. -/
  | moment (written : String)
  | array (items : List Toml)
  | table (members : List (String × Toml))
  deriving Inhabited

namespace Toml

/-- The members of a table. -/
abbrev Members := List (String × Toml)

/-! ## Equality -/

-- no handler derives this: values stand in lists and behind keys
mutual

/-- Two values are the same. -/
def same : Toml → Toml → Bool
  | .string a, .string b => a == b
  | .integer a, .integer b => a == b
  | .boolean a, .boolean b => a == b
  | .number a, .number b => a == b
  | .moment a, .moment b => a == b
  | .array as, .array bs => sameItems as bs
  | .table as, .table bs => sameMembers as bs
  | _, _ => false

/-- Two arrays have the same items. -/
def sameItems : List Toml → List Toml → Bool
  | [], [] => true
  | a :: as, b :: bs => same a b && sameItems as bs
  | _, _ => false

/-- Two tables have the same members, in the same order. -/
def sameMembers : Members → Members → Bool
  | [], [] => true
  | (k, a) :: as, (l, b) :: bs => k == l && same a b && sameMembers as bs
  | _, _ => false

end

mutual

theorem same_iff : ∀ {a b : Toml}, same a b = true ↔ a = b
  | .string _, b => by cases b <;> simp [same]
  | .integer _, b => by cases b <;> simp [same]
  | .boolean _, b => by cases b <;> simp [same]
  | .number _, b => by cases b <;> simp [same]
  | .moment _, b => by cases b <;> simp [same]
  | .array _, b => by cases b <;> simp [same, sameItems_iff]
  | .table _, b => by cases b <;> simp [same, sameMembers_iff]

theorem sameItems_iff : ∀ {as bs : List Toml}, sameItems as bs = true ↔ as = bs
  | [], bs => by cases bs <;> simp [sameItems]
  | _ :: _, bs => by cases bs <;> simp [sameItems, same_iff, sameItems_iff]

theorem sameMembers_iff : ∀ {as bs : Members}, sameMembers as bs = true ↔ as = bs
  | [], bs => by cases bs <;> simp [sameMembers]
  | (_, _) :: _, bs => by
    cases bs <;> simp [sameMembers, same_iff, sameMembers_iff, Prod.ext_iff]

end

instance : DecidableEq Toml := fun _ _ => decidable_of_iff _ same_iff

end Toml

end Testbench
