import AgentFlow.Decimal.Notation

/-!
JSON values.

An integer and a number with a fraction or exponent stay apart, as they do in the text. The
members of an object are kept in the order in which they are written; `Json.Object` is the sorted
form in which free-form data is held.
-/

namespace AgentFlow

/-- A JSON number: an integer of at most sixty-four bits, or a binary64 number. -/
inductive Json.Number where
  | int (n : Int)
  | real (x : Binary64)
deriving DecidableEq, Repr, Inhabited

inductive Json where
  | null
  | bool (b : Bool)
  | number (n : Json.Number)
  | string (s : String)
  | array (items : List Json)
  | object (members : List (String × Json))
deriving Repr, Inhabited

namespace Json

/-- The number nearest to a JSON number. -/
def Number.toBinary64 : Number → Binary64
  | .int n => .ofInt n
  | .real x => x

/-- A binary64 number as JSON; what is not finite has no JSON number and becomes `null`. -/
def ofBinary64 (x : Binary64) : Json := if x.isFinite then .number (.real x) else .null

def ofNat (n : Nat) : Json := .number (.int n)

/-- A value, or `null` for none. -/
def ofOption (f : α → Json) : Option α → Json
  | none => .null
  | some a => f a

def ofList (f : α → Json) (as : List α) : Json := .array (as.map f)

/-- The members of an object; other values have none. -/
def members : Json → List (String × Json)
  | .object ms => ms
  | _ => []

def get? (v : Json) (key : String) : Option Json := v.members.lookup key

/-! ### Equality -/

mutual

def beq : Json → Json → Bool
  | .null, .null => true
  | .bool a, .bool b => a = b
  | .number a, .number b => a = b
  | .string a, .string b => a = b
  | .array as, .array bs => beqItems as bs
  | .object as, .object bs => beqMembers as bs
  | _, _ => false

def beqItems : List Json → List Json → Bool
  | [], [] => true
  | a :: as, b :: bs => beq a b && beqItems as bs
  | _, _ => false

def beqMembers : List (String × Json) → List (String × Json) → Bool
  | [], [] => true
  | (k, a) :: as, (l, b) :: bs => k = l && beq a b && beqMembers as bs
  | _, _ => false

end

mutual

theorem beq_iff : ∀ a b : Json, beq a b = true ↔ a = b
  | .array as, b => by cases b <;> simp [beq, beqItems_iff as]
  | .object as, b => by cases b <;> simp [beq, beqMembers_iff as]
  | .null, b | .bool _, b | .number _, b | .string _, b => by cases b <;> simp [beq]

theorem beqItems_iff : ∀ as bs : List Json, beqItems as bs = true ↔ as = bs
  | [], bs => by cases bs <;> simp [beqItems]
  | a :: as, bs => by cases bs <;> simp [beqItems, beq_iff a, beqItems_iff as]

theorem beqMembers_iff : ∀ as bs : List (String × Json), beqMembers as bs = true ↔ as = bs
  | [], bs => by cases bs <;> simp [beqMembers]
  | (k, a) :: as, bs => by
    cases bs with
    | nil => simp [beqMembers]
    | cons b bs => obtain ⟨l, b⟩ := b; simp [beqMembers, beq_iff a, beqMembers_iff as, and_assoc]

end

instance : DecidableEq Json := fun a b => decidable_of_iff _ (beq_iff a b)

mutual

/-- Equality in which numbers are compared by value: a NaN differs from itself, and the two zeros
are equal. -/
def agrees : Json → Json → Bool
  | .null, .null => true
  | .bool a, .bool b => a = b
  | .number (.int a), .number (.int b) => a = b
  | .number (.real a), .number (.real b) => a.sameValue b
  | .string a, .string b => a = b
  | .array as, .array bs => agreesItems as bs
  | .object as, .object bs => agreesMembers as bs
  | _, _ => false

def agreesItems : List Json → List Json → Bool
  | [], [] => true
  | a :: as, b :: bs => agrees a b && agreesItems as bs
  | _, _ => false

def agreesMembers : List (String × Json) → List (String × Json) → Bool
  | [], [] => true
  | (k, a) :: as, (l, b) :: bs => k = l && agrees a b && agreesMembers as bs
  | _, _ => false

end

end Json

end AgentFlow
