/-!
# JSON values

A JSON value as the rest of the library sees it. Integers that fit a signed or an unsigned word of
64 bits stay integers; every other number is a binary64 value, held as its bit pattern so that
equality of values is decidable. The members of an object are listed in increasing order of their
names, each name once: `Json.Canonical` says so, and every reader and every operation keeps it.
-/
namespace WorkspaceLink

/-- A number: an integer of the 64-bit ranges, or a finite binary64 value given by its bits. -/
inductive Number where
  | int (value : Int)
  | float (bits : UInt64)
  deriving DecidableEq, Repr, Inhabited

inductive Json where
  | null
  | bool (value : Bool)
  | num (value : Number)
  | str (value : String)
  | arr (items : List Json)
  | obj (members : List (String × Json))
  deriving Inhabited, Repr

/-! ### Members of an object -/

namespace Members

/-- Set one member, at its place in the order of names; a member of that name is replaced. -/
def insert (name : String) (value : α) : List (String × α) → List (String × α)
  | [] => [(name, value)]
  | (other, held) :: rest =>
    if name < other then (name, value) :: (other, held) :: rest
    else if name = other then (name, value) :: rest
    else (other, held) :: insert name value rest

/-- Build members from pairs in any order; of two pairs with one name the later one counts. -/
def ofList (pairs : List (String × α)) : List (String × α) :=
  pairs.foldl (fun members pair => insert pair.1 pair.2 members) []

@[simp] theorem lookup_insert_self (name : String) (value : α) (members : List (String × α)) :
    (insert name value members).lookup name = some value := by
  induction members with
  | nil => simp [insert]
  | cons entry rest ih =>
    obtain ⟨other, held⟩ := entry
    by_cases hlt : name < other
    · simp [insert, hlt]
    · by_cases heq : name = other
      · subst heq; simp [insert]
      · have hne : (name == other) = false := by simpa using heq
        simp [insert, hlt, heq, List.lookup_cons, hne, ih]

theorem lookup_insert_of_ne {name key : String} (h : key ≠ name) (value : α)
    (members : List (String × α)) :
    (insert name value members).lookup key = members.lookup key := by
  have hk : (key == name) = false := by simpa using h
  induction members with
  | nil => simp [insert, List.lookup_cons, hk]
  | cons entry rest ih =>
    obtain ⟨other, held⟩ := entry
    by_cases hlt : name < other
    · simp [insert, hlt, List.lookup_cons, hk]
    · by_cases heq : name = other
      · subst heq; simp [insert, List.lookup_cons, hk]
      · simp [insert, hlt, heq, List.lookup_cons, ih]

end Members

namespace Json

/-! ### Equality -/

mutual

def same : Json → Json → Bool
  | .null, .null => true
  | .bool a, .bool b => a == b
  | .num a, .num b => decide (a = b)
  | .str a, .str b => a == b
  | .arr a, .arr b => sameItems a b
  | .obj a, .obj b => sameMembers a b
  | _, _ => false

def sameItems : List Json → List Json → Bool
  | [], [] => true
  | a :: as, b :: bs => same a b && sameItems as bs
  | _, _ => false

def sameMembers : List (String × Json) → List (String × Json) → Bool
  | [], [] => true
  | (k, a) :: as, (l, b) :: bs => k == l && (same a b && sameMembers as bs)
  | _, _ => false

end

mutual

theorem same_iff : (a b : Json) → (same a b = true ↔ a = b)
  | .null, b => by cases b <;> simp [same]
  | .bool _, b => by cases b <;> simp [same]
  | .num _, b => by cases b <;> simp [same]
  | .str _, b => by cases b <;> simp [same]
  | .arr as, b => by
    cases b with
    | arr bs => simpa [same] using sameItems_iff as bs
    | _ => simp [same]
  | .obj as, b => by
    cases b with
    | obj bs => simpa [same] using sameMembers_iff as bs
    | _ => simp [same]

theorem sameItems_iff : (as bs : List Json) → (sameItems as bs = true ↔ as = bs)
  | [], bs => by cases bs <;> simp [sameItems]
  | a :: as, bs => by
    cases bs with
    | nil => simp [sameItems]
    | cons b bs => simp [sameItems, same_iff a b, sameItems_iff as bs]

theorem sameMembers_iff :
    (as bs : List (String × Json)) → (sameMembers as bs = true ↔ as = bs)
  | [], bs => by cases bs <;> simp [sameMembers]
  | (k, a) :: as, bs => by
    cases bs with
    | nil => simp [sameMembers]
    | cons b bs =>
      obtain ⟨l, b⟩ := b
      simp [sameMembers, same_iff a b, sameMembers_iff as bs, and_assoc]

end

instance : DecidableEq Json := fun a b => decidable_of_iff _ (same_iff a b)

/-! ### Canonical values -/

mutual

/-- Every object in the value lists its members by increasing name. -/
def Canonical : Json → Prop
  | .arr items => CanonicalItems items
  | .obj members => (members.map Prod.fst).Pairwise (· < ·) ∧ CanonicalMembers members
  | _ => True

def CanonicalItems : List Json → Prop
  | [] => True
  | item :: rest => Canonical item ∧ CanonicalItems rest

def CanonicalMembers : List (String × Json) → Prop
  | [] => True
  | (_, value) :: rest => Canonical value ∧ CanonicalMembers rest

end

/-! ### Access and construction -/

def get? (value : Json) (name : String) : Option Json :=
  match value with
  | .obj members => members.lookup name
  | _ => none

def text? : Json → Option String
  | .str s => some s
  | _ => none

def items? : Json → Option (List Json)
  | .arr items => some items
  | _ => none

/-- An object with the given members, in any order. -/
def object (pairs : List (String × Json)) : Json :=
  .obj (Members.ofList pairs)

def nat (n : Nat) : Json := .num (.int n)

/-- A text, or `null` for none. -/
def ofText? : Option String → Json
  | some s => .str s
  | none => .null

end Json

end WorkspaceLink
