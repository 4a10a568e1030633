/-!
Values of scope variables: a text, a list of texts, or a table. A row of a table is a record, a list of
named values in the order they were added; a name may occur more than once.
-/

namespace DeployPlan

inductive Variable where
  | scalar (value : String)
  | array (values : List String)
  | table (rows : List (List (String × Variable)))
deriving Repr, Inhabited

/-- One row of a table. -/
abbrev Record : Type := List (String × Variable)

inductive Variable.Kind where
  | scalar
  | array
  | table
deriving DecidableEq, Repr

def Variable.Kind.name : Variable.Kind → String
  | .scalar => "scalar"
  | .array => "array"
  | .table => "table"

namespace Variable

def kind : Variable → Kind
  | scalar _ => .scalar
  | array _ => .array
  | table _ => .table

def ofMatches : List String → Variable
  | [s] => scalar s
  | ss => array ss

def asScalar? : Variable → Option String
  | scalar s => some s
  | _ => none

def asArray? : Variable → Option (List String)
  | array ss => some ss
  | _ => none

def asTable? : Variable → Option (List Record)
  | table rows => some rows
  | _ => none

mutual
def same : Variable → Variable → Bool
  | scalar s, scalar t => s == t
  | array ss, array ts => ss == ts
  | table rs, table ts => sameRows rs ts
  | _, _ => false

def sameRows : List (List (String × Variable)) → List (List (String × Variable)) → Bool
  | [], [] => true
  | r :: rs, t :: ts => sameFields r t && sameRows rs ts
  | _, _ => false

def sameFields : List (String × Variable) → List (String × Variable) → Bool
  | [], [] => true
  | (n, v) :: r, (m, w) :: t => n == m && same v w && sameFields r t
  | _, _ => false
end

mutual
theorem same_iff : ∀ v w : Variable, same v w = true ↔ v = w
  | scalar s, w => by cases w <;> simp [same]
  | array ss, w => by cases w <;> simp [same]
  | table rs, w => by
    cases w with
    | table ts => simp [same, sameRows_iff rs ts]
    | _ => simp [same]

theorem sameRows_iff : ∀ rs ts : List (List (String × Variable)), sameRows rs ts = true ↔ rs = ts
  | [], ts => by cases ts <;> simp [sameRows]
  | r :: rs, ts => by
    cases ts with
    | nil => simp [sameRows]
    | cons t ts => simp [sameRows, sameFields_iff r t, sameRows_iff rs ts]

theorem sameFields_iff : ∀ r t : List (String × Variable), sameFields r t = true ↔ r = t
  | [], t => by cases t <;> simp [sameFields]
  | (n, v) :: r, t => by
    cases t with
    | nil => simp [sameFields]
    | cons f t => obtain ⟨m, w⟩ := f; simp [sameFields, same_iff v w, sameFields_iff r t, and_assoc]
end

instance : DecidableEq Variable := fun v w =>
  decidable_of_iff (same v w = true) (same_iff v w)

end Variable

namespace Record

def add (r : Record) (name : String) (value : Variable) : Record :=
  r ++ [(name, value)]

def get? (r : Record) (name : String) : Option Variable :=
  r.lookup name

def names (r : Record) : List String :=
  r.map (·.1)

end Record

end DeployPlan
