import DeployPlan.Json.Problem

/-!
Decoding documents. A `Decoder` turns a node into a value, or says what is wrong and where. Records
are read in the order of the text: the first problem met is the one reported, and a missing field is
reported only when the whole record has been read.
-/

namespace DeployPlan.Json

/-- How a document reaches its decoder. From a `stream` the text behind the current place has not
been looked at yet, nesting is bounded, and a list that is too long is malformed; a value that was
`held` back is well formed as a whole; a `table` comes from a configuration file, where surplus items
are passed over. -/
inductive Source where
  | stream
  | held
  | table
deriving DecidableEq, Repr

structure Context where
  source : Source
  /-- One more than the number of containers that may still be entered. -/
  room : Nat

def Context.ofStream : Context := ⟨.stream, 128⟩

def Context.ofTable : Context := ⟨.table, 128⟩

inductive Step where
  | field (name : String)
  | item (index : Nat)
deriving DecidableEq, Repr

structure Complaint where
  place : List Step
  problem : Problem
deriving Repr

abbrev Result (α : Type) := Except Complaint α

abbrev Decoder (α : Type) := Context → Node → Result α

def refuse {α : Type} (p : Problem) : Result α :=
  .error ⟨[], p⟩

def Stop.refuse {α : Type} (s : Stop) : Result α :=
  Json.refuse (.fault s.whenRead)

def within {α : Type} (step : Step) (r : Result α) : Result α :=
  r.mapError fun c => { c with place := step :: c.place }

/-- Floats are spelled positionally in tables and compactly elsewhere. -/
def Context.spell (ctx : Context) (f : Float) : String :=
  match ctx.source with
  | .table => Number.positionalText f
  | _ => Number.compactText f

/-- The complaint about a node where something else was wanted. -/
def mismatch {α : Type} (ctx : Context) (wanted : String) : Node → Result α
  | .null => refuse (.wrongType .null wanted)
  | .bool b => refuse (.wrongType (.bool b) wanted)
  | .number n =>
    match n.amount with
    | .natural n => refuse (.wrongType (.integer n) wanted)
    | .negative n => refuse (.wrongType (.integer n) wanted)
    | .float f => refuse (.wrongType (.float (ctx.spell f)) wanted)
    | .outOfRange => refuse (.fault .malformed)
  | .float f => refuse (.wrongType (.float (ctx.spell f)) wanted)
  | .text s => refuse (.wrongType (.text s) wanted)
  | .unpaired => refuse (.fault .malformed)
  | .list _ _ => refuse (.wrongType .list wanted)
  | .object _ _ => refuse (.wrongType .object wanted)
  | .broken s => s.refuse

/-- Goes into a container. -/
def enter {α : Type} (ctx : Context) (k : Context → Result α) : Result α :=
  if ctx.room ≤ 1 then refuse (.fault .malformed) else k { ctx with room := ctx.room - 1 }

def text : Decoder String
  | _, .text s => .ok s
  | ctx, n => mismatch ctx "a string" n

def bool : Decoder Bool
  | _, .bool b => .ok b
  | ctx, n => mismatch ctx "a boolean" n

def natural (wanted : String) : Decoder Nat
  | ctx, .number n =>
    match n.amount with
    | .natural n => .ok n
    | .negative n => refuse (.wrongValue (.integer n) wanted)
    | _ => mismatch ctx wanted (.number n)
  | ctx, n => mismatch ctx wanted n

def word : Decoder UInt64 := fun ctx n =>
  (natural "u64" ctx n).map UInt64.ofNat

def size : Decoder Nat :=
  natural "usize"

def optional {α : Type} (d : Decoder α) : Decoder (Option α)
  | _, .null => .ok none
  | ctx, n => (d ctx n).map some

def items {α : Type} (d : Decoder α) (ctx : Context) (stop : Option Stop) :
    Nat → List Node → Result (List α)
  | _, [] =>
    match stop with
    | none => .ok []
    | some s => s.refuse
  | i, n :: ns => do
    let a ← within (.item i) (d ctx n)
    let as ← items d ctx stop (i + 1) ns
    return a :: as

def list {α : Type} (d : Decoder α) : Decoder (List α)
  | ctx, .list ns stop => enter ctx fun ctx => items d ctx stop 0 ns
  | ctx, n => mismatch ctx "a sequence" n

/-- What the end of a list of known length may look like, after `count` items were taken. -/
def closeItems (ctx : Context) (stop : Option Stop) (count : Nat) (rest : List Node) :
    Result Unit :=
  match ctx.source with
  | .table => .ok ()
  | .held =>
    if rest.isEmpty then .ok ()
    else
      refuse (.wrongLength (count + rest.length)
        (Number.text count ++ (if count = 1 then " element" else " elements") ++ " in sequence"))
  | .stream =>
    match rest, stop with
    | _ :: _, _ => refuse (.fault .malformed)
    | [], some s => s.refuse
    | [], none => .ok ()

def nextItem {α : Type} (d : Decoder α) (ctx : Context) (stop : Option Stop) (index : Nat)
    (absent : Result α) : List Node → Result (α × List Node)
  | [] =>
    match stop with
    | some s => s.refuse
    | none => absent.map (·, [])
  | n :: ns => (within (.item index) (d ctx n)).map (·, ns)

def pair {α β : Type} (da : Decoder α) (db : Decoder β) : Decoder (α × β)
  | ctx, .list ns stop =>
    enter ctx fun ctx => do
      let missing {γ : Type} (i : Nat) : Result γ := refuse (.wrongLength i "a tuple of size 2")
      let (a, ns) ← nextItem da ctx stop 0 (missing 0) ns
      let (b, ns) ← nextItem db ctx stop 1 (missing 1) ns
      closeItems ctx stop 2 ns
      return (a, b)
  | ctx, n => mismatch ctx "a tuple of size 2" n

/-- The fields of a record in declaration order, each with its decoder and the value it takes when
it is left out. The index is the product of the fields' types. -/
inductive Fields : Type → Type 1 where
  | nil : Fields Unit
  | cons {α β : Type} (name : String) (decoder : Decoder α) (absent : Option α) (rest : Fields β) :
      Fields (α × β)

namespace Fields

def Slots : {β : Type} → Fields β → Type
  | _, .nil => Unit
  | _, @Fields.cons α _ _ _ _ rest => Option α × rest.Slots

def empty : {β : Type} → (fs : Fields β) → fs.Slots
  | _, .nil => ()
  | _, .cons _ _ _ rest => (none, rest.empty)

def count : {β : Type} → Fields β → Nat
  | _, .nil => 0
  | _, .cons _ _ _ rest => rest.count + 1

def put (ctx : Context) (name : String) (n : Node) :
    {β : Type} → (fs : Fields β) → fs.Slots → Option (Result fs.Slots)
  | _, .nil, _ => none
  | _, @Fields.cons α _ name' decoder _ rest, slots =>
    let slots : Option α × rest.Slots := slots
    if name = name' then
      match slots.1 with
      | some _ => some (refuse (.duplicateField name'))
      | none => some ((within (.field name') (decoder ctx n)).map fun a => (some a, slots.2))
    else (rest.put ctx name n slots.2).map (·.map fun others => (slots.1, others))

def take : {β : Type} → (fs : Fields β) → fs.Slots → Result β
  | _, .nil, _ => .ok ()
  | _, @Fields.cons α _ name _ absent rest, slots =>
    let slots : Option α × rest.Slots := slots
    match slots.1, absent with
    | some a, _ => (rest.take slots.2).map (a, ·)
    | none, some a => (rest.take slots.2).map (a, ·)
    | none, none => refuse (.missingField name)

def takeItems (ctx : Context) (stop : Option Stop) (wanted : String) :
    {β : Type} → Fields β → Nat → List Node → Result (β × List Node)
  | _, .nil, _, ns => .ok ((), ns)
  | _, .cons _ decoder absent rest, i, ns => do
    let missing :=
      match absent with
      | some a => .ok a
      | none => refuse (.wrongLength i wanted)
    let (a, ns) ← nextItem decoder ctx stop i missing ns
    let (b, ns) ← rest.takeItems ctx stop wanted (i + 1) ns
    return ((a, b), ns)

end Fields

mutual
/-- Passes over a value that nobody needs. Only how it is spelled matters. -/
def skip : Node → Result Unit
  | .broken s => refuse (.fault s.whenSkipped)
  | .list ns stop => skipItems stop ns
  | .object ms stop => skipMembers stop ms
  | _ => .ok ()

def skipItems (stop : Option Stop) : List Node → Result Unit
  | [] =>
    match stop with
    | none => .ok ()
    | some s => refuse (.fault s.whenSkipped)
  | n :: ns =>
    match skip n with
    | .ok () => skipItems stop ns
    | .error e => .error e

def skipMembers (stop : Option Stop) : List (Option String × Node) → Result Unit
  | [] =>
    match stop with
    | none => .ok ()
    | some s => refuse (.fault s.whenSkipped)
  | (_, n) :: ms =>
    match skip n with
    | .ok () => skipMembers stop ms
    | .error e => .error e
end

def members (ctx : Context) (stop : Option Stop) {β : Type} (fs : Fields β) :
    List (Option String × Node) → fs.Slots → Result β
  | [], slots =>
    match stop with
    | none => fs.take slots
    | some s => s.refuse
  | (none, _) :: _, _ => refuse (.fault .malformed)
  | (some name, n) :: ms, slots =>
    match fs.put ctx name n slots with
    | none => do
      skip n
      members ctx stop fs ms slots
    | some (.ok slots) => members ctx stop fs ms slots
    | some (.error e) => .error e

/-- A record: an object, or a list of its fields. -/
def record {α β : Type} (name : String) (fs : Fields β) (make : β → α) : Decoder α
  | ctx, .object ms stop => enter ctx fun ctx => (members ctx stop fs ms fs.empty).map make
  | ctx, .list ns stop =>
    enter ctx fun ctx => do
      let wanted :=
        "struct " ++ name ++ " with " ++ Number.text fs.count ++
          (if fs.count = 1 then " element" else " elements")
      let (b, rest) ← fs.takeItems ctx stop wanted 0 ns
      closeItems ctx stop fs.count rest
      return make b
  | ctx, n => mismatch ctx ("struct " ++ name) n

def decodeText {α : Type} (d : Decoder α) (s : String) : Except Problem α :=
  match Node.read s.toList with
  | (n, rest) =>
    match d .ofStream n, rest with
    | .error c, _ => .error c.problem
    | .ok _, none => .error (.fault .malformed)
    | .ok a, some rest => if (skipSpace rest).isEmpty then .ok a else .error (.fault .malformed)

end DeployPlan.Json
