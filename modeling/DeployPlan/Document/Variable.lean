import DeployPlan.Json.Decoding
import DeployPlan.Json.Writing
import DeployPlan.Scope.Variable

/-!
Scope variables as JSON documents: an object with the kind of the variable and its value. The two may
stand in either order. When the value comes first it is held back until the kind is known.
-/

namespace DeployPlan

open Json (Context Decoder Fields Node Result Stop Value)

namespace Variable

mutual
def json : Variable → Value
  | .scalar s => .object [("kind", .text "scalar"), ("value", .text s)]
  | .array ss => .object [("kind", .text "array"), ("value", .texts ss)]
  | .table rows => .object [("kind", .text "table"), ("value", .list (jsonOfRows rows))]

def jsonOfRows : List (List (String × Variable)) → List Value
  | [] => []
  | r :: rs => .object [("fields", .list (jsonOfFields r))] :: jsonOfRows rs

def jsonOfFields : List (String × Variable) → List Value
  | [] => []
  | (n, v) :: fs => .list [.text n, json v] :: jsonOfFields fs
end

def kinds : List String :=
  ["scalar", "array", "table"]

def kindOfName (name : String) : Result Kind :=
  if name = "scalar" then .ok .scalar
  else if name = "array" then .ok .array
  else if name = "table" then .ok .table
  else Json.refuse (.unknownVariant name kinds)

def nothing : Decoder Unit
  | _, .null => .ok ()
  | ctx, n => Json.mismatch ctx "unit" n

/-- The name of a kind: a text, or an object with that name as its only member, of value null. -/
def kindDecoder : Decoder Kind := fun ctx n =>
  match ctx.source, n with
  | _, .text s => kindOfName s
  | .stream, .unpaired => Json.refuse (.fault .malformed)
  | .stream, .broken s => s.refuse
  | .stream, .object ms stop =>
    Json.enter ctx fun ctx =>
      match ms, stop with
      | [], some s => s.refuse
      | [], none => Json.refuse (.fault .malformed)
      | (none, _) :: _, _ => Json.refuse (.fault .malformed)
      | (some name, v) :: rest, stop => do
        let kind ← kindOfName name
        nothing ctx v
        match rest, stop with
        | [], none => return kind
        | [], some s => if s.whenRead = .truncated then s.refuse else Json.refuse (.fault .malformed)
        | _ :: _, _ => Json.refuse (.fault .malformed)
  | .stream, _ => Json.refuse (.fault .malformed)
  | _, .object [(some name, v)] none => do
    let kind ← kindOfName name
    nothing ctx v
    return kind
  | _, .object _ _ => Json.refuse (.wrongValue .object "map with a single key")
  | _, n => Json.mismatch ctx "string or map" n

mutual
/-- Checks that a value that is held back is well formed and within the room. -/
def hold (room : Nat) : Node → Result Unit
  | .list ns stop => if room ≤ 1 then Json.refuse (.fault .malformed) else holdItems (room - 1) stop ns
  | .object ms stop =>
    if room ≤ 1 then Json.refuse (.fault .malformed) else holdMembers (room - 1) stop ms
  | .number n =>
    match n.amount with
    | .outOfRange => Json.refuse (.fault .malformed)
    | _ => .ok ()
  | .unpaired => Json.refuse (.fault .malformed)
  | .broken s => s.refuse
  | _ => .ok ()

def holdItems (room : Nat) (stop : Option Stop) : List Node → Result Unit
  | [] =>
    match stop with
    | none => .ok ()
    | some s => s.refuse
  | n :: ns =>
    match hold room n with
    | .ok () => holdItems room stop ns
    | .error e => .error e

def holdMembers (room : Nat) (stop : Option Stop) : List (Option String × Node) → Result Unit
  | [] =>
    match stop with
    | none => .ok ()
    | some s => s.refuse
  | (none, _) :: _ => Json.refuse (.fault .malformed)
  | (some _, n) :: ms =>
    match hold room n with
    | .ok () => holdMembers room stop ms
    | .error e => .error e
end

inductive Progress where
  | nothing
  | kind (k : Kind)
  | value (n : Node)
  | done (v : Variable)

def rowDecoder (field : Decoder Variable) : Decoder Record :=
  Json.record "VariableRecord"
    (.cons "fields" (Json.list (Json.pair Json.text field)) none .nil)
    fun (fs, ()) => fs

def valueDecoder (field : Decoder Variable) : Kind → Decoder Variable
  | .scalar => fun ctx n => (Json.text ctx n).map .scalar
  | .array => fun ctx n => (Json.list Json.text ctx n).map .array
  | .table => fun ctx n => (Json.list (rowDecoder field) ctx n).map .table

def finished : Progress → Result Variable
  | .nothing => Json.refuse (.missingField "kind")
  | .kind _ => Json.refuse (.missingField "value")
  | .value _ => Json.refuse (.missingField "kind")
  | .done v => .ok v

def members (field : Decoder Variable) (ctx : Context) (stop : Option Stop) :
    Progress → List (Option String × Node) → Result Variable
  | p, [] =>
    match stop with
    | none => finished p
    | some s => s.refuse
  | _, (none, _) :: _ => Json.refuse (.fault .malformed)
  | p, (some name, n) :: ms => do
    if name = "kind" then
      match p with
      | .nothing => members field ctx stop (.kind (← kindDecoder ctx n)) ms
      | .value held => do
        let kind ← kindDecoder ctx n
        let v ← valueDecoder field kind { ctx with source := .held } held
        members field ctx stop (.done v) ms
      | _ => Json.refuse (.duplicateField "kind")
    else if name = "value" then
      match p with
      | .nothing => do
        hold ctx.room n
        members field ctx stop (.value n) ms
      | .kind k => do
        let v ← valueDecoder field k ctx n
        members field ctx stop (.done v) ms
      | _ => Json.refuse (.duplicateField "value")
    else do
      Json.skip n
      members field ctx stop p ms

def wanted : String := "adjacently tagged enum VariableValue"

def decoderWithin : Nat → Decoder Variable
  | 0 => fun _ _ => Json.refuse (.fault .malformed)
  | levels + 1 => fun ctx n =>
    let field := decoderWithin levels
    match n with
    | .object ms stop => Json.enter ctx fun ctx => members field ctx stop .nothing ms
    | .list ns stop =>
      Json.enter ctx fun ctx => do
        let missing {α : Type} (i : Nat) : Result α := Json.refuse (.wrongLength i wanted)
        let (kind, ns) ← Json.nextItem kindDecoder ctx stop 0 (missing 0) ns
        let (v, ns) ← Json.nextItem (valueDecoder field kind) ctx stop 1 (missing 1) ns
        Json.closeItems ctx stop 2 ns
        return v
    | n => Json.mismatch ctx wanted n

def decoder : Decoder Variable := fun ctx n =>
  decoderWithin (ctx.room + 1) ctx n

end Variable

def Record.json (r : Record) : Value :=
  .object [("fields", .list (Variable.jsonOfFields r))]

def Record.decoder : Decoder Record :=
  Variable.rowDecoder Variable.decoder

end DeployPlan
