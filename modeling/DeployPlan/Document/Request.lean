import DeployPlan.Json.Decoding
import DeployPlan.Json.Writing
import DeployPlan.Plan.Request

/-!
Deployment requests as JSON documents. A request is written indented; reading accepts the members of
each object in any order, passes over unknown ones and fills in the defaults of missing ones.
-/

namespace DeployPlan

open Json (Decoder Fields Value)

def BuildDetail.json (d : BuildDetail) : Value :=
  .object [("BuildId", .option .word d.buildId), ("BuildNumber", .text d.buildNumber),
    ("DropLocation", .text d.dropLocation), ("Project", .text d.project), ("Uri", .text d.uri)]

def BuildDetail.fields :
    Fields (Option UInt64 × String × String × String × String × Unit) :=
  .cons "BuildId" (Json.optional Json.word) (some none) <|
  .cons "BuildNumber" Json.text (some "") <|
  .cons "DropLocation" Json.text (some "") <|
  .cons "Project" Json.text (some "") <|
  .cons "Uri" Json.text (some "") .nil

def BuildDetail.decoder : Decoder BuildDetail :=
  Json.record "BuildDetail" fields fun (i, n, d, p, u, ()) => ⟨i, n, d, p, u⟩

def Property.json (p : Property) : Value :=
  .object [("Name", .text p.name), ("Value", .text p.value)]

def Property.fields : Fields (String × String × Unit) :=
  .cons "Name" Json.text none <| .cons "Value" Json.text none .nil

def Property.decoder : Decoder Property :=
  Json.record "PropertyPair" fields fun (n, v, ()) => ⟨n, v⟩

namespace DeploymentRequest

def json (r : DeploymentRequest) : Value :=
  .object [("Environment", .text r.environment), ("Components", .texts r.components),
    ("ComponentsToSkip", .texts r.componentsToSkip), ("Build", r.build.json),
    ("Properties", .listOf Property.json r.properties)]

def fields :
    Fields (String × List String × List String × BuildDetail × List Property × Unit) :=
  .cons "Environment" Json.text none <|
  .cons "Components" (Json.list Json.text) (some []) <|
  .cons "ComponentsToSkip" (Json.list Json.text) (some []) <|
  .cons "Build" BuildDetail.decoder none <|
  .cons "Properties" (Json.list Property.decoder) (some []) .nil

def decoder : Decoder DeploymentRequest :=
  Json.record "DeploymentRequestDetail" fields fun (e, c, s, b, p, ()) => ⟨e, c, s, b, p⟩

def write (r : DeploymentRequest) : String :=
  r.json.indentedText

def read (s : String) : Except Failure DeploymentRequest :=
  (Json.decodeText decoder s).mapError fun p => .unreadable p.message

end DeploymentRequest

end DeployPlan
