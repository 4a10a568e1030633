import DeployPlan.Document.Request
import DeployPlan.Proofs.Json.Compact
import DeployPlan.Proofs.Json.Rearrangement

/-!
Requests as others write them. A document of a request may have the members of its objects in another
order, lack what is empty, and say more than the reader knows: it is read as the request all the same.
-/

namespace DeployPlan

open Json (Context Node Rearranged Value)

def Property.Variant (p : Property) : Node → Prop :=
  Rearranged [("Name", .text p.name), ("Value", .text p.value)] fun _ => False

/-- An object of the build. Members that are null or an empty text may be left out. -/
def BuildDetail.Variant (d : BuildDetail) : Node → Prop :=
  Rearranged
    [("BuildId", (Value.option Value.word d.buildId).node), ("BuildNumber", .text d.buildNumber),
      ("DropLocation", .text d.dropLocation), ("Project", .text d.project), ("Uri", .text d.uri)]
    fun m => m.2 = .null ∨ m.2 = .text ""

/-- An object of the request, with objects of its build and of its properties. Members that are empty
lists may be left out. -/
def DeploymentRequest.Variant (r : DeploymentRequest) (n : Node) : Prop :=
  ∃ build properties, r.build.Variant build ∧ List.Forall₂ Property.Variant r.properties properties ∧
    Rearranged
      [("Environment", .text r.environment), ("Components", (Value.texts r.components).node),
        ("ComponentsToSkip", (Value.texts r.componentsToSkip).node), ("Build", build),
        ("Properties", .list properties none)]
      (fun m => m.2 = .list [] none) n

variable {ctx : Context} {n : Node}

namespace Property

theorem variant_json (p : Property) : p.Variant p.json.node :=
  Rearranged.refl _ _

theorem decoder_variant {p : Property} (variant : p.Variant n) (room : 1 < ctx.room) :
    decoder ctx n = .ok p :=
  variant.record "PropertyPair" _ room <| .cons rfl (by simp) False.elim <|
    .cons rfl (by simp) False.elim .nil

end Property

namespace BuildDetail

theorem variant_json (d : BuildDetail) : d.Variant d.json.node :=
  Rearranged.refl _ _

theorem text_omissible {s : String} (omissible : Node.text s = .null ∨ Node.text s = .text "") :
    some "" = some s := by
  rcases omissible with null | empty
  · cases null
  · cases empty
    rfl

theorem id_omissible {id : Option UInt64}
    (omissible : (Value.option Value.word id).node = .null ∨
      (Value.option Value.word id).node = .text "") : some none = some id := by
  cases id with
  | none => rfl
  | some n => rcases omissible with null | empty <;> contradiction

theorem decoder_variant {d : BuildDetail} (variant : d.Variant n) (room : 1 < ctx.room) :
    decoder ctx n = .ok d :=
  variant.record "BuildDetail" _ room <|
    .cons (Json.optional_option Json.word_node (by rintro n ⟨⟩)) (by simp) id_omissible <|
    .cons rfl (by simp) text_omissible <| .cons rfl (by simp) text_omissible <|
    .cons rfl (by simp) text_omissible <| .cons rfl (by simp) text_omissible .nil

end BuildDetail

namespace DeploymentRequest

variable {r : DeploymentRequest}

theorem variant_json (r : DeploymentRequest) : r.Variant r.json.node := by
  refine ⟨r.build.json.node, r.properties.map fun p => p.json.node, r.build.variant_json, ?_, ?_⟩
  · rw [List.forall₂_map_right_iff, List.forall₂_same]
    intro p _
    exact p.variant_json
  · rw [← Json.nodes_map]
    exact Rearranged.refl _ _

theorem texts_omissible {ss : List String} (omissible : (Value.texts ss).node = .list [] none) :
    some [] = some ss := by
  cases ss with
  | nil => rfl
  | cons s ss => cases omissible

theorem properties_omissible {ps : List Property} {properties : List Node}
    (variants : List.Forall₂ Property.Variant ps properties)
    (omissible : Node.list properties none = .list [] none) : some [] = some ps := by
  cases omissible
  cases variants
  rfl

theorem decoder_variant (variant : r.Variant n) (room : 3 < ctx.room) : decoder ctx n = .ok r := by
  obtain ⟨build, properties, builds, variants, rearranged⟩ := variant
  have texts (ss : List String) :
      Json.list Json.text { ctx with room := ctx.room - 1 } (Value.texts ss).node = .ok ss :=
    Json.list_listOf (by simp only; omega) fun s _ => rfl
  have pairs : Json.list Property.decoder { ctx with room := ctx.room - 1 }
      (.list properties none) = .ok r.properties := by
    rw [Json.list, Json.enter, if_neg (by simp only; omega)]
    apply Json.items_forall₂
    apply variants.imp
    intro p n variant
    exact Property.decoder_variant variant (by simp only; omega)
  have object : build ≠ .list [] none := by
    obtain ⟨_, _, _, _, rfl⟩ := builds
    rintro ⟨⟩
  exact rearranged.record "DeploymentRequestDetail" _ (by omega) <|
    .cons rfl (by simp) (by rintro ⟨⟩) <|
    .cons (texts r.components) (by simp) texts_omissible <|
    .cons (texts r.componentsToSkip) (by simp) texts_omissible <|
    .cons (BuildDetail.decoder_variant builds (by simp only; omega)) (by simp)
      (absurd · object) <|
    .cons pairs (by simp) (properties_omissible variants) .nil

/-- Every text of an object of the request is read as the request, in whatever order the members stand,
whatever else is said, and whether or not what is empty is there. -/
theorem read_variant {text : String} (variant : r.Variant n)
    (spells : Json.SpellsDocument n text.toList) : read text = .ok r := by
  have decoded := @decoder_variant .ofStream n r variant (by decide)
  rw [read, Json.decodeText_document decoder spells, decoded]
  rfl

theorem read_variant_reversed :
    let r : DeploymentRequest := ⟨"Stage", [], ["Web"], { buildNumber := "7" }, [⟨"Port", "80"⟩]⟩
    let property : Value :=
      .object [("Hint", .list [.object [("Name", .null)]]), ("Value", .text "80"),
        ("Name", .text "Port")]
    let build : Value :=
      .object [("Tags", .object [("Uri", .list [.bool true])]), ("BuildNumber", .text "7")]
    let request : Value :=
      .object [("Version", .object [("Build", .nat 2)]), ("Properties", .list [property]),
        ("Build", build), ("ComponentsToSkip", .texts ["Web"]), ("Environment", .text "Stage")]
    r.Variant request.node ∧ Json.SpellsDocument request.node request.compactText.toList ∧
      read request.compactText = .ok r := by
  intro r property build request
  have properties : Property.Variant ⟨"Port", "80"⟩ property.node := by
    refine ⟨_, [("Hint", (Value.list [.object [("Name", .null)]]).node)], _,
      ⟨.refl _, by simp, by simp, ?_, List.reverse_perm _⟩, rfl⟩
    exact List.forall_mem_singleton.mpr (Json.spelled_value ⟨⟨trivial, trivial⟩, trivial⟩)
  have builds : BuildDetail.Variant { buildNumber := "7" } build.node := by
    refine ⟨[("BuildNumber", .text "7")], [("Tags", (Value.object [("Uri", .list [.bool true])]).node)],
      _, ⟨?_, ?_, by simp, ?_, List.reverse_perm _⟩, rfl⟩
    · exact .cons _ (.cons_cons _ (.cons _ (.cons _ (.cons _ .slnil))))
    · simp [Value.option, Value.node]
    · exact List.forall_mem_singleton.mpr (Json.spelled_value ⟨⟨trivial, trivial⟩, trivial⟩)
  have variant : r.Variant request.node := by
    refine ⟨build.node, [property.node], builds, .cons properties .nil,
      [("Environment", .text "Stage"), ("ComponentsToSkip", (Value.texts ["Web"]).node),
        ("Build", build.node), ("Properties", .list [property.node] none)],
      [("Version", (Value.object [("Build", .nat 2)]).node)], _,
      ⟨?_, ?_, by simp, ?_, List.reverse_perm _⟩, rfl⟩
    · exact .cons_cons _ (.cons _ (.refl _))
    · simp [r, Value.texts, Value.listOf, Value.node, Value.nodes]
    · exact List.forall_mem_singleton.mpr (Json.spelled_value ⟨Json.legal_digits 2, trivial⟩)
  have legal : request.Legal := by
    simp [request, property, build, Value.Legal, Value.ItemsLegal, Value.MembersLegal, Value.nat,
      Value.texts, Value.listOf, Json.legal_digits 2]
  have spells : Json.SpellsDocument request.node request.compactText.toList := by
    rw [Value.compactText, String.toList_ofList]
    exact (Json.spells_compact legal).document
  exact ⟨variant, spells, read_variant variant spells⟩

end DeploymentRequest

end DeployPlan
