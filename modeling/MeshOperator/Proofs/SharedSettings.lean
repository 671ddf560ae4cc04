import MeshOperator.Proofs.JsonText
import MeshOperator.Proofs.ResourceKeys

/-!
The settings that all components of a control plane share.

They are values of their own, whose texts stand as entries of one configuration map. The texts are
read as these values, whatever the texts in the configuration are.
-/

namespace MeshOperator

set_option autoImplicit false

/-- The value that a text at the end of the path is read as. -/
def Object.readAt? (path : List String) (o : Object) : Option Json :=
  ((o.at? path).bind Json.asString?).bind Json.parse

/-- The values of the flags of this name. -/
def Json.flagValues (name : String) (settings : Json) : List String :=
  (settings.itemsAt ["flags"]).filterMap fun flag =>
    if (flag.at? ["name"]).bind asString? = some name then (flag.at? ["value"]).bind asString?
    else none

namespace Catalogue.Controller

variable (c : Configuration)

theorem readable_globalSettings : (globalSettings c).Readable Json.Reader.depthLimit := by
  simp +decide [globalSettings, Json.Reader.depthLimit, Assoc.ascending_iff_keys]

theorem readable_imageSettings (name : String) {depth : Nat} (h : 0 < depth) :
    (imageSettings name c).Readable depth := by
  simp +decide [imageSettings, Assoc.ascending_iff_keys, h]

theorem readable_portSettings {n : Nat} (hn : n < 65536) {depth : Nat} (h : 0 < depth) :
    (portSettings n).Readable depth := by
  have hfits : Json.FitsWord n := ⟨by omega, by omega⟩
  simp +decide [portSettings, Assoc.ascending_iff_keys, h, hfits]

theorem readable_proxySettings : (proxySettings c).Readable Json.Reader.depthLimit := by
  simp +decide [proxySettings, Json.Reader.depthLimit, Assoc.ascending_iff_keys,
    readable_imageSettings, readable_portSettings]

theorem readable_flag (name value : String) {depth : Nat} (h : 0 < depth) :
    (flag name value).Readable depth := by
  simp +decide [flag, Assoc.ascending_iff_keys, h]

theorem readable_installSettings : (installSettings c).Readable Json.Reader.depthLimit := by
  have hflags : ∀ v ∈ installFlags c, ∀ depth, 0 < depth → v.Readable depth := by
    unfold installFlags
    split <;> simp +contextual [readable_flag]
  simp +decide +contextual [installSettings, Json.Reader.depthLimit, Assoc.ascending_iff_keys,
    hflags]

/-- A flag for the namespaces with automatic injection is set just when there are any. -/
theorem flagValues_installSettings :
    (installSettings c).flagValues "auto-injection-namespaces" =
      if c.autoInjectionNamespaces = [] then []
      else [",".intercalate c.autoInjectionNamespaces] := by
  by_cases h : c.autoInjectionNamespaces = []
  · simp [installSettings, installFlags, Json.flagValues, Json.itemsAt, flag, Json.asString?, h]
  · simp [installSettings, installFlags, Json.flagValues, Json.itemsAt, flag, Json.asString?, h]

end Catalogue.Controller

theorem Manifest.readAt?_data {m : Manifest} {data : StringMap} (h : m.content = .configMap data)
    {name : String} {v : Json} (hget : data.get? name = some v.text)
    (hv : v.Readable Json.Reader.depthLimit) :
    m.managed.object.readAt? ["data", name] = some v := by
  have hat : m.managed.object.at? ["data", name] = some (.str v.text) := by
    simp [at?_object, h, Content.members, Json.member?_ofStringMap, hget]
  rw [Object.readAt?, hat]
  exact Json.parse_text hv

/-- The entries of the shared configuration are read as the settings that they were written from. -/
theorem Catalogue.Controller.readAt?_configMap (c : Configuration) {name : String} {v : Json}
    (hmem : (name, v) ∈ [("global", globalSettings c), ("proxy", proxySettings c),
      ("install", installSettings c)]) :
    (configMap c).managed.object.readAt? ["data", name] = some v := by
  have hget : v.Readable Json.Reader.depthLimit ∧
      Assoc.find? name [("global", (globalSettings c).text), ("proxy", (proxySettings c).text),
        ("install", (installSettings c).text)] = some v.text := by
    simp only [List.mem_cons, Prod.mk.injEq, List.not_mem_nil, or_false] at hmem
    rcases hmem with ⟨rfl, rfl⟩ | ⟨rfl, rfl⟩ | ⟨rfl, rfl⟩
    · exact ⟨readable_globalSettings c, by simp [Assoc.find?]⟩
    · exact ⟨readable_proxySettings c, by simp [Assoc.find?]⟩
    · exact ⟨readable_installSettings c, by simp [Assoc.find?]⟩
  exact Manifest.readAt?_data rfl ((SortedMap.get?_ofList (by simp)).trans hget.2) hget.1

open Catalogue.Controller in
/-- Every entry of the shared configuration is read as the settings that it was written from, among
them the namespace and the trust anchors of the control plane as they are. The flag for the
namespaces with automatic injection is there just when there are such namespaces, and splitting its
value at commas gives their names if no name has a comma in it. -/
theorem shared_settings_read (c : Configuration) :
    ∃ o, (∀ other, Catalogue.Provides c (.configMap, "linkerd-config") other ↔ other = o) ∧
      o.readAt? ["data", "global"] = some (globalSettings c) ∧
      o.readAt? ["data", "proxy"] = some (proxySettings c) ∧
      o.readAt? ["data", "install"] = some (installSettings c) ∧
      (globalSettings c).at? ["linkerdNamespace"] = some (.str c.ns) ∧
      (globalSettings c).at? ["identityContext", "trustAnchorsPem"] =
        some (.str c.certificates.trustAnchors) ∧
      ((installSettings c).flagValues "auto-injection-namespaces" ≠ [] ↔
        c.autoInjectionNamespaces ≠ []) ∧
      ((∀ name ∈ c.autoInjectionNamespaces, ',' ∉ name.toList) →
        ∀ value ∈ (installSettings c).flagValues "auto-injection-namespaces",
          (value.split ',').toList.map (·.copy) = c.autoInjectionNamespaces) := by
  refine ⟨(configMap c).managed.object, ?_, readAt?_configMap c (by simp),
    readAt?_configMap c (by simp), readAt?_configMap c (by simp), ?_, ?_, ?_, ?_⟩
  · exact Catalogue.provides_always "config-map" (s := subsystem)
      (by simp [Catalogue.controlPlane]) (by simp [subsystem]) rfl
  · simp [globalSettings]
  · simp [globalSettings]
  · rw [flagValues_installSettings]
    split
    next h => simp [h]
    next h => simp [h]
  · intro hcommas value hvalue
    rw [flagValues_installSettings] at hvalue
    split at hvalue
    next => cases hvalue
    next h =>
      rw [List.mem_singleton.1 hvalue]
      exact (String.toList_split_intercalate hcommas).trans (if_neg h)

/-- A record with trust anchors that have to be escaped and two namespaces with automatic injection,
one of them without a name. -/
def Record.injecting : Record :=
  { plain none with spec := { (plain none).spec with
      certificates := some ⟨"\"anchors\"\n\\ é", "", ""⟩
      autoInjectionNamespaces := ["", "démo"] } }

/-- Anchors and namespaces of the record are read back. -/
theorem shared_settings_read_injecting :
    ∃ c o global install, Configuration.resolve .injecting = .ok c ∧
      Catalogue.Provides c (.configMap, "linkerd-config") o ∧
      o.readAt? ["data", "global"] = some global ∧
      global.at? ["identityContext", "trustAnchorsPem"] = some (.str "\"anchors\"\n\\ é") ∧
      o.readAt? ["data", "install"] = some install ∧
      ∃ value ∈ install.flagValues "auto-injection-namespaces",
        (value.split ',').toList.map (·.copy) = ["", "démo"] := by
  obtain ⟨c, hc, hanchors, hnames⟩ : ∃ c, Configuration.resolve .injecting = .ok c ∧
      c.certificates.trustAnchors = "\"anchors\"\n\\ é" ∧
      c.autoInjectionNamespaces = ["", "démo"] := ⟨_, rfl, rfl, rfl⟩
  obtain ⟨o, ho, hglobal, -, hinstall, -, htext, hpresent, hsplit⟩ := shared_settings_read c
  obtain ⟨value, hvalue⟩ := List.exists_mem_of_ne_nil _ (hpresent.2 (by simp [hnames]))
  refine ⟨c, o, _, _, hc, (ho o).2 rfl, hglobal, hanchors ▸ htext, hinstall, value, hvalue, ?_⟩
  rw [← hnames]
  exact hsplit (by rw [hnames]; decide) value hvalue

end MeshOperator
