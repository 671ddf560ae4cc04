import MeshOperator.Object.Shape

/-!
Shapes of the settings of a pod that a record may carry: resources, tolerations, security context
and affinity. The operator hands them on as they are.
-/

namespace MeshOperator

set_option autoImplicit false

namespace Shape

/-- A key, an operator and values: an expression of a label or node selector. -/
def requirement : Shape := .object [
  requiredText "key",
  requiredText "operator",
  optional "values" texts]

def labelSelector : Shape := .object [
  optional "matchExpressions" (.list requirement),
  optional "matchLabels" textMap]

def nodeSelectorTerm : Shape := .object [
  optional "matchExpressions" (.list requirement),
  optional "matchFields" (.list requirement)]

def nodeAffinity : Shape := .object [
  optional "preferredDuringSchedulingIgnoredDuringExecution" (.list (.object [
    ("preference", some (.obj []), nodeSelectorTerm),
    ("weight", some (.int 0), int32)])),
  optional "requiredDuringSchedulingIgnoredDuringExecution" (.object [
    requiredList "nodeSelectorTerms" nodeSelectorTerm])]

def podAffinityTerm : Shape := .object [
  optional "labelSelector" labelSelector,
  optional "matchLabelKeys" texts,
  optional "mismatchLabelKeys" texts,
  optional "namespaceSelector" labelSelector,
  optional "namespaces" texts,
  requiredText "topologyKey"]

/-- Attraction to other pods, and likewise repulsion. -/
def podAffinity : Shape := .object [
  optional "preferredDuringSchedulingIgnoredDuringExecution" (.list (.object [
    ("podAffinityTerm", some (.obj [("topologyKey", .str "")]), podAffinityTerm),
    ("weight", some (.int 0), int32)])),
  optional "requiredDuringSchedulingIgnoredDuringExecution" (.list podAffinityTerm)]

def affinity : Shape := .object [
  optional "nodeAffinity" nodeAffinity,
  optional "podAffinity" podAffinity,
  optional "podAntiAffinity" podAffinity]

def toleration : Shape := .object [
  optional "effect" .text,
  optional "key" .text,
  optional "operator" .text,
  optional "tolerationSeconds" int64,
  optional "value" .text]

def securityContext : Shape := .object [
  optional "allowPrivilegeEscalation" .flag,
  optional "capabilities" (.object [
    optional "add" texts,
    optional "drop" texts]),
  optional "privileged" .flag,
  optional "procMount" .text,
  optional "readOnlyRootFilesystem" .flag,
  optional "runAsGroup" int64,
  optional "runAsNonRoot" .flag,
  optional "runAsUser" int64,
  optional "seLinuxOptions" (.object [
    optional "level" .text,
    optional "role" .text,
    optional "type" .text,
    optional "user" .text]),
  optional "seccompProfile" (.object [
    optional "localhostProfile" .text,
    requiredText "type"]),
  optional "windowsOptions" (.object [
    optional "gmsaCredentialSpec" .text,
    optional "gmsaCredentialSpecName" .text,
    optional "hostProcess" .flag,
    optional "runAsUserName" .text])]

def resources : Shape := .object [
  optional "claims" (.list (.object [requiredText "name"])),
  optional "limits" textMap,
  optional "requests" textMap]

/-! ## The shapes are well-formed -/

theorem wellFormed_requirement : requirement.WellFormed :=
  wellFormed_object (by decide) (by simp)

theorem wellFormed_labelSelector : labelSelector.WellFormed :=
  wellFormed_object (by decide) (by simp [WellFormed, wellFormed_requirement])

theorem wellFormed_nodeSelectorTerm : nodeSelectorTerm.WellFormed :=
  wellFormed_object (by decide) (by simp [WellFormed, wellFormed_requirement])

theorem wellFormed_nodeAffinity : nodeAffinity.WellFormed := by
  have hempty : nodeSelectorTerm.prune (.obj []) = some (.obj []) := rfl
  have hzero : int32.prune (.int 0) = some (.int 0) := rfl
  exact wellFormed_object (by decide)
    (by simp +decide [WellFormed, wellFormed_nodeSelectorTerm, hempty, hzero])

theorem wellFormed_podAffinityTerm : podAffinityTerm.WellFormed :=
  wellFormed_object (by decide) (by simp [wellFormed_labelSelector])

theorem wellFormed_podAffinity : podAffinity.WellFormed := by
  have hempty : podAffinityTerm.prune (.obj [("topologyKey", .str "")])
      = some (.obj [("topologyKey", .str "")]) := rfl
  have hzero : int32.prune (.int 0) = some (.int 0) := rfl
  exact wellFormed_object (by decide)
    (by simp +decide [WellFormed, wellFormed_podAffinityTerm, hempty, hzero])

theorem wellFormed_affinity : affinity.WellFormed :=
  wellFormed_object (by decide) (by simp [wellFormed_nodeAffinity, wellFormed_podAffinity])

theorem wellFormed_toleration : toleration.WellFormed :=
  wellFormed_object (by decide) (by simp [WellFormed])

theorem wellFormed_securityContext : securityContext.WellFormed :=
  wellFormed_object (by decide) (by simp +decide [WellFormed])

theorem wellFormed_resources : resources.WellFormed :=
  wellFormed_object (by decide) (by simp [WellFormed])

end Shape

abbrev Affinity := Pruned Shape.affinity

abbrev Toleration := Pruned Shape.toleration

abbrev SecurityContext := Pruned Shape.securityContext

/-- Compute resources: limits and requests by resource name. -/
abbrev Resources := Pruned Shape.resources

namespace Resources

/-- Limits and requests of processor and memory. -/
def ofQuantities (limitCpu limitMemory requestCpu requestMemory : String) : Resources where
  value := .obj [
    ("limits", .obj [("cpu", .str limitCpu), ("memory", .str limitMemory)]),
    ("requests", .obj [("cpu", .str requestCpu), ("memory", .str requestMemory)])]
  isPruned := ⟨.obj [
    ("limits", .obj [("cpu", .str limitCpu), ("memory", .str limitMemory)]),
    ("requests", .obj [("cpu", .str requestCpu), ("memory", .str requestMemory)])], by
      have hc : compare "memory" "cpu" = .gt := by decide
      simp [Shape.resources, Shape.textMap, Shape.prune, Shape.pruneFields, Shape.optional,
        Assoc.find?, Json.object, Assoc.insertAll, Assoc.insert, hc]⟩

end Resources

namespace SecurityContext

/-- Run as this user, nothing else said. -/
def ofUser (user : Nat) (small : user ≤ 65535) : SecurityContext where
  value := .obj [("runAsUser", .int user)]
  isPruned := ⟨.obj [("runAsUser", .int user)], by
    have h : (-9223372036854775808 : Int) ≤ user ∧ (user : Int) ≤ 9223372036854775807 := by omega
    simp [Shape.securityContext, Shape.prune, Shape.pruneFields, Shape.optional,
      Shape.requiredText, Shape.int64, Assoc.find?, h]⟩

end SecurityContext

end MeshOperator
