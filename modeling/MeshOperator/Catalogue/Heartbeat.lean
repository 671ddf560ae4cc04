import MeshOperator.Catalogue.Parts
import MeshOperator.Catalogue.Subsystem
import MeshOperator.Text.Words

/-!
The heartbeat: a job on a schedule instead of a process that keeps running.
-/

namespace MeshOperator

set_option autoImplicit false

namespace Catalogue

namespace Heartbeat

def component : String := "heartbeat"

def account : String := "linkerd-heartbeat"

def roleName : String := "linkerd-heartbeat"

def rules : List PolicyRule := [
  { apiGroups := [""]
    resources := ["configmaps"]
    verbs := ["get"]
    resourceNames := [configMapName] }]

/-- A schedule has five fields. -/
def isSchedule (s : String) : Bool := Text.wordCount s = 5

def container (c : Configuration) : Container :=
  { controlContainer component c.heartbeat.workload [
      "heartbeat",
      prometheusUrlArg c,
      controllerNamespaceArg c,
      logLevelArg c] c with
    mounts := [] }

def podSpec (c : Configuration) : PodSpec where
  serviceAccount := account
  containers := [container c]
  initContainers := []
  volumes := []
  nodeSelector := c.heartbeat.workload.nodeSelector
  affinity := c.heartbeat.workload.affinity
  tolerations := c.heartbeat.workload.tolerations
  restartPolicy := some "Never"

def job (c : Configuration) : CronJob where
  schedule := c.heartbeat.schedule
  labels := workloadLabels component c
  template := {
    labels := workloadLabels component c
    annotations := podAnnotations c.heartbeat.workload c
    spec := podSpec c }

def cronJob (c : Configuration) : Except BuildError Manifest :=
  if isSchedule c.heartbeat.schedule then
    .ok (namespaced "linkerd-heartbeat" (workloadLabels component c) (.cronJob (job c)) c)
  else .error (.schedule c.heartbeat.schedule)

def subsystem : Subsystem where
  name := component
  productions := [
    .always "service-account" (serviceAccount account component),
    .always "role" (role roleName component rules),
    .always "role-binding" (roleBinding roleName roleName account component),
    .present "cron-job" cronJob]

end Heartbeat

end Catalogue

end MeshOperator
