import MeshOperator.Catalogue.Parts
import MeshOperator.Catalogue.Subsystem

/-!
Prometheus: collects the metrics of the control plane and of all proxies.
-/

namespace MeshOperator

set_option autoImplicit false

namespace Catalogue

namespace Prometheus

def component : String := "prometheus"

def account : String := "linkerd-prometheus"

def roleName : String := "linkerd-prometheus"

def configName : String := "linkerd-prometheus"

def configFile : String := "prometheus.yml"

def rules : List PolicyRule := [
  { apiGroups := [""]
    resources := ["nodes", "nodes/proxy", "pods"]
    verbs := ["get", "list", "watch"] }]

def scrapeConfig (ns : String) : String :=
  "global:\n" ++
  "  evaluation_interval: 10s\n" ++
  "  scrape_interval: 10s\n" ++
  "  scrape_timeout: 10s\n" ++
  "\n" ++
  "scrape_configs:\n" ++
  "- job_name: 'prometheus'\n" ++
  "  static_configs:\n" ++
  "  - targets: ['localhost:9090']\n" ++
  "\n" ++
  "- job_name: 'linkerd-controller'\n" ++
  "  kubernetes_sd_configs:\n" ++
  "  - role: pod\n" ++
  "    namespaces:\n" ++
  "      names: ['" ++ ns ++ "']\n" ++
  "  relabel_configs:\n" ++
  "  - source_labels:\n" ++
  "    - __meta_kubernetes_pod_label_linkerd_io_control_plane_component\n" ++
  "    - __meta_kubernetes_pod_container_port_name\n" ++
  "    action: keep\n" ++
  "    regex: (.*);admin-http$\n" ++
  "  - source_labels: [__meta_kubernetes_pod_container_name]\n" ++
  "    action: replace\n" ++
  "    target_label: component\n" ++
  "\n" ++
  "- job_name: 'linkerd-proxy'\n" ++
  "  kubernetes_sd_configs:\n" ++
  "  - role: pod\n" ++
  "  relabel_configs:\n" ++
  "  - source_labels:\n" ++
  "    - __meta_kubernetes_pod_container_name\n" ++
  "    - __meta_kubernetes_pod_container_port_name\n" ++
  "    - __meta_kubernetes_pod_label_linkerd_io_control_plane_ns\n" ++
  "    action: keep\n" ++
  "    regex: ^linkerd-proxy;linkerd-admin;" ++ ns ++ "$\n" ++
  "  - source_labels: [__meta_kubernetes_namespace]\n" ++
  "    action: replace\n" ++
  "    target_label: namespace\n" ++
  "  - source_labels: [__meta_kubernetes_pod_name]\n" ++
  "    action: replace\n" ++
  "    target_label: pod\n"

def configMap (c : Configuration) : Manifest :=
  namespaced configName (labels component c)
    (.configMap (.ofList [(configFile, scrapeConfig c.ns)])) c

def configPath : String := "/etc/prometheus/" ++ configFile

def container (c : Configuration) : Container :=
  { controlContainer "prometheus" c.prometheus [
      "--storage.tsdb.path=/data",
      "--storage.tsdb.retention.time=6h",
      "--config.file=" ++ configPath,
      "--log.level=" ++ c.logLevel] c with
    ports := [⟨"admin-http", 9090⟩]
    liveness := some ⟨"/-/healthy", .name "9090", some 30, none⟩
    readiness := some ⟨"/-/ready", .name "9090", some 30, none⟩
    mounts := [
      { volume := "data", path := "/data" },
      { volume := "prometheus-config"
        path := configPath
        subPath := some configFile
        readOnly := true }] }

def deployment (c : Configuration) : Manifest :=
  Workload.deployment {
    name := "linkerd-prometheus"
    component := component
    serviceAccount := account
    settings := c.prometheus
    container := container c
    volumes := [
      ⟨"data", .emptyDir none⟩,
      ⟨"prometheus-config", .configMap configName⟩] } c

def subsystem : Subsystem where
  name := component
  productions := [
    .always "service-account" (serviceAccount account component),
    .always "cluster-role" (clusterRole roleName component rules),
    .always "cluster-role-binding" (clusterRoleBinding roleName roleName account component),
    .always "config-map" configMap,
    .always "deployment" deployment,
    .always "service" (service "linkerd-prometheus" component [⟨"admin-http", 9090, .number 9090⟩])]

end Prometheus

end Catalogue

end MeshOperator
