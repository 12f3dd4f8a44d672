import PodNetwork.Kubernetes.Shape

/-! The shapes of the kinds of object that are read back from an API server.

Only what is inside containers, volumes and the like is left open. -/
namespace PodNetwork.Kubernetes.Shape

def texts : Shape := .list .text

def labels : Shape := .map .text

def each (shape : Shape) (names : List String) : List (String × Shape) := names.map (·, shape)

def objectMeta : Shape := .record <|
  each .text ["generateName", "name", "namespace", "resourceVersion", "selfLink", "uid"] ++
  each .timestamp ["creationTimestamp", "deletionTimestamp"] ++
  each (.whole 64) ["deletionGracePeriodSeconds", "generation"] ++
  each labels ["annotations", "labels"] ++ [
    ("finalizers", texts),
    ("managedFields", .list <| .record <| ("time", .timestamp) ::
      each .text ["apiVersion", "fieldsType", "manager", "operation", "subresource"]),
    ("ownerReferences", .list <| .record <|
      each .truth ["blockOwnerDeletion", "controller"] ++
      each .text ["apiVersion", "kind", "name", "uid"])]

def object (kind apiVersion : String) (members : List (String × Shape)) : Shape :=
  .named kind apiVersion (("metadata", objectMeta) :: members)

def configMap : Shape :=
  object "ConfigMap" "v1" [("data", labels), ("binaryData", .map .base64), ("immutable", .truth)]

def taint : Shape := .record <| ("timeAdded", .timestamp) :: each .text ["effect", "key", "value"]

def conditions (times : List String) : Shape :=
  .list <| .record <| each .text ["message", "reason", "status", "type"] ++ each .timestamp times

def node : Shape := object "Node" "v1" [
  ("spec", .record <| each .text ["externalID", "podCIDR", "providerID"] ++
    [("podCIDRs", texts), ("taints", .list taint), ("unschedulable", .truth)]),
  ("status", .record <| each labels ["allocatable", "capacity"] ++ [
    ("addresses", .list <| .record <| each .text ["address", "type"]),
    ("conditions", conditions ["lastHeartbeatTime", "lastTransitionTime"]),
    ("images", .list <| .record [("names", texts), ("sizeBytes", .whole 64)]),
    ("nodeInfo", .record <| each .text ["architecture", "bootID", "containerRuntimeVersion",
      "kernelVersion", "kubeProxyVersion", "kubeletVersion", "machineID", "operatingSystem",
      "osImage", "systemUUID"]),
    ("phase", .text), ("volumesInUse", texts)])]

def container : Shape := .record <|
  each .text ["image", "imagePullPolicy", "name", "restartPolicy", "terminationMessagePath",
    "terminationMessagePolicy", "workingDir"] ++
  each .truth ["stdin", "stdinOnce", "tty"] ++ each texts ["args", "command"]

def podSpec : Shape := .record <|
  each .text ["dnsPolicy", "hostname", "nodeName", "preemptionPolicy", "priorityClassName",
    "restartPolicy", "runtimeClassName", "schedulerName", "serviceAccount", "serviceAccountName",
    "subdomain"] ++
  each .truth ["automountServiceAccountToken", "enableServiceLinks", "hostIPC", "hostNetwork",
    "hostPID", "hostUsers", "setHostnameAsFQDN", "shareProcessNamespace"] ++
  each (.whole 64) ["activeDeadlineSeconds", "terminationGracePeriodSeconds"] ++
  each (.list container) ["containers", "initContainers"] ++
  [("nodeSelector", labels), ("priority", .whole 32)]

def containerStatus : Shape := .record <|
  each .text ["containerID", "image", "imageID", "name"] ++ each .truth ["ready", "started"] ++
  [("restartCount", .whole 32)]

def pod : Shape := object "Pod" "v1" [
  ("spec", podSpec),
  ("status", .record <|
    each .text ["hostIP", "message", "nominatedNodeName", "phase", "podIP", "qosClass", "reason",
      "resize"] ++
    each (.list containerStatus) ["containerStatuses", "initContainerStatuses",
      "ephemeralContainerStatuses"] ++
    each (.list (.record [("ip", .text)])) ["hostIPs", "podIPs"] ++ [
      ("conditions", conditions ["lastProbeTime", "lastTransitionTime"]),
      ("startTime", .timestamp)])]

def labelSelector : Shape := .record [
  ("matchExpressions", .list <| .record <| ("values", texts) :: each .text ["key", "operator"]),
  ("matchLabels", labels)]

def daemonSet : Shape := object "DaemonSet" "apps/v1" [
  ("spec", .record <| each (.whole 32) ["minReadySeconds", "revisionHistoryLimit"] ++ [
    ("selector", labelSelector),
    ("template", .record [("metadata", objectMeta), ("spec", podSpec)]),
    ("updateStrategy", .record [
      ("rollingUpdate", .record (each .wholeOrText ["maxSurge", "maxUnavailable"])),
      ("type", .text)])]),
  ("status", .record <|
    each (.whole 32) ["collisionCount", "currentNumberScheduled", "desiredNumberScheduled",
      "numberAvailable", "numberMisscheduled", "numberReady", "numberUnavailable",
      "updatedNumberScheduled"] ++
    [("conditions", conditions ["lastTransitionTime"]), ("observedGeneration", .whole 64)])]

def listMeta : Shape := .record <|
  ("remainingItemCount", .whole 64) :: each .text ["continue", "resourceVersion", "selfLink"]

/-- The answer to a request that leaves no object to show. -/
def status : Shape := .named "Status" "v1" [
  ("code", .whole 32), ("message", .text), ("metadata", listMeta), ("reason", .text),
  ("status", .text),
  ("details", .record <| each .text ["group", "kind", "name", "uid"] ++ [
    ("causes", .list <| .record <| each .text ["field", "message", "reason"]),
    ("retryAfterSeconds", .whole 32)])]

end PodNetwork.Kubernetes.Shape
