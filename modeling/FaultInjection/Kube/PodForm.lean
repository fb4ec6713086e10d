import FaultInjection.Json.Shape

/-!
# The form of pods

What the members of a pod may be, as version 1.30 of the interface has it. Everything may be absent,
but what is there must have its form, although little of it is read.
-/

namespace FaultInjection.Kube.PodForm

open Json Number

/-! ## Common forms -/

/-- Texts in order. -/
def texts : Shape := .list .text

/-- Texts by name. -/
def textTable : Shape := .table .text

/-- A whole number of thirty-two bits. -/
def int32 : Shape := .whole (.signed 32)

/-- A whole number of sixty-four bits. -/
def int64 : Shape := .whole (.signed 64)

/-- The name or the number of a port. -/
def port : Shape := .wholeOrText (.signed 32)

/-- Amounts by name, which are written as texts. -/
def amounts : Shape := .table .text

/-- A record of texts. -/
def textRecord (names : List String) : Shape := .record (names.map (·, .text))

/-- A reference to something by name. -/
def nameRecord : Shape := textRecord ["name"]

/-! ## Metadata -/

/-- What one party manages. -/
def managedFields : Shape := .record [
  ("apiVersion", .text), ("fieldsType", .text), ("fieldsV1", .any), ("manager", .text),
  ("operation", .text), ("subresource", .text), ("time", .time)]

/-- What something belongs to. -/
def ownerReference : Shape := .record [
  ("apiVersion", .text), ("blockOwnerDeletion", .flag), ("controller", .flag), ("kind", .text),
  ("name", .text), ("uid", .text)]

/-- The members that any described object has. -/
def metadata : Shape := .record [
  ("annotations", textTable), ("creationTimestamp", .time), ("deletionGracePeriodSeconds", int64),
  ("deletionTimestamp", .time), ("finalizers", texts), ("generateName", .text),
  ("generation", int64), ("labels", textTable), ("managedFields", .list managedFields),
  ("name", .text), ("namespace", .text), ("ownerReferences", .list ownerReference),
  ("resourceVersion", .text), ("selfLink", .text), ("uid", .text)]

/-- The members of a list that are not its items. -/
def listMetadata : Shape := .record [
  ("continue", .text), ("remainingItemCount", int64), ("resourceVersion", .text),
  ("selfLink", .text)]

/-! ## Placement -/

/-- A condition on a label. -/
def requirement : Shape := .record [("key", .text), ("operator", .text), ("values", texts)]

/-- Conditions on labels. -/
def labelSelector : Shape := .record [
  ("matchExpressions", .list requirement), ("matchLabels", textTable)]

/-- Conditions on a node. -/
def nodeTerm : Shape := .record [
  ("matchExpressions", .list requirement), ("matchFields", .list requirement)]

/-- Which nodes are preferred or required. -/
def nodeAffinity : Shape := .record [
  ("preferredDuringSchedulingIgnoredDuringExecution",
    .list (.record [("preference", nodeTerm), ("weight", int32)])),
  ("requiredDuringSchedulingIgnoredDuringExecution",
    .record [("nodeSelectorTerms", .list nodeTerm)])]

/-- Conditions on other pods. -/
def podTerm : Shape := .record [
  ("labelSelector", labelSelector), ("matchLabelKeys", texts), ("mismatchLabelKeys", texts),
  ("namespaceSelector", labelSelector), ("namespaces", texts), ("topologyKey", .text)]

/-- Which other pods are sought or avoided. -/
def podAffinity : Shape := .record [
  ("preferredDuringSchedulingIgnoredDuringExecution",
    .list (.record [("podAffinityTerm", podTerm), ("weight", int32)])),
  ("requiredDuringSchedulingIgnoredDuringExecution", .list podTerm)]

/-- Where a pod may be placed. -/
def affinity : Shape := .record [
  ("nodeAffinity", nodeAffinity), ("podAffinity", podAffinity), ("podAntiAffinity", podAffinity)]

/-- Which taints a pod tolerates. -/
def toleration : Shape := .record [
  ("effect", .text), ("key", .text), ("operator", .text), ("tolerationSeconds", int64),
  ("value", .text)]

/-- How pods are spread. -/
def spread : Shape := .record [
  ("labelSelector", labelSelector), ("matchLabelKeys", texts), ("maxSkew", int32),
  ("minDomains", int32), ("nodeAffinityPolicy", .text), ("nodeTaintsPolicy", .text),
  ("topologyKey", .text), ("whenUnsatisfiable", .text)]

/-! ## Containers -/

/-- A value among others of its kind. -/
def keyReference : Shape := .record [("key", .text), ("name", .text), ("optional", .flag)]

/-- Something that need not be there. -/
def optionalReference : Shape := .record [("name", .text), ("optional", .flag)]

/-- A part of the description itself. -/
def fieldReference : Shape := textRecord ["apiVersion", "fieldPath"]

/-- An amount of a container. -/
def resourceReference : Shape := textRecord ["containerName", "divisor", "resource"]

/-- A variable of a container. -/
def envVariable : Shape := .record [
  ("name", .text), ("value", .text),
  ("valueFrom", .record [
    ("configMapKeyRef", keyReference), ("fieldRef", fieldReference),
    ("resourceFieldRef", resourceReference), ("secretKeyRef", keyReference)])]

/-- Variables that are taken together. -/
def envSource : Shape := .record [
  ("configMapRef", optionalReference), ("prefix", .text), ("secretRef", optionalReference)]

/-- A command. -/
def execAction : Shape := .record [("command", texts)]

/-- A request. -/
def httpAction : Shape := .record [
  ("host", .text), ("httpHeaders", .list (textRecord ["name", "value"])), ("path", .text),
  ("port", port), ("scheme", .text)]

/-- A connection. -/
def socketAction : Shape := .record [("host", .text), ("port", port)]

/-- Something that is done at a point of a container's life. -/
def handler : Shape := .record [
  ("exec", execAction), ("httpGet", httpAction), ("sleep", .record [("seconds", int64)]),
  ("tcpSocket", socketAction)]

/-- How it is found out how a container is doing. -/
def probe : Shape := .record [
  ("exec", execAction), ("failureThreshold", int32),
  ("grpc", .record [("port", int32), ("service", .text)]), ("httpGet", httpAction),
  ("initialDelaySeconds", int32), ("periodSeconds", int32), ("successThreshold", int32),
  ("tcpSocket", socketAction), ("terminationGracePeriodSeconds", int64),
  ("timeoutSeconds", int32)]

/-- A port of a container. -/
def containerPort : Shape := .record [
  ("containerPort", int32), ("hostIP", .text), ("hostPort", int32), ("name", .text),
  ("protocol", .text)]

/-- The amounts that a container claims. -/
def resources : Shape := .record [
  ("claims", .list nameRecord), ("limits", amounts), ("requests", amounts)]

/-- A profile that restricts what can be done. -/
def profile : Shape := textRecord ["localhostProfile", "type"]

/-- Labels of a security module. -/
def securityLabels : Shape := textRecord ["level", "role", "type", "user"]

/-- Options of one platform. -/
def platformOptions : Shape := .record [
  ("gmsaCredentialSpec", .text), ("gmsaCredentialSpecName", .text), ("hostProcess", .flag),
  ("runAsUserName", .text)]

/-- What a container may do. -/
def securityContext : Shape := .record [
  ("allowPrivilegeEscalation", .flag), ("appArmorProfile", profile),
  ("capabilities", .record [("add", texts), ("drop", texts)]), ("privileged", .flag),
  ("procMount", .text), ("readOnlyRootFilesystem", .flag), ("runAsGroup", int64),
  ("runAsNonRoot", .flag), ("runAsUser", int64), ("seLinuxOptions", securityLabels),
  ("seccompProfile", profile), ("windowsOptions", platformOptions)]

/-- Where a container sees a volume. -/
def mount : Shape := .record [
  ("mountPath", .text), ("mountPropagation", .text), ("name", .text), ("readOnly", .flag),
  ("recursiveReadOnly", .text), ("subPath", .text), ("subPathExpr", .text)]

/-- What is said of any container. -/
def containerFields : List (String × Shape) := [
  ("args", texts), ("command", texts), ("env", .list envVariable), ("envFrom", .list envSource),
  ("image", .text), ("imagePullPolicy", .text),
  ("lifecycle", .record [("postStart", handler), ("preStop", handler)]),
  ("livenessProbe", probe), ("name", .text), ("ports", .list containerPort),
  ("readinessProbe", probe),
  ("resizePolicy", .list (textRecord ["resourceName", "restartPolicy"])),
  ("resources", resources), ("restartPolicy", .text), ("securityContext", securityContext),
  ("startupProbe", probe), ("stdin", .flag), ("stdinOnce", .flag),
  ("terminationMessagePath", .text), ("terminationMessagePolicy", .text), ("tty", .flag),
  ("volumeDevices", .list (textRecord ["devicePath", "name"])), ("volumeMounts", .list mount),
  ("workingDir", .text)]

/-- A container. -/
def container : Shape := .record containerFields

/-- A container that is added to a pod. -/
def addedContainer : Shape := .record (("targetContainerName", .text) :: containerFields)

/-! ## Volumes -/

/-- A file of a volume. -/
def keyToPath : Shape := .record [("key", .text), ("mode", int32), ("path", .text)]

/-- A file that tells of the pod. -/
def downwardFile : Shape := .record [
  ("fieldRef", fieldReference), ("mode", int32), ("path", .text),
  ("resourceFieldRef", resourceReference)]

/-- A source of a volume with others. -/
def projection : Shape := .record [
  ("clusterTrustBundle", .record [
    ("labelSelector", labelSelector), ("name", .text), ("optional", .flag), ("path", .text),
    ("signerName", .text)]),
  ("configMap", .record [("items", .list keyToPath), ("name", .text), ("optional", .flag)]),
  ("downwardAPI", .record [("items", .list downwardFile)]),
  ("secret", .record [("items", .list keyToPath), ("name", .text), ("optional", .flag)]),
  ("serviceAccountToken", .record [
    ("audience", .text), ("expirationSeconds", int64), ("path", .text)])]

/-- A claim of storage. -/
def storageClaim : Shape := .record [
  ("accessModes", texts), ("dataSource", textRecord ["apiGroup", "kind", "name"]),
  ("dataSourceRef", textRecord ["apiGroup", "kind", "name", "namespace"]),
  ("resources", .record [("limits", amounts), ("requests", amounts)]),
  ("selector", labelSelector), ("storageClassName", .text),
  ("volumeAttributesClassName", .text), ("volumeMode", .text), ("volumeName", .text)]

/-- The volumes that a cluster itself provides. -/
def localVolumes : List (String × Shape) := [
  ("configMap", .record [
    ("defaultMode", int32), ("items", .list keyToPath), ("name", .text), ("optional", .flag)]),
  ("csi", .record [
    ("driver", .text), ("fsType", .text), ("nodePublishSecretRef", nameRecord),
    ("readOnly", .flag), ("volumeAttributes", textTable)]),
  ("downwardAPI", .record [("defaultMode", int32), ("items", .list downwardFile)]),
  ("emptyDir", textRecord ["medium", "sizeLimit"]),
  ("ephemeral", .record [
    ("volumeClaimTemplate", .record [("metadata", metadata), ("spec", storageClaim)])]),
  ("gitRepo", textRecord ["directory", "repository", "revision"]),
  ("hostPath", textRecord ["path", "type"]), ("name", .text),
  ("persistentVolumeClaim", .record [("claimName", .text), ("readOnly", .flag)]),
  ("projected", .record [("defaultMode", int32), ("sources", .list projection)]),
  ("secret", .record [
    ("defaultMode", int32), ("items", .list keyToPath), ("optional", .flag),
    ("secretName", .text)])]

/-- The volumes that others provide. -/
def remoteVolumes : List (String × Shape) := [
  ("awsElasticBlockStore", .record [
    ("fsType", .text), ("partition", int32), ("readOnly", .flag), ("volumeID", .text)]),
  ("azureDisk", .record [
    ("cachingMode", .text), ("diskName", .text), ("diskURI", .text), ("fsType", .text),
    ("kind", .text), ("readOnly", .flag)]),
  ("azureFile", .record [("readOnly", .flag), ("secretName", .text), ("shareName", .text)]),
  ("cephfs", .record [
    ("monitors", texts), ("path", .text), ("readOnly", .flag), ("secretFile", .text),
    ("secretRef", nameRecord), ("user", .text)]),
  ("cinder", .record [
    ("fsType", .text), ("readOnly", .flag), ("secretRef", nameRecord), ("volumeID", .text)]),
  ("fc", .record [
    ("fsType", .text), ("lun", int32), ("readOnly", .flag), ("targetWWNs", texts),
    ("wwids", texts)]),
  ("flexVolume", .record [
    ("driver", .text), ("fsType", .text), ("options", textTable), ("readOnly", .flag),
    ("secretRef", nameRecord)]),
  ("flocker", textRecord ["datasetName", "datasetUUID"]),
  ("gcePersistentDisk", .record [
    ("fsType", .text), ("partition", int32), ("pdName", .text), ("readOnly", .flag)]),
  ("glusterfs", .record [("endpoints", .text), ("path", .text), ("readOnly", .flag)]),
  ("iscsi", .record [
    ("chapAuthDiscovery", .flag), ("chapAuthSession", .flag), ("fsType", .text),
    ("initiatorName", .text), ("iqn", .text), ("iscsiInterface", .text), ("lun", int32),
    ("portals", texts), ("readOnly", .flag), ("secretRef", nameRecord),
    ("targetPortal", .text)]),
  ("nfs", .record [("path", .text), ("readOnly", .flag), ("server", .text)]),
  ("photonPersistentDisk", textRecord ["fsType", "pdID"]),
  ("portworxVolume", .record [("fsType", .text), ("readOnly", .flag), ("volumeID", .text)]),
  ("quobyte", .record [
    ("group", .text), ("readOnly", .flag), ("registry", .text), ("tenant", .text),
    ("user", .text), ("volume", .text)]),
  ("rbd", .record [
    ("fsType", .text), ("image", .text), ("keyring", .text), ("monitors", texts),
    ("pool", .text), ("readOnly", .flag), ("secretRef", nameRecord), ("user", .text)]),
  ("scaleIO", .record [
    ("fsType", .text), ("gateway", .text), ("protectionDomain", .text), ("readOnly", .flag),
    ("secretRef", nameRecord), ("sslEnabled", .flag), ("storageMode", .text),
    ("storagePool", .text), ("system", .text), ("volumeName", .text)]),
  ("storageos", .record [
    ("fsType", .text), ("readOnly", .flag), ("secretRef", nameRecord), ("volumeName", .text),
    ("volumeNamespace", .text)]),
  ("vsphereVolume", textRecord ["fsType", "storagePolicyID", "storagePolicyName", "volumePath"])]

/-- A volume. -/
def volume : Shape := .record (localVolumes ++ remoteVolumes)

/-! ## What a pod is to be -/

/-- How names are resolved. -/
def nameService : Shape := .record [
  ("nameservers", texts), ("options", .list (textRecord ["name", "value"])), ("searches", texts)]

/-- What the containers of a pod may do. -/
def podSecurityContext : Shape := .record [
  ("appArmorProfile", profile), ("fsGroup", int64), ("fsGroupChangePolicy", .text),
  ("runAsGroup", int64), ("runAsNonRoot", .flag), ("runAsUser", int64),
  ("seLinuxOptions", securityLabels), ("seccompProfile", profile),
  ("supplementalGroups", .list int64), ("sysctls", .list (textRecord ["name", "value"])),
  ("windowsOptions", platformOptions)]

/-- A resource that a pod claims. -/
def resourceClaim : Shape := .record [
  ("name", .text), ("source", textRecord ["resourceClaimName", "resourceClaimTemplateName"])]

/-- What a pod is to consist of. -/
def spec : Shape := .record [
  ("activeDeadlineSeconds", int64), ("affinity", affinity),
  ("automountServiceAccountToken", .flag), ("containers", .list container),
  ("dnsConfig", nameService), ("dnsPolicy", .text), ("enableServiceLinks", .flag),
  ("ephemeralContainers", .list addedContainer),
  ("hostAliases", .list (.record [("hostnames", texts), ("ip", .text)])), ("hostIPC", .flag),
  ("hostNetwork", .flag), ("hostPID", .flag), ("hostUsers", .flag), ("hostname", .text),
  ("imagePullSecrets", .list nameRecord), ("initContainers", .list container),
  ("nodeName", .text), ("nodeSelector", textTable), ("os", nameRecord), ("overhead", amounts),
  ("preemptionPolicy", .text), ("priority", int32), ("priorityClassName", .text),
  ("readinessGates", .list (textRecord ["conditionType"])),
  ("resourceClaims", .list resourceClaim), ("restartPolicy", .text),
  ("runtimeClassName", .text), ("schedulerName", .text), ("schedulingGates", .list nameRecord),
  ("securityContext", podSecurityContext), ("serviceAccount", .text),
  ("serviceAccountName", .text), ("setHostnameAsFQDN", .flag), ("shareProcessNamespace", .flag),
  ("subdomain", .text), ("terminationGracePeriodSeconds", int64),
  ("tolerations", .list toleration), ("topologySpreadConstraints", .list spread),
  ("volumes", .list volume)]

/-! ## How a pod is doing -/

/-- The states of a container. -/
def state : Shape := .record [
  ("running", .record [("startedAt", .time)]),
  ("terminated", .record [
    ("containerID", .text), ("exitCode", int32), ("finishedAt", .time), ("message", .text),
    ("reason", .text), ("signal", int32), ("startedAt", .time)]),
  ("waiting", textRecord ["message", "reason"])]

/-- What is told of a container. -/
def containerStatus : Shape := .record [
  ("allocatedResources", amounts), ("containerID", .text), ("image", .text), ("imageID", .text),
  ("lastState", state), ("name", .text), ("ready", .flag), ("resources", resources),
  ("restartCount", int32), ("started", .flag), ("state", state),
  ("volumeMounts", .list (.record [
    ("mountPath", .text), ("name", .text), ("readOnly", .flag), ("recursiveReadOnly", .text)]))]

/-- Something that holds of a pod or not. -/
def condition : Shape := .record [
  ("lastProbeTime", .time), ("lastTransitionTime", .time), ("message", .text), ("reason", .text),
  ("status", .text), ("type", .text)]

/-- What is told of a pod. -/
def status : Shape := .record [
  ("conditions", .list condition), ("containerStatuses", .list containerStatus),
  ("ephemeralContainerStatuses", .list containerStatus), ("hostIP", .text),
  ("hostIPs", .list (textRecord ["ip"])), ("initContainerStatuses", .list containerStatus),
  ("message", .text), ("nominatedNodeName", .text), ("phase", .text), ("podIP", .text),
  ("podIPs", .list (textRecord ["ip"])), ("qosClass", .text), ("reason", .text),
  ("resize", .text),
  ("resourceClaimStatuses", .list (textRecord ["name", "resourceClaimName"])),
  ("startTime", .time)]

/-! ## Pods -/

/-- The description of a pod. -/
def pod : Shape := .record [
  ("apiVersion", .word "v1"), ("kind", .word "Pod"), ("metadata", metadata), ("spec", spec),
  ("status", status)]

end FaultInjection.Kube.PodForm
