import Boilerplate.Catalog.BuiltIn.SharedFields

/-!
# Security

Definitions for security policies.
-/

namespace Boilerplate.BuiltIn

def podPolicyManifest : String := unlines [
  "apiVersion: policy/v1beta1",
  "kind: PodSecurityPolicy",
  "metadata:",
  "  name: <%= policyName | kebab %>",
  "  labels:",
  "    app: <%= policyName | kebab %>",
  "spec:",
  "  privileged: <%= allowPrivileged %>",
  "  allowPrivilegeEscalation: false",
  "  requiredDropCapabilities:",
  "    - ALL",
  "  volumes:",
  "    - 'configMap'",
  "    - 'emptyDir'",
  "    - 'projected'",
  "    - 'secret'",
  "    - 'downwardAPI'",
  "    - 'persistentVolumeClaim'",
  "  hostNetwork: <%= allowHostNetwork %>",
  "  hostIPC: false",
  "  hostPID: false",
  "  runAsUser:",
  "    rule: 'MustRunAsNonRoot'",
  "  seLinux:",
  "    rule: 'RunAsAny'",
  "  supplementalGroups:",
  "    rule: 'MustRunAs'",
  "    ranges:",
  "      - min: 1",
  "        max: 65535",
  "  fsGroup:",
  "    rule: 'MustRunAs'",
  "    ranges:",
  "      - min: 1",
  "        max: 65535",
  "  readOnlyRootFilesystem: true"]

def podPolicyRoles : String := unlines [
  "apiVersion: rbac.authorization.k8s.io/v1",
  "kind: ClusterRole",
  "metadata:",
  "  name: <%= policyName | kebab %>-psp-use",
  "  labels:",
  "    app: <%= policyName | kebab %>",
  "rules:",
  "- apiGroups: ['policy']",
  "  resources: ['podsecuritypolicies']",
  "  verbs: ['use']",
  "  resourceNames:",
  "  - <%= policyName | kebab %>",
  "---",
  "apiVersion: rbac.authorization.k8s.io/v1",
  "kind: ClusterRoleBinding",
  "metadata:",
  "  name: <%= policyName | kebab %>-psp-use",
  "  labels:",
  "    app: <%= policyName | kebab %>",
  "roleRef:",
  "  kind: ClusterRole",
  "  name: <%= policyName | kebab %>-psp-use",
  "  apiGroup: rbac.authorization.k8s.io",
  "subjects:",
  "- kind: ServiceAccount",
  "  name: default",
  "  namespace: default"]

def networkPolicyManifest : String := unlines [
  "apiVersion: networking.k8s.io/v1",
  "kind: NetworkPolicy",
  "metadata:",
  "  name: <%= policyName | kebab %>",
  "  namespace: <%= namespace | lower %>",
  "  labels:",
  "    app: <%= policyName | kebab %>",
  "spec:",
  "  podSelector:",
  "    matchLabels:",
  "      app: webapp",
  "  policyTypes:",
  "<% for policy in policyType %>",
  "  - <%= policy %>",
  "<% endfor %>",
  "<% if policyType has \"Ingress\" %>",
  "  ingress:",
  "  - from:",
  "    - podSelector:",
  "        matchLabels:",
  "          app: frontend",
  "    - namespaceSelector:",
  "        matchLabels:",
  "          name: production",
  "    ports:",
  "    - protocol: TCP",
  "      port: 8080",
  "<% endif %>",
  "<% if policyType has \"Egress\" %>",
  "  egress:",
  "  - to:",
  "    - podSelector:",
  "        matchLabels:",
  "          app: database",
  "    ports:",
  "    - protocol: TCP",
  "      port: 5432",
  "  - to: []",
  "    ports:",
  "    - protocol: TCP",
  "      port: 53",
  "    - protocol: UDP",
  "      port: 53",
  "<% endif %>"]

def denyAllManifest : String := unlines [
  "apiVersion: networking.k8s.io/v1",
  "kind: NetworkPolicy",
  "metadata:",
  "  name: deny-all-<%= namespace | lower %>",
  "  namespace: <%= namespace | lower %>",
  "  labels:",
  "    app: security",
  "spec:",
  "  podSelector: \x7b\x7d",
  "  policyTypes:",
  "  - Ingress",
  "  - Egress"]

def podSecurityPolicy : Definition where
  id := "pod-security-policy"
  name := "Pod Security Policy"
  description := "Kubernetes Pod Security Policy with best practices"
  category := "security"
  version := Definition.defaultVersion
  files := [
    ⟨"pod-security-policy.yaml", "./security/pod-security-policy.yaml",
      podPolicyManifest, "yaml"⟩,
    ⟨"rbac.yaml", "./security/rbac.yaml",
      podPolicyRoles, "yaml"⟩]
  fields := [
    (Field.plain "policyName" "Policy Name" .text)
        |>.mandatory
        |>.describedAs "Name of the security policy",
    (Field.plain "allowPrivileged" "Allow Privileged" .boolean)
        |>.withDefault (.boolean false)
        |>.describedAs "Allow privileged containers",
    (Field.plain "allowHostNetwork" "Allow Host Network" .boolean)
        |>.withDefault (.boolean false)
        |>.describedAs "Allow host network access"]
  examples := .ofList [("restrictive", .ofList [
    ("policyName", .text "restrictive-psp"),
    ("allowPrivileged", .boolean false),
    ("allowHostNetwork", .boolean false)])]

def networkPolicy : Definition where
  id := "network-policy"
  name := "Network Policy"
  description := "Kubernetes Network Policy for microsegmentation"
  category := "security"
  version := Definition.defaultVersion
  files := [
    ⟨"network-policy.yaml", "./security/network-policy.yaml",
      networkPolicyManifest, "yaml"⟩,
    ⟨"deny-all-network-policy.yaml", "./security/deny-all-network-policy.yaml",
      denyAllManifest, "yaml"⟩]
  fields := [
    (Field.plain "policyName" "Policy Name" .text)
        |>.mandatory
        |>.describedAs "Name of the network policy",
    kubernetesNamespace,
    (Field.choice "policyType" "Policy Type" .multiSelect (selfLabelled ["Ingress", "Egress"]))
        |>.mandatory
        |>.withDefault (.list ["Ingress", "Egress"])
        |>.describedAs "Type of network policy"]
  examples := .ofList [("webapp-policy", .ofList [
    ("policyName", .text "webapp-network-policy"),
    ("namespace", .text "production"),
    ("policyType", .list ["Ingress", "Egress"])])]

end Boilerplate.BuiltIn
